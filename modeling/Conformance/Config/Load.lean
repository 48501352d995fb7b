import Conformance.Config.Value
import Conformance.Item.Pattern
import Conformance.Projector.Adaptive

/-!
Projection-set configurations and loading them.

A configuration names item types to register, a source and a target type, whether patterns
ignore case, a projector strategy, a reorganisation interval and a list of projections
(pattern, target template, sides). Loading registers the types, resolves the source and
target types by name, compiles every projection in order (pattern first, then template),
and builds the projector the strategy names. The first error ends loading.
-/

set_option autoImplicit false

namespace Conformance.Config

/-- An item type to register. -/
structure ItemTypeConfig where
  name : String
  fields : List String
deriving Inhabited

/-- One projection: pattern text, target template text and the sides it serves. -/
structure ProjectionConfig where
  pattern : String
  target : String
  side : ProjectionSide := .both
deriving Inhabited

/-- A projection-set configuration. -/
structure ProjectionSetConfig where
  itemTypes : List ItemTypeConfig := []
  sourceType : String
  targetType : String
  ignoreCase : Bool := false
  strategy : ProjectorStrategy := .prefixTrie
  reorganizeInterval : Nat := defaultInterval
  projections : List ProjectionConfig
deriving Inhabited

/-- An item type configuration. -/
def decodeItemType (v : Value) : Decoded ItemTypeConfig := do
  let specs : List FieldSpec :=
    [⟨"name", false, problem decodeString⟩,
     ⟨"fields", false, problem (decodeList decodeString)⟩]
  let fs ← checkStruct "ItemTypeConfig" specs v
  pure { name := ← fieldOr fs "name" "" decodeString,
         fields := ← fieldOr fs "fields" [] (decodeList decodeString) }

/-- The sides a projection may serve, by name. -/
def sideVariants : List (String × ProjectionSide) :=
  [("left", .left), ("right", .right), ("both", .both)]

/-- The strategies by name. -/
def strategyVariants : List (String × ProjectorStrategy) :=
  [("simple", .simple), ("first_letter", .firstLetter), ("prefix_trie", .prefixTrie)]

/-- A projection configuration. -/
def decodeProjection (v : Value) : Decoded ProjectionConfig := do
  let specs : List FieldSpec :=
    [⟨"pattern", false, problem decodeString⟩, ⟨"target", false, problem decodeString⟩,
     ⟨"side", true, problem (decodeVariant sideVariants)⟩]
  let fs ← checkStruct "ProjectionConfig" specs v
  pure { pattern := ← fieldOr fs "pattern" "" decodeString,
         target := ← fieldOr fs "target" "" decodeString,
         side := ← fieldOr fs "side" .both (decodeVariant sideVariants) }

/-- A projection-set configuration. -/
def decodeProjectionSet (v : Value) : Decoded ProjectionSetConfig := do
  let specs : List FieldSpec :=
    [⟨"item_types", true, problem (decodeList decodeItemType)⟩,
     ⟨"source_type", false, problem decodeString⟩,
     ⟨"target_type", false, problem decodeString⟩,
     ⟨"ignore_case", true, problem decodeBool⟩,
     ⟨"strategy", true, problem (decodeVariant strategyVariants)⟩,
     ⟨"reorganize_interval", true, problem decodeUsize⟩,
     ⟨"projections", false, problem (decodeList decodeProjection)⟩]
  let fs ← checkStruct "ProjectionSetConfig" specs v
  pure { itemTypes := ← fieldOr fs "item_types" [] (decodeList decodeItemType),
         sourceType := ← fieldOr fs "source_type" "" decodeString,
         targetType := ← fieldOr fs "target_type" "" decodeString,
         ignoreCase := ← fieldOr fs "ignore_case" false decodeBool,
         strategy := ← fieldOr fs "strategy" .prefixTrie (decodeVariant strategyVariants),
         reorganizeInterval := ← fieldOr fs "reorganize_interval" defaultInterval decodeUsize,
         projections := ← fieldOr fs "projections" [] (decodeList decodeProjection) }

end Conformance.Config

namespace Conformance

open Conformance.Config

/-- A loaded projection set: its types, strategy, projections and projector. -/
structure ProjectionSet where
  sourceType : ItemType
  targetType : ItemType
  strategy : ProjectorStrategy
  projections : Array Projection
  projector : Projector
deriving Inhabited

namespace ProjectionSet

/-- Reads an item of the source type. -/
def parseItem (s : ProjectionSet) (text : String) : Item := Item.parse s.sourceType text

/-- Projects an item on a side. -/
def project (s : ProjectionSet) (x : Item) (side : Side) : Option Item × ProjectionSet :=
  let (r, p) := s.projector.project x side
  (r, { s with projector := p })

/-- The number of projections. -/
def len (s : ProjectionSet) : Nat := s.projections.size

/-- Whether there is no projection. -/
def isEmpty (s : ProjectionSet) : Bool := s.projections.isEmpty

end ProjectionSet

/-- The registered type with the given name, or the error naming it as given. -/
def resolveTypeName (name : String) : Build ItemType := do
  let r ← get
  match r.itemType? name with
  | some t => pure t
  | none => throw (.unknownItemType name r.typeNames)

/-- Compiles the projections of a configuration in order. -/
def compileProjections (o : PatternOptions) (target : ItemType) :
    List ProjectionConfig → Build (List Projection)
  | [] => pure []
  | pc :: rest => do
    let pattern ← ItemPattern.compile pc.pattern o
    match TargetTemplate.parse target pc.target with
    | .error e => throw e
    | .ok tt => pure (⟨pattern, tt, pc.side⟩ :: (← compileProjections o target rest))

/-- Loads a configuration into the registry. -/
def loadProjectionSet (c : ProjectionSetConfig) : Build ProjectionSet := do
  for tc in c.itemTypes do
    modify fun r => (r.registerType (ItemType.ofSpec tc.name tc.fields)).2
  let source ← resolveTypeName c.sourceType
  let target ← resolveTypeName c.targetType
  let ps ← compileProjections { typeHint := some source, ignoreCase := c.ignoreCase } target
    c.projections
  let ps := ps.toArray
  pure { sourceType := source, targetType := target, strategy := c.strategy, projections := ps,
         projector := Projector.build c.strategy ps c.reorganizeInterval }

end Conformance
