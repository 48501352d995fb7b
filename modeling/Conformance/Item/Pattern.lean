import Conformance.Registry

/-!
Item patterns: a segment per field, or one segment for any field.

A pattern text is trimmed and split on `:`. When it has more than one part and its first
part names the type hint or a registered type, that part names the pattern's item type;
otherwise the type hint is the type. Then:

* parts of the form `key=segment` assign segments to named fields; the other fields accept
  anything, and a part without `=` among them is an error;
* a single part without meta characters is an any-field pattern: it matches an item when
  it matches any one of its values;
* otherwise parts are positional. A part splits further on `;`, its pieces filling the
  next fields; after each part, fields that share the key of the field before them are
  filled with a segment that accepts anything; so are the fields left at the end.

Groups run on from field to field: the segment of a field sees the external groups, then
the groups of the fields before it, as back-references.
-/

set_option autoImplicit false

namespace Conformance

open Conformance.Text

/-- How to compile an item pattern. -/
structure PatternOptions where
  /-- The item type when the pattern names none. -/
  typeHint : Option ItemType := none
  /-- The number of captures of an earlier match that back-references may refer to. -/
  external : Nat := 0
  /-- Compare case-insensitively. -/
  ignoreCase : Bool := false
deriving Inhabited

/-- The matchers of an item pattern. -/
inductive FieldMatchers where
  /-- One matcher, tried on every value. -/
  | anyField (m : Matcher)
  /-- A matcher per field. -/
  | perField (ms : List Matcher)
deriving Inhabited

/-- A compiled item pattern. -/
structure ItemPattern where
  text : String
  type : ItemType
  fields : FieldMatchers
  external : Nat
  groupCount : Nat
deriving Inhabited

/-- The character between a field name and its segment. -/
def namedPartSeparator : Char := '='

/-- Finds the item type a pattern names in its first part, or falls back to the hint; gives
the type and the remaining parts. -/
def resolveType (o : PatternOptions) (parts : List String) : Build (ItemType × List String) := do
  let r ← get
  let fallback : Build (ItemType × List String) :=
    match o.typeHint with
    | some t => pure (t, parts)
    | none => throw (.unknownItemType "" r.typeNames)
  match parts with
  | head :: rest@(_ :: _) =>
    let h := trimWhite head
    let named := match o.typeHint with
      | some t => if eqIgnoreAsciiCase t.name h then some t else r.itemType? h
      | none => r.itemType? h
    match named with
    | some t => pure (t, rest)
    | none => fallback
  | _ => fallback

/-- Compiles the segment of a field that follows `groups` groups of earlier fields; gives the
matcher and the groups after it. -/
def fieldSegment (o : PatternOptions) (groups : Nat) (segment : String) :
    Build (Matcher × Nat) := do
  let (m, _) ← compileSegment segment ⟨o.external + groups, o.ignoreCase⟩
  pure (m, groups + m.groupCount)

/-- The matcher that accepts any value. -/
def anyMatcher : Build Matcher := do pure (← compileSegment "" {}).1

/-- The number of fields from `start` on that each share the key of the field before. -/
def sharedRun (t : ItemType) (start : Nat) : Nat :=
  go t.len start
where
  /-- Counts at most `n` such fields. -/
  go : Nat → Nat → Nat
    | 0, _ => 0
    | n + 1, i => if t.sharesKeyWithPrevious i then go n (i + 1) + 1 else 0

/-- Appends `count` matchers that accept anything. -/
def padAny (acc : List Matcher) (count : Nat) : Build (List Matcher) := do
  if count = 0 then pure acc else pure (acc ++ List.replicate count (← anyMatcher))

/-- Compiles the pieces of one positional part onto the matchers so far. -/
def positionalPieces (o : PatternOptions) (t : ItemType) (tooMany : Error) :
    List String → List Matcher × Nat → Build (List Matcher × Nat)
  | [], acc => pure acc
  | piece :: rest, (acc, groups) => do
    if acc.length ≥ t.len then throw tooMany
    let (m, groups) ← fieldSegment o groups piece
    positionalPieces o t tooMany rest (acc ++ [m], groups)

/-- Compiles positional parts onto the matchers so far. -/
def positionalParts (o : PatternOptions) (t : ItemType) (tooMany : Error) :
    List String → List Matcher × Nat → Build (List Matcher × Nat)
  | [], acc => pure acc
  | part :: rest, acc => do
    let (ms, groups) ← positionalPieces o t tooMany (part.splitOn ";") acc
    let ms ← padAny ms (sharedRun t ms.length)
    positionalParts o t tooMany rest (ms, groups)

/-- The matchers of positional parts, one per field, and their number of groups. -/
def positional (o : PatternOptions) (text : String) (t : ItemType) (parts : List String) :
    Build (List Matcher × Nat) := do
  let count := parts.foldl (fun n p => n + (p.splitOn ";").length) 0
  let (ms, groups) ← positionalParts o t (.tooManyFields text t.name count t.len) parts ([], 0)
  let ms ← padAny ms (t.len - ms.length)
  pure (ms, groups)

/-- Assigns the segments of `key=segment` parts to field indices; blank parts are skipped. -/
def assignNamed (text : String) (t : ItemType) :
    List String → List (Option String) → Except Error (List (Option String))
  | [], acc => .ok acc
  | part :: rest, acc =>
    if (trimWhite part).isEmpty then assignNamed text t rest acc
    else
      match splitOnce part namedPartSeparator with
      | none => .error (.mixedFieldStyles text)
      | some (key, segment) =>
        match t.fieldIndex? key with
        | none => .error (.unknownField text (trimWhite key) t.name)
        | some i => assignNamed text t rest (acc.set i (some segment))

/-- Compiles the assigned segments in field order; unassigned fields accept anything. -/
def namedSegments (o : PatternOptions) :
    List (Option String) → List Matcher × Nat → Build (List Matcher × Nat)
  | [], acc => pure acc
  | some s :: rest, (acc, groups) => do
    let (m, groups) ← fieldSegment o groups s
    namedSegments o rest (acc ++ [m], groups)
  | none :: rest, (acc, groups) => do
    let m ← anyMatcher
    namedSegments o rest (acc ++ [m], groups)

/-- The matchers of a pattern of named parts and their number of groups. -/
def named (o : PatternOptions) (text : String) (t : ItemType) (parts : List String) :
    Build (List Matcher × Nat) := do
  match assignNamed text t parts (List.replicate t.len none) with
  | .error e => throw e
  | .ok assigned => namedSegments o assigned ([], 0)

namespace ItemPattern

/-- Compiles an item pattern against the registry. -/
def compile (text : String) (o : PatternOptions) : Build ItemPattern := do
  let (t, parts) ← resolveType o ((trimWhite text).splitOn ":")
  if parts.any (·.toList.contains namedPartSeparator) then
    let (ms, groups) ← named o text t parts
    pure ⟨text, t, .perField ms, o.external, groups⟩
  else
    match parts with
    | [single] =>
      if !Segment.hasMeta single then
        let (m, _) ← fieldSegment o 0 single
        pure ⟨text, t, .anyField m, o.external, m.groupCount⟩
      else
        let (ms, groups) ← positional o text t parts
        pure ⟨text, t, .perField ms, o.external, groups⟩
    | _ =>
      let (ms, groups) ← positional o text t parts
      pure ⟨text, t, .perField ms, o.external, groups⟩

/-- The first success of the matcher over the values `i` to `i + n - 1` of an item. -/
def firstHit (m : Matcher) (x : Item) (ext : List String) : Nat → Nat → Option MatchResult
  | 0, _ => none
  | n + 1, i =>
    let r := m.test (x.value i) ext
    if r.success then some r else firstHit m x ext n (i + 1)

/-- Runs the field matchers in order, each seeing the groups collected so far; stops at the
first failure with the groups collected before it. -/
def runFields (x : Item) : List Matcher → Nat → List String → Bool × List String
  | [], _, groups => (true, groups)
  | m :: rest, i, groups =>
    let r := m.test (x.value i) groups
    if r.success then runFields x rest (i + 1) (groups ++ r.groups) else (false, groups)

/-- The external groups a pattern's fields see: the caller's, cut or padded with the filler
to the pattern's number of external groups. -/
def visibleGroups (n : Nat) (ext : List String) : List String :=
  (List.range n).map fun i => ext.getD i groupFiller

/-- Matches an item, inverting the success when asked; an item of an incompatible type
fails whatever `invert` says. The groups exclude the external ones. -/
def test (p : ItemPattern) (x : Item) (invert : Bool) (ext : List String) : MatchResult :=
  if !p.type.compatible x.type then .miss
  else
    match p.fields with
    | .anyField m =>
      let count := Nat.max x.values.length x.type.len
      ((firstHit m x ext count 0).getD .miss).inverted invert
    | .perField ms =>
      let (ok, groups) := runFields x ms 0 (visibleGroups p.external ext)
      (⟨ok, groups.drop p.external⟩ : MatchResult).inverted invert

/-- Whether this is an any-field pattern. -/
def isAnyField (p : ItemPattern) : Bool :=
  match p.fields with
  | .anyField _ => true
  | .perField _ => false

/-- The number of per-field matchers; none for an any-field pattern. -/
def fieldCount (p : ItemPattern) : Nat :=
  match p.fields with
  | .anyField _ => 0
  | .perField ms => ms.length

/-- A literal every accepted item's value of the field starts with. -/
def fixedPrefix (p : ItemPattern) (field : Nat) : String :=
  match p.fields with
  | .anyField _ => ""
  | .perField ms => (ms[field]?.map Matcher.fixedPrefix).getD ""

/-- Same item type and alike matchers, field by field. -/
def alike (p q : ItemPattern) : Bool :=
  p.type == q.type &&
    match p.fields, q.fields with
    | .anyField a, .anyField b => a.alike b
    | .perField a, .perField b => a.length == b.length && (a.zip b).all fun (x, y) => x.alike y
    | _, _ => false

end ItemPattern

end Conformance
