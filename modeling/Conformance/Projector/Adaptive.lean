import Conformance.Projector.Index

/-!
Projectors that reorganise themselves by use.

A self-optimising projector tries its sub-projectors in an order; the first that selects
the item narrows the scan, and when none does the full list is scanned. Every call counts,
and the projection that applied gains a hit. Every `interval` calls, and whenever asked, the
projector reorganises: it orders the sub-projectors by their cost under the current hits,
the cheaper first and, at equal cost, the earlier built first, with costs compared in the
IEEE 754 total order (so `-0` comes before `0`, and a not-a-number after every number when its
sign is clear and before every number when it is set); then every hit count is multiplied by
the decay factor.

Since a selected sub-projector holds every projection that can apply to the item, in list
order, the result is always that of the simple scan over the whole list; only the work
differs.
-/

set_option autoImplicit false

namespace Conformance

open Conformance.Text

/-- How a projector is organised. -/
inductive ProjectorStrategy where
  | simple | firstLetter | prefixTrie
deriving Repr, BEq, DecidableEq, Inhabited

namespace ProjectorStrategy

/-- The name of a strategy. -/
def name : ProjectorStrategy → String
  | .simple => "simple"
  | .firstLetter => "first_letter"
  | .prefixTrie => "prefix_trie"

/-- Reads a strategy: trimmed, in any ASCII case, with `-` read as `_`. -/
def parse (s : String) : Except Error ProjectorStrategy :=
  let name := (asciiLower (trimWhite s)).toList.map fun c => if c == '-' then '_' else c
  match String.ofList name with
  | "simple" => .ok .simple
  | "first_letter" => .ok .firstLetter
  | "prefix_trie" => .ok .prefixTrie
  | _ => .error (.invalidConfig ("unknown projector strategy \"" ++ s ++
      "\", expected simple, first_letter or prefix_trie"))

end ProjectorStrategy

/-- The number of calls between reorganisations by default. -/
def defaultInterval : Nat := 1000

/-- The factor hit counts are multiplied by at a reorganisation, by default. -/
def defaultDecay : Float := 0.5

/-- What a self-optimising projector reports about itself. -/
structure ProjectorStats where
  strategy : ProjectorStrategy
  calls : Nat
  reorganizations : Nat
  /-- The labels of the sub-projectors in the order they are tried. -/
  order : List String

/-- A projector that reorders its sub-projectors by use. -/
structure AdaptiveProjector where
  strategy : ProjectorStrategy
  subs : Array SubProjector
  /-- Indices of the sub-projectors in the order they are tried. -/
  order : List Nat
  fallback : SimpleProjector
  hits : Array Float
  /-- Calls between reorganisations, at least one. -/
  interval : Nat
  decay : Float
  calls : Nat := 0
  reorganizations : Nat := 0
deriving Inhabited

namespace AdaptiveProjector

/-- A projector over the given sub-projectors, tried in the order they were built. An
interval of zero acts as one. -/
def ofSubs (strategy : ProjectorStrategy) (ps : Array Projection) (subs : List SubProjector)
    (interval : Nat) : AdaptiveProjector :=
  { strategy, subs := subs.toArray, order := List.range subs.length,
    fallback := SimpleProjector.ofProjections ps, hits := Array.replicate ps.size 0,
    interval := Nat.max interval 1, decay := defaultDecay }

/-- The projector with first-letter buckets over a projection list. -/
def firstLetter (ps : Array Projection) (interval : Nat) : AdaptiveProjector :=
  ofSubs .firstLetter ps (buildLetterBuckets ps) interval

/-- The projector with prefix tries over a projection list. -/
def prefixTrie (ps : Array Projection) (interval : Nat) : AdaptiveProjector :=
  ofSubs .prefixTrie ps (buildPrefixTries ps) interval

/-- The projector with the decay factor clamped to `[0, 1]`. -/
def withDecay (a : AdaptiveProjector) (decay : Float) : AdaptiveProjector :=
  { a with decay := if decay < 0 then 0 else if decay > 1 then 1 else decay }

/-- The number of sub-projectors. -/
def subCount (a : AdaptiveProjector) : Nat := a.subs.size

/-- The current statistics. -/
def stats (a : AdaptiveProjector) : ProjectorStats :=
  { strategy := a.strategy, calls := a.calls, reorganizations := a.reorganizations,
    order := a.order.map fun i => (a.subs.getD i default).label }

/-- A float's place in the IEEE 754 total order: a float whose sign bit is clear by its bits,
and one whose sign bit is set below all of those, the lower the larger its other bits. -/
def totalOrderKey (x : Float) : Int :=
  let bits := x.toBits.toNat
  -- the sign bit is bit 63, of value 9223372036854775808
  if bits < 9223372036854775808 then bits else -1 - ((bits - 9223372036854775808 : Nat) : Int)

/-- Orders the sub-projectors by cost in the total order, earlier built first at equal cost, and
decays the hits. -/
def reorganize (a : AdaptiveProjector) : AdaptiveProjector :=
  let keys := a.subs.map fun s => totalOrderKey (s.cost a.hits)
  let before := fun (i j : Nat) =>
    let ki := keys.getD i 0
    let kj := keys.getD j 0
    decide (ki < kj) || (decide (ki = kj) && decide (i ≤ j))
  { a with order := a.order.mergeSort before, hits := a.hits.map (· * a.decay),
           reorganizations := a.reorganizations + 1 }

/-- The scan an item is narrowed to: that of the first sub-projector, in order, that
selects it, or the full list. -/
def scanFor (a : AdaptiveProjector) (x : Item) : SimpleProjector :=
  (a.order.findSome? fun i => (a.subs.getD i default).select x).getD a.fallback

/-- Projects an item on a side, counting the call and the hit, and reorganising at the end of
an interval. -/
def project (a : AdaptiveProjector) (x : Item) (side : Side) : Option Item × AdaptiveProjector :=
  let a := { a with calls := a.calls + 1 }
  let found := (a.scanFor x).find x side
  let a := match found with
    | some (i, _) => { a with hits := a.hits.modify i (· + 1) }
    | none => a
  let a := if a.calls % a.interval == 0 then a.reorganize else a
  (found.map (·.2), a)

end AdaptiveProjector

/-- A projector of either kind. -/
inductive Projector where
  | simple (s : SimpleProjector)
  | adaptive (a : AdaptiveProjector)
deriving Inhabited

namespace Projector

/-- The projector a strategy builds over a projection list. -/
def build (strategy : ProjectorStrategy) (ps : Array Projection) (interval : Nat) : Projector :=
  match strategy with
  | .simple => .simple (SimpleProjector.ofProjections ps)
  | .firstLetter => .adaptive (AdaptiveProjector.firstLetter ps interval)
  | .prefixTrie => .adaptive (AdaptiveProjector.prefixTrie ps interval)

/-- Projects an item on a side. -/
def project (p : Projector) (x : Item) (side : Side) : Option Item × Projector :=
  match p with
  | .simple s => (s.project x side, p)
  | .adaptive a => let (r, a) := a.project x side; (r, .adaptive a)

/-- Forces a reorganisation; the simple projector has nothing to reorganise. -/
def reorganize : Projector → Projector
  | .simple s => .simple s
  | .adaptive a => .adaptive a.reorganize

end Projector

end Conformance
