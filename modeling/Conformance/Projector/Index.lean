import Conformance.PrefixTree
import Conformance.Projector.Simple

/-!
Indexes over a projection list: sub-projectors that narrow the scan by a field's value.

Every projection pattern has a literal prefix per field that every item it matches starts
with (the empty text when nothing is known). Sub-projectors are built per field that some
projection knows a non-empty prefix of, up to the largest field count of the patterns:

* first-letter buckets: for each first character of a known prefix, a bucket with the
  projections whose prefix starts with that character or is empty, selected by items whose
  value starts with it; and a bucket of the projections with an empty prefix, selected by
  the other items;
* prefix tries: a radix tree keyed by the non-empty prefixes, whose node for a key holds
  the projections whose prefix extends the key or is extended by it; an item selects the
  node of the longest key its value starts with.

A selected sub-projector holds every projection that can apply to the item, in list
order, so its first match is the first match of the whole list.
-/

set_option autoImplicit false

namespace Conformance

/-- A sub-projector of one field. -/
inductive SubProjector where
  /-- The bucket of a first character, or (`none`) of the characters no prefix starts with. -/
  | letter (field : Nat) (first : Option Char) (known : List Char) (scan : SimpleProjector)
  /-- A trie of the known prefixes. -/
  | trie (field : Nat) (tree : PrefixTree SimpleProjector)
deriving Inhabited

namespace SubProjector

/-- The scan an item is narrowed to, if this sub-projector selects it. -/
def select (s : SubProjector) (x : Item) : Option SimpleProjector :=
  match s with
  | .letter field first known scan =>
    let head := (x.value field).toList.head?
    let chosen := match first with
      | some c => head == some c
      | none => match head with
        | some c => !known.contains c
        | none => true
    if chosen then some scan else none
  | .trie field tree => tree.findLongestPrefix (x.value field)

/-- The expected work of the sub-projector: its scan's cost, or for a trie the mean cost of
its nodes. -/
def cost (s : SubProjector) (hits : Array Float) : Float :=
  match s with
  | .letter _ _ _ scan => scan.cost hits
  | .trie _ tree =>
    let scans := tree.values
    if scans.isEmpty then 0
    else (scans.foldl (fun acc p => acc + p.cost hits) 0) / scans.length.toFloat

/-- How the sub-projector names itself. -/
def label : SubProjector → String
  | .letter field (some c) _ _ => "field " ++ toString field ++ " '" ++ c.toString ++ "'"
  | .letter field none _ _ => "field " ++ toString field ++ " *"
  | .trie field tree =>
    "field " ++ toString field ++ " trie (" ++ toString tree.len ++ " prefixes)"

end SubProjector

/-- The largest number of fields a projection's pattern addresses. -/
def addressedFields (ps : Array Projection) : Nat :=
  ps.foldl (fun m p => Nat.max m p.pattern.fieldCount) 0

/-- The known prefixes of a field, one per projection. -/
def fieldPrefixes (ps : Array Projection) (field : Nat) : List String :=
  ps.toList.map fun p => p.pattern.fixedPrefix field

/-- The distinct elements of a list, in increasing order. -/
def sortedDistinct {α : Type} [LT α] [DecidableLT α] (xs : List α) : List α :=
  (xs.mergeSort fun a b => decide (a < b) || !decide (b < a)).foldr
    (fun a acc => match acc with
      | b :: _ => if !decide (a < b) && !decide (b < a) then acc else a :: acc
      | [] => [a]) []

/-- The scan of the projections whose index satisfies the test. -/
def scanWhere (ps : Array Projection) (keep : Nat → Bool) : SimpleProjector :=
  ⟨ps, (List.range ps.size).filter keep⟩

/-- The first-letter buckets of one field. -/
def letterBuckets (ps : Array Projection) (field : Nat) : List SubProjector :=
  let firsts := (fieldPrefixes ps field).map fun s => s.toList.head?
  let known := sortedDistinct (firsts.filterMap id)
  if known.isEmpty then []
  else
    let firstAt := fun (i : Nat) => firsts.getD i none
    (known.map fun c =>
      SubProjector.letter field (some c) known
        (scanWhere ps fun i => match firstAt i with
          | some d => d == c
          | none => true)) ++
      [.letter field none known (scanWhere ps fun i => (firstAt i).isNone)]

/-- The prefix trie of one field, if some projection knows a non-empty prefix of it. -/
def prefixTrie (ps : Array Projection) (field : Nat) : Option SubProjector :=
  let prefixes := fieldPrefixes ps field
  let keys := sortedDistinct (prefixes.filter (!·.isEmpty))
  if keys.isEmpty then none
  else
    let tree := keys.foldl (fun (t : PrefixTree SimpleProjector) key =>
      (t.insert key (scanWhere ps fun i =>
        let p := prefixes.getD i ""
        p.toList.isPrefixOf key.toList || key.toList.isPrefixOf p.toList)).1) PrefixTree.empty
    some (.trie field tree)

/-- First-letter buckets for every field, in field order. -/
def buildLetterBuckets (ps : Array Projection) : List SubProjector :=
  (List.range (addressedFields ps)).flatMap (letterBuckets ps)

/-- Prefix tries for every field, in field order. -/
def buildPrefixTries (ps : Array Projection) : List SubProjector :=
  (List.range (addressedFields ps)).filterMap (prefixTrie ps)

end Conformance
