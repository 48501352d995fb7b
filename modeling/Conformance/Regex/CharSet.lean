import Conformance.Text.RangeTable
import Conformance.Text.CaseFold

/-!
Character sets of regular expressions.

A set is kept in canonical form: closed ranges of code points, sorted, disjoint and not
touching. Union sorts and merges; complement is taken within the code points up to
`0x10FFFF`; intersection, difference and symmetric difference follow from these two.
Case folding adds every simple case variant of every member.
-/

set_option autoImplicit false

namespace Conformance.Regex

open Conformance.Text

/-- A set of characters: sorted, disjoint, non-touching closed ranges of code points. -/
structure CharSet where
  ranges : Array (Nat × Nat)
deriving Inhabited, BEq

namespace CharSet

/-- The largest code point. -/
def maxCode : Nat := 0x10FFFF

/-- The set with no member. -/
def none : CharSet := ⟨#[]⟩

/-- The set of every character. -/
def all : CharSet := ⟨#[(0, maxCode)]⟩

/-- Merges a list of ranges sorted by their start, joining overlapping or touching ones. -/
def mergeSorted : List (Nat × Nat) → List (Nat × Nat)
  | [] => []
  | r :: rest => go r rest
where
  /-- Extends the pending range `cur` while the next range overlaps or touches it. -/
  go (cur : Nat × Nat) : List (Nat × Nat) → List (Nat × Nat)
    | [] => [cur]
    | b :: rest => if b.1 ≤ cur.2 + 1 then go (cur.1, max cur.2 b.2) rest else cur :: go b rest

/-- The canonical set of the given ranges; a range whose start exceeds its end is empty. -/
def ofRanges (rs : List (Nat × Nat)) : CharSet :=
  let valid := rs.filter fun r => r.1 ≤ r.2
  ⟨(mergeSorted (valid.mergeSort fun a b => a.1 ≤ b.1)).toArray⟩

/-- The set of one character. -/
def single (c : Char) : CharSet := ⟨#[(c.toNat, c.toNat)]⟩

/-- The set of a list of characters. -/
def ofChars (cs : List Char) : CharSet := ofRanges (cs.map fun c => (c.toNat, c.toNat))

/-- The characters from `lo` to `hi`, both included. -/
def interval (lo hi : Char) : CharSet := ofRanges [(lo.toNat, hi.toNat)]

/-- The set of a range table. -/
def ofTable (t : RangeTable) : CharSet := ⟨t.ranges⟩

/-- Members of either set. -/
def union (a b : CharSet) : CharSet := ofRanges (a.ranges.toList ++ b.ranges.toList)

/-- The code points up to `maxCode` that are not members. -/
def complement (s : CharSet) : CharSet :=
  let step := fun (acc : Array (Nat × Nat) × Nat) (r : Nat × Nat) =>
    (if acc.2 < r.1 then acc.1.push (acc.2, r.1 - 1) else acc.1, r.2 + 1)
  let (gaps, next) := s.ranges.foldl step (#[], 0)
  ⟨if next ≤ maxCode then gaps.push (next, maxCode) else gaps⟩

/-- Members of both sets. -/
def inter (a b : CharSet) : CharSet := complement (union (complement a) (complement b))

/-- Members of the first set that are not in the second. -/
def diff (a b : CharSet) : CharSet := inter a (complement b)

/-- Members of exactly one of the sets. -/
def symmDiff (a b : CharSet) : CharSet := diff (union a b) (inter a b)

/-- Binary search for `n` between the ranges at positions `lo` (inclusive) and `hi`. -/
def search (s : CharSet) (n lo hi : Nat) : Bool :=
  if lo < hi then
    let mid := (lo + hi) / 2
    let r := s.ranges.getD mid (1, 0)
    if n < r.1 then search s n lo mid
    else if r.2 < n then search s n (mid + 1) hi
    else true
  else false
termination_by hi - lo

/-- Whether the code point `n` is a member. -/
def containsCode (s : CharSet) (n : Nat) : Bool := s.search n 0 s.ranges.size

/-- Whether the character is a member. -/
def contains (s : CharSet) (c : Char) : Bool := s.containsCode c.toNat

/-- Whether the set has no member. -/
def isEmpty (s : CharSet) : Bool := s.ranges.isEmpty

/-- Adds every simple case variant of every member. -/
def caseFold (s : CharSet) : CharSet :=
  let extra := CaseFold.index.foldl
    (fun acc e => if s.containsCode e.1 then CaseFold.variantCodes e.1 ++ acc else acc) []
  union s (ofRanges (extra.map fun n => (n, n)))

/-- Adds the other case of every ASCII letter that is a member. -/
def asciiCaseFold (s : CharSet) : CharSet :=
  let letters := (List.range 26).flatMap fun i => [(65 + i, 97 + i), (97 + i, 65 + i)]
  let extra := (letters.filter fun p => s.containsCode p.1).map fun p => (p.2, p.2)
  union s (ofRanges extra)

/-- Whether every member is an ASCII character. -/
def isAscii (s : CharSet) : Bool := s.ranges.all fun r => r.2 < 0x80

end CharSet

end Conformance.Regex
