/-!
Range tables of code points.

A table is a sorted array of disjoint closed ranges. Tables of Unicode properties are stored
in a compact text form, `41-5A,61-7A,AA`, of hexadecimal bounds, and read once. Membership is
a binary search over the ranges.
-/

set_option autoImplicit false

namespace Conformance.Text

/-- A set of code points: sorted, disjoint closed ranges. -/
structure RangeTable where
  ranges : Array (Nat × Nat)
deriving Inhabited

namespace RangeTable

/-- The value of one hexadecimal digit, if the character is one. -/
def hexDigit? (c : Char) : Option Nat :=
  if '0' ≤ c ∧ c ≤ '9' then some (c.toNat - '0'.toNat)
  else if 'a' ≤ c ∧ c ≤ 'f' then some (c.toNat - 'a'.toNat + 10)
  else if 'A' ≤ c ∧ c ≤ 'F' then some (c.toNat - 'A'.toNat + 10)
  else none

/-- Reads hexadecimal digits; a character that is no digit counts as zero. -/
def readHex (s : String) : Nat :=
  s.foldl (fun acc c => acc * 16 + (hexDigit? c).getD 0) 0

/-- Reads one item of the compact form: `lo-hi` or a single code point. -/
def readRange (item : String) : Nat × Nat :=
  match item.splitOn "-" with
  | [lo, hi] => (readHex lo, readHex hi)
  | _ => (readHex item, readHex item)

/-- Reads the compact text form of a table. -/
def decode (text : String) : RangeTable :=
  ⟨((text.splitOn ",").filter (· ≠ "")).toArray.map readRange⟩

/-- Binary search for `n` between the ranges at positions `lo` (inclusive) and `hi`. -/
def search (t : RangeTable) (n lo hi : Nat) : Bool :=
  if lo < hi then
    let mid := (lo + hi) / 2
    let r := t.ranges.getD mid (1, 0)
    if n < r.1 then search t n lo mid
    else if r.2 < n then search t n (mid + 1) hi
    else true
  else false
termination_by hi - lo

/-- Whether the code point `n` lies in one of the ranges. -/
def containsCode (t : RangeTable) (n : Nat) : Bool :=
  t.search n 0 t.ranges.size

/-- Whether the character lies in one of the ranges. -/
def contains (t : RangeTable) (c : Char) : Bool :=
  t.containsCode c.toNat

end RangeTable

end Conformance.Text
