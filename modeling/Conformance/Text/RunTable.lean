import Conformance.Text.RangeTable

/-!
Properties that give every code point one value, stored as runs.

A run table lists the runs of code points that share a value, in order: each run by its
first code point and its value. A run ends where the next one starts, and the last one at
the last code point, `0x10FFFF`. The compact text form is `0:Cc,20:Zs,21:Po`, each item a
hexadecimal start and a value name.

`select` gives the code points whose value passes a test, as a range table: the runs that
pass, with neighbouring runs joined.
-/

set_option autoImplicit false

namespace Conformance.Text

/-- Runs of code points that share a value, in order of their first code point. -/
structure RunTable where
  runs : Array (Nat × String)
deriving Inhabited

namespace RunTable

/-- The last code point. -/
def maxCode : Nat := 0x10FFFF

/-- Reads one item of the compact form: a hexadecimal start, a colon and a value. -/
def readRun (item : String) : Nat × String :=
  match item.splitOn ":" with
  | [start, value] => (RangeTable.readHex start, value)
  | _ => (RangeTable.readHex item, "")

/-- Reads the compact text form of a run table. -/
def decode (text : String) : RunTable :=
  ⟨((text.splitOn ",").filter (· ≠ "")).toArray.map readRun⟩

/-- Each run as the closed range it covers, with its value. -/
def spans (t : RunTable) : List ((Nat × Nat) × String) :=
  let runs := t.runs.toList
  let stops := (runs.drop 1).map (·.1 - 1) ++ [maxCode]
  (runs.zip stops).map fun ((start, value), stop) => ((start, stop), value)

/-- Appends a range to ranges in order, joining it to the last one when they touch. -/
def extend (acc : List (Nat × Nat)) (r : Nat × Nat) : List (Nat × Nat) :=
  match acc with
  | (lo, hi) :: rest => if hi + 1 = r.1 then (lo, r.2) :: rest else r :: acc
  | [] => [r]

/-- The code points whose value passes the test. -/
def select (t : RunTable) (keep : String → Bool) : RangeTable :=
  let picked := t.spans.filter fun (r, value) => keep value && r.1 ≤ r.2
  ⟨(picked.foldl (fun acc (r, _) => extend acc r) []).reverse.toArray⟩

end RunTable

end Conformance.Text
