import Conformance.Dependency.Basic
import Conformance.Error
import Conformance.Text.Ascii
import Conformance.Text.WhiteSpace

/-!
Count constraints: a comparison of one counter of a dependency with a number.

A constraint is written `field op value`, for example `bad_ct>0`, with white space allowed
around the parts. The field is `ct`, `questionable_ct` or `bad_ct` in any ASCII case; the
operator is `=` (also written `==`), `!=`, `<`, `<=`, `>` or `>=`; the value is a 64-bit
unsigned number, optionally after a `+`. The operator is the one that occurs first in the
text, the longer one when two start at the same place. A constraint shows itself with `=`
for equality and no spaces.
-/

set_option autoImplicit false

namespace Conformance

open Conformance.Text

/-- The counters of a dependency. -/
inductive CountField where
  | ct | questionableCt | badCt
deriving Repr, BEq, DecidableEq, Inhabited

/-- The name of a counter. -/
def CountField.name : CountField → String
  | .ct => "ct"
  | .questionableCt => "questionable_ct"
  | .badCt => "bad_ct"

/-- The value of a counter of a dependency. -/
def Dependency.count (d : Dependency) : CountField → Nat
  | .ct => d.ct
  | .questionableCt => d.questionableCt
  | .badCt => d.badCt

/-- Comparisons of a counter with a number. -/
inductive Comparison where
  | eq | ne | lt | le | gt | ge
deriving Repr, BEq, DecidableEq, Inhabited

namespace Comparison

/-- The spellings of the operators, in the order they are looked for. -/
def spellings : List (String × Comparison) :=
  [("==", .eq), ("!=", .ne), ("<=", .le), (">=", .ge), ("=", .eq), ("<", .lt), (">", .gt)]

/-- Whether the comparison holds. -/
def holds : Comparison → Nat → Nat → Bool
  | .eq, a, b => a == b
  | .ne, a, b => a != b
  | .lt, a, b => a < b
  | .le, a, b => a ≤ b
  | .gt, a, b => a > b
  | .ge, a, b => a ≥ b

/-- How the comparison shows itself. -/
def symbol : Comparison → String
  | .eq => "="
  | .ne => "!="
  | .lt => "<"
  | .le => "<="
  | .gt => ">"
  | .ge => ">="

end Comparison

/-- The largest 64-bit unsigned number. -/
def maxCount : Nat := 18446744073709551615

/-- Reads a 64-bit unsigned number: ASCII digits, at least one, after an optional `+`. -/
def parseCount (s : String) : Option Nat :=
  let digits := match s.toList with
    | '+' :: rest => rest
    | cs => cs
  if digits.isEmpty || !digits.all Char.isDigit then none
  else
    let n := digits.foldl (fun acc c => acc * 10 + (c.toNat - 48)) 0
    if n ≤ maxCount then some n else none

/-- The position of the first occurrence of a pattern in a list. -/
def findSub (hay pat : List Char) : Option Nat :=
  go hay 0
where
  /-- Searches from the given position on. -/
  go : List Char → Nat → Option Nat
    | [], i => if pat.isEmpty then some i else none
    | c :: rest, i => if pat.isPrefixOf (c :: rest) then some i else go rest (i + 1)

/-- A counter compared with a number. -/
structure CountConstraint where
  field : CountField
  comparison : Comparison
  value : Nat
deriving Repr, BEq, DecidableEq, Inhabited

namespace CountConstraint

/-- The operator that occurs first, the longer one at a tie: its position, length and
comparison. -/
def firstOperator (cs : List Char) : Option (Nat × Nat × Comparison) :=
  Comparison.spellings.foldl (fun best (sym, cmp) =>
    match findSub cs sym.toList with
    | none => best
    | some pos =>
      match best with
      | some (bestPos, blen, _) =>
        if pos < bestPos || (pos == bestPos && sym.length > blen) then some (pos, sym.length, cmp)
        else best
      | none => some (pos, sym.length, cmp)) none

/-- Reads a constraint; the error names the text as given. -/
def parse (text : String) : Except Error CountConstraint :=
  let invalid : Except Error CountConstraint := .error (.invalidCount text)
  let cs := (trimWhite text).toList
  match firstOperator cs with
  | none => invalid
  | some (pos, len, cmp) =>
    let field := match asciiLower (trimWhite (String.ofList (cs.take pos))) with
      | "ct" => some CountField.ct
      | "questionable_ct" => some .questionableCt
      | "bad_ct" => some .badCt
      | _ => none
    match field, parseCount (trimWhite (String.ofList (cs.drop (pos + len)))) with
    | some f, some v => .ok ⟨f, cmp, v⟩
    | _, _ => invalid

/-- Whether the dependency's counter satisfies the constraint. -/
def holds (c : CountConstraint) (d : Dependency) : Bool :=
  c.comparison.holds (d.count c.field) c.value

/-- The field, the operator and the value, with no spaces. -/
def display (c : CountConstraint) : String :=
  c.field.name ++ c.comparison.symbol ++ toString c.value

end CountConstraint

end Conformance
