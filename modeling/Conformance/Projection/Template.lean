import Conformance.Error
import Conformance.Item.Basic

/-!
Target templates: how the groups of a match become an item of the target type.

A template has a field text per target field, at most as many as the target type has.
In a field text, `\1` to `\9` stand for a group of the match, `\\` for a backslash, and
every other character for itself; any other escape, or a backslash at the end, is an error.
A group the match did not capture reads as the empty text. Instantiating gives an item
with one value per template field.
-/

set_option autoImplicit false

namespace Conformance

/-- A piece of a template field: literal text, or a group number from 1 to 9. -/
inductive Piece where
  | literal (text : String)
  | group (index : Nat)
deriving Repr, BEq, DecidableEq, Inhabited

/-- Reads a template field, collecting literal characters in `lit`, latest first. -/
def parsePieces : List Char → List Char → Except String (List Piece)
  | [], lit => .ok (if lit.isEmpty then [] else [.literal (String.ofList lit.reverse)])
  | '\\' :: '\\' :: rest, lit => parsePieces rest ('\\' :: lit)
  | '\\' :: d :: rest, lit =>
    if '1' ≤ d && d ≤ '9' then do
      let more ← parsePieces rest []
      let head := if lit.isEmpty then [] else [Piece.literal (String.ofList lit.reverse)]
      pure (head ++ Piece.group (d.toNat - 48) :: more)
    else .error ("unsupported escape \\" ++ d.toString)
  | ['\\'], _ => .error "dangling \\ at end of field"
  | c :: rest, lit => parsePieces rest (c :: lit)

/-- A template for items of a target type. -/
structure TargetTemplate where
  type : ItemType
  fields : List (List Piece)
  /-- The field texts as written, joined by `:`. -/
  text : String
deriving Inhabited

namespace TargetTemplate

/-- Builds a template from its field texts. -/
def ofFields (t : ItemType) (raw : List String) : Except Error TargetTemplate :=
  let text := ":".intercalate raw
  if raw.length > t.len then
    .error (.invalidTemplate text
      (toString raw.length ++ " fields given, but item type " ++ t.name ++ " has " ++
        toString t.len))
  else
    match raw.mapM (fun f => parsePieces f.toList []) with
    | .ok fields => .ok ⟨t, fields, text⟩
    | .error msg => .error (.invalidTemplate text msg)

/-- Reads a template, splitting the text on every `:`. -/
def parse (t : ItemType) (text : String) : Except Error TargetTemplate :=
  ofFields t ((text.toList.splitOn fieldDelimiter).map String.ofList)

/-- The value a field takes for the given groups. -/
def fill (groups : List String) (pieces : List Piece) : String :=
  String.join (pieces.map fun
    | .literal s => s
    | .group n => groups.getD (n - 1) "")

/-- The item the template gives for the given groups. -/
def instantiate (tt : TargetTemplate) (groups : List String) : Item :=
  ⟨tt.type, tt.fields.map (fill groups)⟩

end TargetTemplate

end Conformance
