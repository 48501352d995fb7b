import Conformance.Text.Ascii
import Conformance.Text.WhiteSpace

/-!
Items and their types.

An item type has a name and an ordered list of field keys. A key is a name with an optional
subkey, written `KEY` or `KEY.SUBKEY`; consecutive fields may share a key, as
`ASSEMBLY.NAME` and `ASSEMBLY.VERSION` do. An item is an item type with a list of values;
reading a field past the end of the values gives the empty text.

Names compare ASCII case-insensitively. Two item types are compatible when they are equal,
or when the fields of the shorter are a non-empty prefix of the fields of the longer.
-/

set_option autoImplicit false

namespace Conformance

open Conformance.Text

/-- The character between the fields of an item or a pattern. -/
def fieldDelimiter : Char := ':'

/-- The character between the subfields of a positional pattern part. -/
def subfieldDelimiter : Char := ';'

/-- The name of a field: a key and, after the first `.`, an optional subkey. -/
structure FieldKey where
  key : String
  subkey : Option String
deriving Repr, BEq, DecidableEq, Inhabited

/-- Splits a text at its first occurrence of a character. -/
def splitOnce (s : String) (c : Char) : Option (String × String) :=
  let cs := s.toList
  if cs.contains c then
    some (String.ofList (cs.takeWhile (· != c)), String.ofList ((cs.dropWhile (· != c)).drop 1))
  else none

namespace FieldKey

/-- Reads `KEY` or `KEY.SUBKEY`; only the first `.` splits and both sides are trimmed. -/
def parse (text : String) : FieldKey :=
  match splitOnce text '.' with
  | some (k, s) => ⟨trimWhite k, some (trimWhite s)⟩
  | none => ⟨trimWhite text, none⟩

/-- Whether a name refers to this field: `KEY` names the key, `KEY.SUBKEY` also the subkey,
both trimmed and compared ASCII case-insensitively. -/
def answersTo (f : FieldKey) (name : String) : Bool :=
  match splitOnce name '.' with
  | some (k, s) =>
    eqIgnoreAsciiCase f.key (trimWhite k) &&
      (f.subkey.map fun sub => eqIgnoreAsciiCase sub (trimWhite s)).getD false
  | none => eqIgnoreAsciiCase f.key (trimWhite name)

/-- The key, and the subkey after a `.` when there is one. -/
def display (f : FieldKey) : String :=
  match f.subkey with
  | some s => f.key ++ "." ++ s
  | none => f.key

end FieldKey

/-- A named, ordered list of field keys. -/
structure ItemType where
  name : String
  fields : List FieldKey
deriving Repr, BEq, DecidableEq, Inhabited

namespace ItemType

/-- The item type with the given name and field texts. -/
def ofSpec (name : String) (fields : List String) : ItemType :=
  ⟨name, fields.map FieldKey.parse⟩

/-- The number of fields. -/
def len (t : ItemType) : Nat := t.fields.length

/-- Whether the type has no field. -/
def isEmpty (t : ItemType) : Bool := t.fields.isEmpty

/-- The index of the first field the name refers to. -/
def fieldIndex? (t : ItemType) (name : String) : Option Nat := t.fields.findIdx? (·.answersTo name)

/-- Whether the field at `index` has the same key as the field before it. -/
def sharesKeyWithPrevious (t : ItemType) (index : Nat) : Bool :=
  match index with
  | 0 => false
  | i + 1 =>
    match t.fields[i + 1]?, t.fields[i]? with
    | some f, some g => f.key == g.key
    | _, _ => false

/-- Equal types, or types whose common number of fields is positive and whose fields agree
up to it. -/
def compatible (t u : ItemType) : Bool :=
  t == u ||
    (let shared := Nat.min t.len u.len
     shared > 0 && t.fields.take shared == u.fields.take shared)

/-- The name followed by the fields, separated by `:`, in parentheses. -/
def display (t : ItemType) : String :=
  t.name ++ "(" ++ ":".intercalate (t.fields.map FieldKey.display) ++ ")"

end ItemType

/-- An item: a type and the values of its fields. -/
structure Item where
  type : ItemType
  values : List String
deriving Repr, BEq, Inhabited

namespace Item

/-- Reads an item, splitting the text on every `:`. -/
def parse (t : ItemType) (text : String) : Item := ⟨t, text.splitOn ":"⟩

/-- The value of a field; the empty text past the end of the values. -/
def value (x : Item) (i : Nat) : String := x.values.getD i ""

/-- The values separated by `:`. -/
def display (x : Item) : String := ":".intercalate x.values

end Item

end Conformance
