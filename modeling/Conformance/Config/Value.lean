import Conformance.Config.Binary64
import Conformance.Text.Quoted

/-!
Configuration values and the messages of decoding them.

A configuration is a JSON document. `Value` is its tree: an integer that fits in 64 bits
stays an integer, any other number is the binary64 number a reader makes of it. Decoding a
value into a typed configuration checks its shape, and a failure is described as JSON
deserialisers describe it: what was found (`integer `-1``, `string "x"`, `null`,
`sequence`, `map`) and what was expected, a missing field, an unknown variant among the
allowed ones, or a wrong number of elements.

Structures are decoded from objects, whose fields are visited in key order and whose
unknown keys are ignored, or from arrays, read field by field in declaration order. A field
with a default may be left out; the first missing field without one is reported after the
present fields were decoded.
-/

set_option autoImplicit false

namespace Conformance.Config

/-- A JSON value. -/
inductive Value where
  | null
  | bool (b : Bool)
  /-- A number written without fraction or exponent, from `-2^63` to `2^64 - 1`, other
  than `-0`. -/
  | int (n : Int)
  /-- Any other number, as a reader rounds it. -/
  | float (x : Binary64)
  | str (s : String)
  | arr (items : List Value)
  | obj (fields : List (String × Value))
deriving Inhabited

/-- How a found value is named in a message. -/
def Value.unexpected : Value → String
  | .null => "null"
  | .bool b => "boolean `" ++ toString b ++ "`"
  | .int n => "integer `" ++ toString n ++ "`"
  | .float x => "floating point `" ++ x.text ++ "`"
  | .str s => "string " ++ Text.quote s
  | .arr _ => "sequence"
  | .obj _ => "map"

/-- Decoding gives a value or the message of the first problem. -/
abbrev Decoded := Except String

/-- The message for a value of the wrong kind. -/
def invalidType (v : Value) (expected : String) : String :=
  "invalid type: " ++ v.unexpected ++ ", expected " ++ expected

/-- A text. -/
def decodeString : Value → Decoded String
  | .str s => .ok s
  | v => .error (invalidType v "a string")

/-- A truth value. -/
def decodeBool : Value → Decoded Bool
  | .bool b => .ok b
  | v => .error (invalidType v "a boolean")

/-- The largest machine-sized unsigned number, plus one. -/
def usizeBound : Nat := 18446744073709551616

/-- A machine-sized unsigned number. -/
def decodeUsize : Value → Decoded Nat
  | .int n =>
    if n < 0 then .error ("invalid value: integer `" ++ toString n ++ "`, expected usize")
    else if n.toNat < usizeBound then .ok n.toNat
    else .error (invalidType (.float (Binary64.ofNat n.toNat)) "usize")
  | v => .error (invalidType v "usize")

/-- A list, each element decoded in turn. -/
def decodeList {α : Type} (decode : Value → Decoded α) : Value → Decoded (List α)
  | .arr items => items.mapM decode
  | v => .error (invalidType v "a sequence")

/-- The allowed names, as a message lists them. -/
def oneOf (names : List String) : String :=
  let ticked := names.map fun n => "`" ++ n ++ "`"
  match ticked with
  | [] => "nothing"
  | [a] => a
  | [a, b] => a ++ " or " ++ b
  | _ => "one of " ++ ", ".intercalate ticked

/-- The variant a name picks. -/
def pickVariant {α : Type} (variants : List (String × α)) (name : String) : Decoded α :=
  match variants.lookup name with
  | some a => .ok a
  | none =>
    if variants.isEmpty then .error ("unknown variant `" ++ name ++ "`, there are no variants")
    else .error ("unknown variant `" ++ name ++ "`, expected " ++ oneOf (variants.map (·.1)))

/-- A variant without data: its name, or an object with its name as the only key and
`null` as value. -/
def decodeVariant {α : Type} (variants : List (String × α)) : Value → Decoded α
  | .str s => pickVariant variants s
  | .obj [(k, v)] => do
    let a ← pickVariant variants k
    match v with
    | .null => pure a
    | other => throw (invalidType other "unit")
  | .obj _ => .error "invalid value: map, expected map with a single key"
  | v => .error (invalidType v "string or map")

/-- A field of a structure: its name, whether it has a default, and the problem decoding a
value for it gives, if any. -/
structure FieldSpec where
  name : String
  hasDefault : Bool
  check : Value → Option String

/-- The problem a decoder finds in a value, if any. -/
def problem {α : Type} (decode : Value → Decoded α) (v : Value) : Option String :=
  match decode v with
  | .ok _ => none
  | .error e => some e

/-- Checks the present fields, in key order, then reports the first missing field without a
default; gives the present fields. -/
def checkObject (specs : List FieldSpec) (fields : List (String × Value)) :
    Decoded (List (String × Value)) := do
  let sorted := fields.mergeSort fun a b => decide (a.1 ≤ b.1)
  for (k, v) in sorted do
    match specs.find? (·.name == k) with
    | some spec =>
      match spec.check v with
      | some e => throw e
      | none => pure ()
    | none => pure ()
  for spec in specs do
    if !spec.hasDefault && (fields.lookup spec.name).isNone then
      throw ("missing field `" ++ spec.name ++ "`")
  pure fields

/-- Checks the elements of an array against the fields in order; gives them named. -/
def checkArray (structName : String) (specs : List FieldSpec) (items : List Value) :
    Decoded (List (String × Value)) := do
  let expected := "struct " ++ structName ++ " with " ++ toString specs.length ++ " elements"
  for (i, spec) in (List.range specs.length).zip specs do
    match items[i]? with
    | some v =>
      match spec.check v with
      | some e => throw e
      | none => pure ()
    | none =>
      if !spec.hasDefault then
        throw ("invalid length " ++ toString i ++ ", expected " ++ expected)
  if items.length > specs.length then
    throw ("invalid length " ++ toString items.length ++ ", expected fewer elements in array")
  pure ((specs.map (·.name)).zip items)

/-- Checks a value for a structure with the given fields; gives its present fields by name. -/
def checkStruct (structName : String) (specs : List FieldSpec) : Value →
    Decoded (List (String × Value))
  | .obj fields => checkObject specs fields
  | .arr items => checkArray structName specs items
  | v => .error (invalidType v ("struct " ++ structName))

/-- Decodes a checked field, or gives its default when it is absent. -/
def fieldOr {α : Type} (fields : List (String × Value)) (name : String) (default : α)
    (decode : Value → Decoded α) : Decoded α :=
  match fields.lookup name with
  | some v => decode v
  | none => .ok default

end Conformance.Config
