/-!
Errors of the pattern library.

Each error names its cause and carries the text it concerns. `Error.message` gives the
wording shown to users and `Error.name` the name of the cause.
-/

set_option autoImplicit false

namespace Conformance

/-- Why compiling a pattern, template or configuration failed. -/
inductive Error where
  /-- The regular expression built from a segment does not compile. -/
  | invalidPattern (pattern : String)
  /-- An item pattern mixes `key=value` fields with positional ones. -/
  | mixedFieldStyles (pattern : String)
  /-- An item pattern names a field its item type does not have. -/
  | unknownField (pattern key itemType : String)
  /-- An item pattern addresses more fields than its item type has. -/
  | tooManyFields (pattern itemType : String) (count max : Nat)
  /-- An item pattern names no known item type; `available` lists the registered ones. -/
  | unknownItemType (name : String) (available : List String)
  /-- A text is longer, in UTF-8 bytes, than the limit. -/
  | patternTooLong (len max : Nat)
  /-- A marker term is malformed. -/
  | invalidMarker (text : String)
  /-- A count constraint is malformed. -/
  | invalidCount (text : String)
  /-- A target template is malformed. -/
  | invalidTemplate (template message : String)
  /-- A configuration value is not understood. -/
  | invalidConfig (message : String)
deriving Repr, BEq, Inhabited

namespace Error

/-- The name of the cause. -/
def name : Error → String
  | .invalidPattern _ => "InvalidPattern"
  | .mixedFieldStyles _ => "MixedFieldStyles"
  | .unknownField _ _ _ => "UnknownField"
  | .tooManyFields _ _ _ _ => "TooManyFields"
  | .unknownItemType _ _ => "UnknownItemType"
  | .patternTooLong _ _ => "PatternTooLong"
  | .invalidMarker _ => "InvalidMarker"
  | .invalidCount _ => "InvalidCount"
  | .invalidTemplate _ _ => "InvalidTemplate"
  | .invalidConfig _ => "InvalidConfig"

/-- The first part of the message for an unknown item type. -/
def unknownTypeHead (name : String) : String :=
  if name.isEmpty then "pattern names no item type and no type hint was given"
  else "unknown item type \"" ++ name ++ "\""

/-- The wording shown to users. -/
def message : Error → String
  | .invalidPattern p => "invalid pattern \"" ++ p ++ "\""
  | .mixedFieldStyles p => "pattern \"" ++ p ++ "\" mixes named (key=value) and positional fields"
  | .unknownField p k t =>
    "pattern \"" ++ p ++ "\" references unknown field \"" ++ k ++ "\" of item type " ++ t
  | .tooManyFields p t count max =>
    "pattern \"" ++ p ++ "\" addresses " ++ toString count ++ " fields, but item type " ++ t ++
      " has " ++ toString max
  | .unknownItemType n available =>
    unknownTypeHead n ++
      (if available.isEmpty then "; no item types are registered"
       else "; registered: " ++ ", ".intercalate available)
  | .patternTooLong len max =>
    "pattern length is " ++ toString len ++ ", but maximum allowed is " ++ toString max
  | .invalidMarker t => "invalid marker term \"" ++ t ++ "\""
  | .invalidCount t => "invalid count constraint \"" ++ t ++ "\", expected e.g. \"bad_ct>0\""
  | .invalidTemplate t m => "invalid target template \"" ++ t ++ "\": " ++ m
  | .invalidConfig m => "invalid config: " ++ m

end Error

end Conformance
