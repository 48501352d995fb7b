import Conformance.Regex.CharSet
import Conformance.Text.Age
import Conformance.Text.BinaryProperty
import Conformance.Text.GeneralCategory
import Conformance.Text.GraphemeBreak
import Conformance.Text.PropertyName
import Conformance.Text.Script
import Conformance.Text.ScriptExtension
import Conformance.Text.SentenceBreak
import Conformance.Text.WordBreak

/-!
Unicode property classes, the sets behind `\pL` and `\p{...}`.

A class names a property, or a property and a value (`\p{Greek}`, `\p{sc=Greek}`,
`\p{scx!=Latin}`), compared loosely (`loose`). A name alone is a binary property, else a general
category, else a script, except `cf`, `sc` and `lc`, which are categories; with a value the
property is the general category, the script, the script extensions, the age or a break class.
The surrogate category, the unknown script, Katakana_Or_Hiragana and a break class without code
points name no class.
-/

set_option autoImplicit false

namespace Conformance.Regex

open Conformance.Text

/-- How a property class is written. -/
inductive PropertyQuery where
  /-- `\pL`: a property named by one character. -/
  | letter (c : Char)
  /-- `\p{name}`. -/
  | named (name : String)
  /-- `\p{name=value}`, `\p{name:value}` or `\p{name!=value}`. -/
  | valued (name value : String)

namespace Property

/-- The name or value as it is compared: ASCII letters lowercased, spaces, underscores,
hyphens and non-ASCII characters left out, and a leading `is` dropped unless what is left
is `c`. -/
def loose (s : String) : String :=
  let cs := s.toList
  let (prefixed, body) := match cs with
    | a :: b :: rest =>
      if (a == 'i' || a == 'I') && (b == 's' || b == 'S') then (true, rest) else (false, cs)
    | _ => (false, cs)
  let kept := body.filterMap fun c =>
    if c == ' ' || c == '_' || c == '-' || c.toNat > 0x7F then none
    else some c.toLower
  if prefixed && kept == ['c'] then "isc" else String.ofList kept

/-- The entry of a name table that has a name matching the loose name. -/
def namesOf? (table : List (List String)) (name : String) : Option (List String) :=
  table.find? fun names => names.any fun n => loose n == name

/-- The full name of the property a loose name names. -/
def propertyName? (name : String) : Option String :=
  (namesOf? propertyNames name).bind List.head?

/-- The first position of a separator in a list of characters, with the text before it
and the text after it. -/
def splitFirst (sep : List Char) : List Char → Option (List Char × List Char)
  | [] => none
  | c :: rest =>
    if sep.isPrefixOf (c :: rest) then some ([], (c :: rest).drop sep.length)
    else (splitFirst sep rest).map fun (before, after) => (c :: before, after)

/-- How the text between the braces of `\p{...}` is read: `!=` first, then `:`, then `=`
separates a property from a value. Also gives whether the class is negated by `!=`. -/
def queryOf (text : List Char) : PropertyQuery × Bool :=
  match splitFirst ['!', '='] text with
  | some (name, value) => (.valued (String.ofList name) (String.ofList value), true)
  | none =>
    match splitFirst [':'] text with
    | some (name, value) => (.valued (String.ofList name) (String.ofList value), false)
    | none =>
      match splitFirst ['='] text with
      | some (name, value) => (.valued (String.ofList name) (String.ofList value), false)
      | none => (.named (String.ofList text), false)

/-- The code points of a run table whose value is the given one. -/
def runsOf (t : RunTable) (value : String) : CharSet :=
  CharSet.ofTable (t.select (· == value))

/-- The class of a general category by its loose name, if it names one. -/
def category? (name : String) : Option (Except String CharSet) :=
  if name == "any" then some (.ok CharSet.all)
  else if name == "ascii" then some (.ok (CharSet.ofRanges [(0, 0x7F)]))
  else if name == "assigned" then some (.ok (runsOf generalCategoryRuns "Cn").complement)
  else
    (namesOf? generalCategoryValues name).map fun names =>
      match names with
      | code :: full :: _ =>
        if full == "Surrogate" then .error "Unicode property value not found"
        else
          let members := categoryMembers code
          .ok (CharSet.ofTable (generalCategoryRuns.select (members.contains ·)))
      | _ => .error "Unicode property value not found"

/-- The code of a script by its loose name, if it names a script that has a class. -/
def scriptCode? (name : String) : Option (Except String String) :=
  (namesOf? scriptValues name).map fun names =>
    match names with
    | code :: full :: _ =>
      if full == "Unknown" || full == "Katakana_Or_Hiragana" then
        .error "Unicode property value not found"
      else .ok code
    | _ => .error "Unicode property value not found"

/-- The class of a script by its loose name, if it names one. -/
def script? (name : String) : Option (Except String CharSet) :=
  (scriptCode? name).map fun r => r.map (runsOf scriptRuns ·)

/-- The class of the characters whose script extensions hold the named script. -/
def scriptExtension (name : String) : Except String CharSet :=
  match scriptCode? name with
  | none => .error "Unicode property value not found"
  | some (.error e) => .error e
  | some (.ok code) =>
    .ok (CharSet.ofTable (scriptExtensionRuns.select fun v => (v.splitOn "+").contains code))

/-- The class of the code points assigned up to the named version. -/
def age (name : String) : Except String CharSet :=
  let versions := ageValues.filter fun names => names.head? != some "NA"
  match versions.findIdx? fun names => names.any fun n => loose n == name with
  | none => .error "Unicode property value not found"
  | some i =>
    let upTo := (versions.take (i + 1)).filterMap List.head?
    .ok (CharSet.ofTable (ageRuns.select (upTo.contains ·)))

/-- The class of a text-break class by its loose name; `Other` and the classes without code
points name none. -/
def breakClass (runs : RunTable) (values : List (List String)) (name : String) :
    Except String CharSet :=
  match namesOf? values name with
  | some (code :: _) =>
    let s := runsOf runs code
    if code == "XX" || s.isEmpty then .error "Unicode property value not found" else .ok s
  | _ => .error "Unicode property value not found"

/-- The class of a binary property by its full name. -/
def binary (full : String) : Except String CharSet :=
  match binaryProperty? full with
  | some t => .ok (CharSet.ofTable t)
  | none => .error "Unicode property not found"

/-- The class of a name alone: a binary property, a general category or a script. -/
def named (name : String) : Except String CharSet :=
  let asProperty := if name == "cf" || name == "sc" || name == "lc" then none
    else propertyName? name
  match asProperty with
  | some full => binary full
  | none =>
    match category? name with
    | some r => r
    | none =>
      match script? name with
      | some r => r
      | none => .error "Unicode property not found"

/-- The class of a property and a value, both loose. -/
def valued (name value : String) : Except String CharSet :=
  let missing : Except String CharSet := .error "Unicode property value not found"
  match propertyName? name with
  | none => .error "Unicode property not found"
  | some "General_Category" => (category? value).getD missing
  | some "Script" => (script? value).getD missing
  | some "Script_Extensions" => scriptExtension value
  | some "Age" => age value
  | some "Grapheme_Cluster_Break" =>
    breakClass graphemeClusterBreakRuns graphemeClusterBreakValues value
  | some "Word_Break" => breakClass wordBreakRuns wordBreakValues value
  | some "Sentence_Break" => breakClass sentenceBreakRuns sentenceBreakValues value
  | some _ => missing

/-- The class a query names. -/
def resolve : PropertyQuery → Except String CharSet
  | .letter c => named (loose (String.singleton c))
  | .named name => named (loose name)
  | .valued name value => valued (loose name) (loose value)

/-- The class of a query as it appears in a pattern: case variants added under case
folding, then the complement taken when the class is negated. -/
def classOf (q : PropertyQuery) (negated caseless : Bool) : Except String CharSet := do
  let s ← resolve q
  let s := if caseless then s.caseFold else s
  pure (if negated then s.complement else s)

end Property

end Conformance.Regex
