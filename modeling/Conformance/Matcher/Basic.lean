import Conformance.Regex.Compile
import Conformance.Text.Ascii

/-!
Value matchers: what a compiled segment does with one value.

Six matchers are literal tests (always, empty, equals, starts-with, ends-with, contains);
on success they report the whole value once per declared group. The seventh runs a regular
expression. That expression may start with a block of `external` groups `([^#]*)#`: the
captures of an earlier match are written before the value, each followed by `#`, so that
`\1`, `\2`, … in the segment refer to them; a missing capture is written as the control
character U+0001, which no identifier equals. Only the groups after the block are reported,
and a group that took no part reads as the empty text.

Case folding of the literal tests is ASCII-only; a `contains` matcher that ignores case
keeps its needle lowered.
-/

set_option autoImplicit false

namespace Conformance

open Conformance.Regex Conformance.Text

/-- The outcome of matching a value, an item or a dependency: success, and the captured
groups in declaration order. -/
structure MatchResult where
  success : Bool
  groups : List String
deriving Repr, BEq, Inhabited

namespace MatchResult

/-- A success carrying the groups. -/
def hit (groups : List String) : MatchResult := ⟨true, groups⟩

/-- A failure. -/
def miss : MatchResult := ⟨false, []⟩

/-- Flips the success when `invert` holds, keeping the groups. -/
def inverted (r : MatchResult) (invert : Bool) : MatchResult := ⟨r.success != invert, r.groups⟩

end MatchResult

/-- The captures of a regular-expression match, or `none` when it does not match. -/
abbrev Outcome := Option (List String)

/-- The result of an outcome. -/
def Outcome.toResult : Outcome → MatchResult
  | some gs => .hit gs
  | none => .miss

/-- A segment compiled to a regular expression. -/
structure RegexMatcher where
  /-- The segment as written. -/
  source : String
  /-- The compiled expression; its text is the generated one. -/
  regex : Compiled
  /-- The size of the block of external groups. -/
  external : Nat
  /-- The number of groups of the segment itself. -/
  own : Nat
  /-- A literal every accepted value starts with. -/
  fixedPrefix : String
  /-- A literal every accepted value ends with. -/
  fixedSuffix : String
  /-- Whether results are remembered per subject. -/
  memoized : Bool := true
deriving Inhabited

/-- The kinds of value matchers. -/
inductive MatcherKind where
  | always | empty | equals | startsWith | endsWith | contains | regex
deriving Repr, BEq, DecidableEq, Inhabited

/-- The name of a kind. -/
def MatcherKind.name : MatcherKind → String
  | .always => "always"
  | .empty => "empty"
  | .equals => "equals"
  | .startsWith => "starts-with"
  | .endsWith => "ends-with"
  | .contains => "contains"
  | .regex => "regex"

/-- A compiled single-value matcher. -/
inductive Matcher where
  /-- Accepts any value; values with a `.` only when `matchesDots`. -/
  | always (matchesDots : Bool) (groups : Nat)
  /-- Accepts only the empty value. -/
  | empty (groups : Nat)
  /-- Accepts the literal. -/
  | equals (value : String) (ignoreCase : Bool) (groups : Nat)
  /-- Accepts values starting with the literal. -/
  | startsWith (value : String) (ignoreCase : Bool) (groups : Nat)
  /-- Accepts values ending with the literal. -/
  | endsWith (value : String) (ignoreCase : Bool) (groups : Nat)
  /-- Accepts values containing the literal; lowered when ignoring case. -/
  | contains (value : String) (ignoreCase : Bool) (groups : Nat)
  /-- Runs a regular expression. -/
  | regex (r : RegexMatcher)
deriving Inhabited

/-- The filler written for a missing external capture. -/
def groupFiller : String := "\x01"

/-- The character that ends each external capture in a subject. -/
def groupSeparator : Char := '#'

namespace RegexMatcher

/-- The text the expression runs on: the external captures, each followed by `#`, then the
value. -/
def subject (r : RegexMatcher) (value : String) (ext : List String) : String :=
  String.join ((List.range r.external).map fun i => ext.getD i groupFiller ++ "#") ++ value

/-- Runs the expression on a subject; an error when the backtracking limit runs out. -/
def evaluate (r : RegexMatcher) (subject : String) : Except Unit Outcome :=
  match r.regex.captures subject with
  | .error () => .error ()
  | .ok none => .ok none
  | .ok (some caps) =>
    .ok (some ((List.range r.own).map fun i => (caps.getD (r.external + i) none).getD ""))

/-- The result for a value: a failed evaluation is a miss. -/
def test (r : RegexMatcher) (value : String) (ext : List String) : MatchResult :=
  match r.evaluate (r.subject value ext) with
  | .ok o => o.toResult
  | .error () => .miss

end RegexMatcher

namespace Matcher

/-- A matcher for a substring; the needle is lowered when ignoring case. -/
def mkContains (value : String) (ignoreCase : Bool) (groups : Nat) : Matcher :=
  .contains (if ignoreCase then asciiLower value else value) ignoreCase groups

/-- Which kind of matcher this is. -/
def kind : Matcher → MatcherKind
  | .always _ _ => .always
  | .empty _ => .empty
  | .equals _ _ _ => .equals
  | .startsWith _ _ _ => .startsWith
  | .endsWith _ _ _ => .endsWith
  | .contains _ _ _ => .contains
  | .regex _ => .regex

/-- The number of groups a successful match reports. -/
def groupCount : Matcher → Nat
  | .always _ g | .empty g | .equals _ _ g | .startsWith _ _ g | .endsWith _ _ g
  | .contains _ _ g => g
  | .regex r => r.own

/-- Whether a literal test accepts the value. -/
def accepts : Matcher → String → Bool
  | .always dots _, v => dots || !v.toList.contains '.'
  | .empty _, v => v.isEmpty
  | .equals e ic _, v => if ic then eqIgnoreAsciiCase v e else v == e
  | .startsWith p ic _, v =>
    if ic then ((bytePrefix v p.utf8ByteSize).map (eqIgnoreAsciiCase · p)).getD false
    else p.toList.isPrefixOf v.toList
  | .endsWith s ic _, v =>
    if ic then ((byteSuffix v s.utf8ByteSize).map (eqIgnoreAsciiCase · s)).getD false
    else s.toList.reverse.isPrefixOf v.toList.reverse
  | .contains n ic _, v => if ic then containsText (asciiLower v) n else containsText v n
  | .regex _, _ => false

/-- Matches a value, given the captures of an earlier match for back-references. -/
def test (m : Matcher) (value : String) (ext : List String) : MatchResult :=
  match m with
  | .regex r => r.test value ext
  | _ => if m.accepts value then .hit (List.replicate m.groupCount value) else .miss

/-- A literal every accepted value starts with; case-insensitive matchers give none. -/
def fixedPrefix : Matcher → String
  | .equals v false _ | .startsWith v false _ => v
  | .regex r => r.fixedPrefix
  | _ => ""

/-- A literal every accepted value ends with; case-insensitive matchers give none. -/
def fixedSuffix : Matcher → String
  | .equals v false _ | .endsWith v false _ => v
  | .regex r => r.fixedSuffix
  | _ => ""

/-- Structural sameness: the same kind with the same literal, case rule and groups, or the
same generated expression with the same external block. Alike matchers accept the same
values. -/
def alike : Matcher → Matcher → Bool
  | .always a ga, .always b gb => a == b && ga == gb
  | .empty a, .empty b => a == b
  | .equals a ia ga, .equals b ib gb
  | .startsWith a ia ga, .startsWith b ib gb
  | .endsWith a ia ga, .endsWith b ib gb
  | .contains a ia ga, .contains b ib gb => a == b && ia == ib && ga == gb
  | .regex a, .regex b => a.regex.source == b.regex.source && a.external == b.external
  | _, _ => false

/-- The matcher with results no longer remembered. -/
def withoutMemo : Matcher → Matcher
  | .regex r => .regex { r with memoized := false }
  | m => m

/-- How a matcher shows itself. -/
def display : Matcher → String
  | .always dots _ => "Always(dots=" ++ toString dots ++ ")"
  | .empty _ => "Empty"
  | .equals v _ _ => "Equals(\"" ++ v ++ "\")"
  | .startsWith v _ _ => "StartsWith(\"" ++ v ++ "\")"
  | .endsWith v _ _ => "EndsWith(\"" ++ v ++ "\")"
  | .contains v _ _ => "Contains(\"" ++ v ++ "\")"
  | .regex r => "Regex(\"" ++ r.regex.source ++ "\")"

end Matcher

end Conformance
