import Conformance.Error
import Conformance.Matcher.Basic
import Conformance.Segment.Glob
import Conformance.Text.WhiteSpace

/-!
Compiling a segment to a value matcher.

The segment is trimmed of white space, then the first rule that applies decides:

1. nothing, or only `*` inside optional parentheses: `always`, values with a `.` accepted
   unless it is a single `*`;
2. only `(`, `)` and `-`: `empty`;
3. a leading `^`: the rest is a regular expression, anchored at the start;
4. a trailing `$`: a regular expression, anchored at the end only;
5. no external groups and no meta character: `equals`;
6. `**X**` with `X` a plain literal: `contains`;
7. `X**` with `X` a plain literal not ending in a separator: `starts-with`;
8. `**X` with `X` a plain literal: `ends-with`;
9. anything else: the wildcards expanded into an anchored regular expression.

Rules 5 to 8 look inside parentheses that wrap the whole segment; each such `(` declares a
group that captures the whole value. A segment is at most 8192 bytes long, and one that
becomes a regular expression at most 4096.
-/

set_option autoImplicit false

namespace Conformance.Segment

open Conformance.Regex Conformance.Text

/-- How to compile a segment. -/
structure Options where
  /-- The number of captures of an earlier match that `\1`, `\2`, … may refer to. -/
  external : Nat := 0
  /-- Compare case-insensitively. -/
  ignoreCase : Bool := false
deriving Repr, BEq, Inhabited

/-- The longest segment, in UTF-8 bytes. -/
def maxLength : Nat := 8192

/-- The longest segment that becomes a regular expression, in UTF-8 bytes. -/
def maxRegexLength : Nat := 4096

/-- The inline flags that start the generated expression. -/
def flagText (ignoreCase : Bool) : String := if ignoreCase then "(?i)" else ""

/-- The block of groups that reads the external captures from the subject. -/
def block (o : Options) : String := String.join (List.replicate o.external "([^#]*)#")

/-- The number of `(` in a text. -/
def openParens (s : String) : Nat := s.toList.count '('

/-- Only `*`, at least one, inside any number of `(` before and `)` after. -/
def isOnlyAsterisks (s : String) : Bool :=
  let inner := ((s.toList.dropWhile (· == '(')).reverse.dropWhile (· == ')'))
  !inner.isEmpty && inner.all (· == '*')

/-- Strips as many `)` at the end as `(` at the start, when the two counts agree; gives the
inside and the count. -/
def stripGroupParens (s : String) : Option (String × Nat) :=
  let cs := s.toList
  let opened := (cs.takeWhile (· == '(')).length
  let inner := cs.drop opened
  let closed := (inner.reverse.takeWhile (· == ')')).length
  if opened = closed then some (String.ofList (inner.take (inner.length - closed)), opened)
  else none

/-- The text after a prefix, if it starts with it. -/
def dropPrefix? (s pre : String) : Option String :=
  if pre.toList.isPrefixOf s.toList then some (String.ofList (s.toList.drop pre.length))
  else none

/-- The text before a suffix, if it ends with it. -/
def dropSuffix? (s suf : String) : Option String :=
  if suf.toList.reverse.isPrefixOf s.toList.reverse then
    some (String.ofList (s.toList.take (s.length - suf.length)))
  else none

/-- Compiles the generated text of a segment to a regular-expression matcher. -/
def compileRegex (segment text : String) (o : Options) (pre suf : String) :
    Except Error Matcher :=
  if segment.utf8ByteSize > maxRegexLength then
    .error (.patternTooLong segment.utf8ByteSize maxRegexLength)
  else
    match Regex.compile text with
    | .error _ => .error (.invalidPattern segment)
    | .ok re =>
      .ok (.regex { source := segment, regex := re, external := o.external,
                    own := re.groups - o.external, fixedPrefix := pre, fixedSuffix := suf })

/-- The literal rules 5 to 8, applied to the inside of the wrapping parentheses. -/
def literalRule (o : Options) (inner : String) (groups : Nat) : Option Matcher :=
  let ic := o.ignoreCase
  if o.external = 0 && !hasMeta inner then some (.equals inner ic groups)
  else
    match (dropPrefix? inner "**").bind (dropSuffix? · "**") with
    | some needle =>
      if isPlainLiteral needle then some (Matcher.mkContains needle ic groups)
      else tail ic
    | none => tail ic
where
  /-- Rules 7 and 8. -/
  tail (ic : Bool) : Option Matcher :=
    let starts := (dropSuffix? inner "**").filter fun p =>
      isPlainLiteral p && !((p.toList.getLast?.map isSeparator).getD false)
    match starts with
    | some p => some (.startsWith p ic groups)
    | none =>
      match (dropPrefix? inner "**").filter isPlainLiteral with
      | some s => some (.endsWith s ic groups)
      | none => none

/-- Compiles a trimmed segment by the first rule that applies. -/
def classify (segment : String) (o : Options) : Except Error Matcher :=
  let ic := o.ignoreCase
  let cs := segment.toList
  if segment.isEmpty || isOnlyAsterisks segment then
    .ok (.always (segment.isEmpty || cs.count '*' > 1) (openParens segment))
  else if cs.all fun c => c == '(' || c == ')' || c == '-' then
    .ok (.empty (openParens segment))
  else
    match cs with
    | '^' :: rest =>
      compileRegex segment (flagText ic ++ "^" ++ block o ++ String.ofList rest) o "" ""
    | _ =>
      if cs.getLast? == some '$' then
        compileRegex segment (flagText ic ++ "^" ++ block o ++ ".*" ++ segment) o "" ""
      else
        match (stripGroupParens segment).bind fun (inner, n) => literalRule o inner n with
        | some m => .ok m
        | none =>
          let (pre, suf) := if ic then ("", "") else fixedLiterals segment
          compileRegex segment
            (flagText ic ++ "^" ++ block o ++ expandAsterisks segment ++ "$") o pre suf

/-- Compiles one segment to a matcher. -/
def compile (segment : String) (o : Options) : Except Error Matcher :=
  if segment.utf8ByteSize > maxLength then .error (.patternTooLong segment.utf8ByteSize maxLength)
  else classify (trimWhite segment) o

end Conformance.Segment
