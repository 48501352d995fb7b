import Conformance.Text.Alphanumeric

/-!
Wildcards of segments and the literals every match must carry.

Outside escapes, `.`, `/` and `\` are separators, and a wildcard expands by what stands before it:

* `**` after a separator: zero or more runs of a separator and non-separators, the
  separator itself becoming optional;
* `**` after an identifier character: anything, including nothing;
* `**` elsewhere: non-separators, then more runs of a separator and non-separators;
* `*` next to an identifier character: any number of non-separators;
* `*` elsewhere: at least one non-separator.

A literal `.` becomes `[.]`. `fixedLiterals` gives a head and a tail of literal text that every
accepted value starts and ends with, erring on the short side.
-/

set_option autoImplicit false

namespace Conformance.Segment

open Conformance.Text

/-- The class of one non-separator character. -/
def nonSeparator : String := "[^./\\\\]"

/-- The class of one separator character. -/
def separatorClass : String := "[./\\\\]"

/-- The characters with a meaning in regular expressions; `.` is not among them, as it is a
literal separator in segments. -/
def metaChars : List Char := ['\\', '^', '$', '*', '+', '?', '(', ')', '[', ']', '{', '}', '|']

/-- Whether a character has a meaning in regular expressions. -/
def isMeta (c : Char) : Bool := metaChars.contains c

/-- Whether a text holds a regular-expression meta character. -/
def hasMeta (s : String) : Bool := s.toList.any isMeta

/-- A non-empty text without meta characters. -/
def isPlainLiteral (s : String) : Bool := !s.isEmpty && !hasMeta s

/-- The path separators `.`, `/` and `\`. -/
def isSeparator (c : Char) : Bool := c == '.' || c == '/' || c == '\\'

/-- Identifier characters: alphanumeric ones and `_`. -/
def isIdent (c : Char) : Bool := isAlphanumeric c || c == '_'

/-- What the expansion has just written. -/
inductive Prev where
  /-- The start, or a construct that is neither identifier nor separator. -/
  | other
  /-- An identifier character. -/
  | ident
  /-- A separator, whose text starts at this position of the output. -/
  | separator (start : Nat)
deriving BEq

/-- Expands the wildcards of the remaining characters onto the output. -/
def expand : Prev → List Char → Array Char → Array Char
  | _, [], out => out
  | _, '\\' :: rest, out =>
    match rest with
    | next :: more =>
      let prev := if next == '\\' then Prev.separator out.size
        else if isIdent next then .ident else .other
      expand prev more ((out.push '\\').push next)
    -- a lone trailing backslash is kept for the regular-expression compiler to reject
    | [] => out.push '\\'
  | prev, '*' :: '*' :: rest, out =>
    let piece := match prev with
      | .separator start =>
        "(?:" ++ String.ofList (out.extract start out.size).toList ++ nonSeparator ++ "+)*"
      | .ident => ".*"
      | .other => nonSeparator ++ "+(?:" ++ separatorClass ++ nonSeparator ++ "+)*"
    let kept := match prev with
      | .separator start => out.extract 0 start
      | _ => out
    expand .other rest (kept ++ piece.toList.toArray)
  | prev, '*' :: rest, out =>
    let glued := prev == .ident || (rest.head?.map isIdent).getD false
    expand .other rest (out ++ (nonSeparator ++ if glued then "*" else "+").toList.toArray)
  | _, '.' :: rest, out => expand (.separator out.size) rest (out ++ "[.]".toList.toArray)
  | _, '/' :: rest, out => expand (.separator out.size) rest (out.push '/')
  | _, c :: rest, out => expand (if isIdent c then .ident else .other) rest (out.push c)

/-- The regular-expression text of a segment, its wildcards expanded. -/
def expandAsterisks (segment : String) : String :=
  String.ofList (expand .other segment.toList #[]).toList

/-- A character of a segment and whether it stands for itself in the expansion. -/
structure Token where
  ch : Char
  literal : Bool

/-- The hexadecimal digits and braces of a code-point escape, which are not literal text. -/
def hexRun : List Char → List Token × List Char
  | c :: rest =>
    if c.isHexDigit || c == '{' || c == '}' then
      let (ts, more) := hexRun rest
      (⟨c, false⟩ :: ts, more)
    else ([], c :: rest)
  | [] => ([], [])

/-- What follows a code-point escape's digits is no longer than what it followed. -/
theorem hexRun_length : ∀ cs : List Char, (hexRun cs).2.length ≤ cs.length
  | [] => by simp [hexRun]
  | c :: rest => by
    unfold hexRun
    split
    · have := hexRun_length rest; simp; omega
    · simp

/-- Splits a segment into tokens; escapes and meta characters are not literal. -/
def tokenize : List Char → List Token
  | [] => []
  | '\\' :: rest =>
    match rest with
    | e :: more =>
      if e == 'x' || e == 'u' || e == 'U' then
        let run := hexRun more
        ⟨'\\', false⟩ :: ⟨e, false⟩ :: run.1 ++ tokenize run.2
      else ⟨'\\', false⟩ :: ⟨e, false⟩ :: tokenize more
    | [] => [⟨'\\', false⟩]
  | c :: rest => ⟨c, !isMeta c⟩ :: tokenize rest
termination_by cs => cs.length
decreasing_by
  all_goals simp_wf
  all_goals first
    | omega
    | (have h := hexRun_length more; simp_all; omega)

/-- The quantifier characters right after a run of literals, brace bodies included. -/
def quantifierRun : List Token → Bool → List Char
  | [], _ => []
  | t :: ts, inBraces =>
    if t.ch == '{' && !t.literal then t.ch :: quantifierRun ts true
    else if t.ch == '}' && !t.literal then t.ch :: quantifierRun ts false
    else if (t.ch == '*' || t.ch == '+' || t.ch == '?') && !t.literal then
      t.ch :: quantifierRun ts inBraces
    else if inBraces then t.ch :: quantifierRun ts inBraces
    else []

/-- The literal head and tail that every value accepted by the expansion of the segment
carries. Alternation, inline flags and look-around void both. -/
def fixedLiterals (segment : String) : String × String :=
  let cs := segment.toList
  if cs.contains '|' || (cs.zip (cs.drop 1)).any (fun p => p.1 == '(' && p.2 == '?') then ("", "")
  else
    let tokens := tokenize cs
    let headTokens := tokens.takeWhile (·.literal)
    let head := headTokens.map (·.ch)
    let run := quantifierRun (tokens.drop headTokens.length) false
    let head :=
      if run.contains '?' || run.contains '{' then head.dropLast
      else if run.take 2 == ['*', '*'] && (head.getLast?.map isSeparator).getD false then
        head.dropLast
      else head
    let tail := ((tokens.reverse.takeWhile (·.literal)).map (·.ch)).reverse
    (String.ofList head, String.ofList tail)

end Conformance.Segment
