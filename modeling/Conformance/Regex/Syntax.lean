import Conformance.Regex.CharSet
import Conformance.Text.WhiteSpace
import Conformance.Text.WordChar

/-!
The abstract syntax of regular expressions, shared by both dialects.

A parsed expression is a `Node`: characters and character sets, zero-width assertions,
capture groups numbered from 1 in the order of their opening parenthesis, binary
concatenation and alternation (the left branch has priority), bounded or unbounded
repetition with a greediness flag, back-references, look-around and atomic groups.
Case-insensitive literals and classes are already widened to sets of case variants, so the
matcher never needs the flags.
-/

set_option autoImplicit false

namespace Conformance.Regex

open Conformance.Text

/-- Zero-width assertions. -/
inductive Look where
  /-- At the start of the subject. -/
  | textStart
  /-- At the end of the subject. -/
  | textEnd
  /-- At the start of the subject or after a line feed. -/
  | lineStart
  /-- At the end of the subject or before a line feed. -/
  | lineEnd
  /-- At the start of the subject, after a line feed, or after a carriage return that no line
  feed follows. -/
  | lineStartCrlf
  /-- At the end of the subject, before a carriage return, or before a line feed that no
  carriage return precedes. -/
  | lineEndCrlf
  /-- Between a word character and a non-word character (Unicode words). -/
  | wordBoundary
  /-- Not between a word character and a non-word character. -/
  | notWordBoundary
  /-- Before a word character and not after one. -/
  | wordStart
  /-- After a word character and not before one. -/
  | wordEnd
  /-- Not after a word character. -/
  | wordStartHalf
  /-- Not before a word character. -/
  | wordEndHalf
  /-- A word boundary where only ASCII letters, digits and `_` are word characters. -/
  | asciiWordBoundary
  /-- The negation of `asciiWordBoundary`. -/
  | asciiNotWordBoundary
deriving Repr, BEq, Inhabited

/-- Regular expressions. -/
inductive Node where
  /-- Matches the empty string. -/
  | empty
  /-- Matches one given character. -/
  | char (c : Char)
  /-- Matches one character of a set. -/
  | set (s : CharSet)
  /-- Matches the empty string where the assertion holds. -/
  | look (l : Look)
  /-- Records the span matched by its body as group `index`. -/
  | capture (index : Nat) (body : Node)
  /-- Matches the first expression, then the second. -/
  | cat (first second : Node)
  /-- Tries the first expression, then the second. -/
  | alt (first second : Node)
  /-- Repeats the body between `min` and `max` times (no bound when `max` is `none`). -/
  | rep (body : Node) (min : Nat) (max : Option Nat) (greedy : Bool)
  /-- Matches the text last recorded by group `index`, exactly. -/
  | backref (index : Nat)
  /-- Matches the empty string when group `index` has recorded where it starts. -/
  | defined (index : Nat)
  /-- Succeeds when the body matches (does not match, if negated) at this position. -/
  | lookahead (negated : Bool) (body : Node)
  /-- Succeeds when the body matches (does not match, if negated) the `width` characters
  just before this position. -/
  | lookbehind (negated : Bool) (width : Nat) (body : Node)
  /-- Matches the body and gives up its other ways of matching. -/
  | atomic (body : Node)
  /-- Matches the body as the linear engine matches it on its own: once, by its first match
  in priority order, giving up the others. The groups inside that take no part in that
  match are cleared. -/
  | commit (body : Node)
  /-- Matches `test` once, committing to its first match, and then `yes`; where `test` does
  not match, `no` instead. -/
  | conditional (test yes no : Node)
deriving Inhabited

/-- Flags that steer how the parser reads the rest of a group. -/
structure Flags where
  /-- `i`: letters match their case variants. -/
  caseless : Bool := false
  /-- `m`: `^` and `$` also match at line feeds. -/
  multiLine : Bool := false
  /-- `s`: `.` also matches a line feed. -/
  dotAll : Bool := false
  /-- `U`: greedy and lazy repetition trade places. -/
  swapGreed : Bool := false
  /-- `u`: classes and word boundaries are Unicode-aware. -/
  unicode : Bool := true
  /-- `R`: line terminators are `\r\n` as well as `\n`. -/
  crlf : Bool := false
  /-- `x`: white space is ignored and `#` starts a comment. -/
  verbose : Bool := false
deriving Repr, BEq, Inhabited

namespace Node

/-- Concatenation of a list of expressions; the empty list matches the empty string. -/
def seq : List Node → Node
  | [] => .empty
  | [n] => n
  | n :: rest => .cat n (seq rest)

/-- Alternation of a list of expressions, earlier ones first. -/
def alts : List Node → Node
  | [] => .empty
  | [n] => n
  | n :: rest => .alt n (alts rest)

/-- A literal character under the given flags. Without Unicode mode only ASCII letters have
case variants, the other case of the same letter. -/
def literal (flags : Flags) (c : Char) : Node :=
  if flags.caseless then
    if flags.unicode then
      match CaseFold.variants c with
      | [] => .char c
      | vs => .set (CharSet.ofChars (c :: vs))
    else if c.isAlpha then .set (CharSet.ofChars [c.toLower, c.toUpper])
    else .char c
  else .char c

/-- The set matched by `.` under the given flags. -/
def dotSet (flags : Flags) : CharSet :=
  if flags.dotAll then CharSet.all
  else if flags.crlf then CharSet.diff CharSet.all (CharSet.ofChars ['\n', '\r'])
  else CharSet.diff CharSet.all (CharSet.single '\n')

/-- The assertion written `^` under the given flags. -/
def caret (flags : Flags) : Node :=
  .look (if !flags.multiLine then .textStart else if flags.crlf then .lineStartCrlf
    else .lineStart)

/-- The assertion written `$` under the given flags. -/
def dollar (flags : Flags) : Node :=
  .look (if !flags.multiLine then .textEnd else if flags.crlf then .lineEndCrlf
    else .lineEnd)

/-- The fewest characters a match can have; `none` when the expression cannot match. -/
def minLen : Node → Option Nat
  | .empty => some 0
  | .char _ => some 1
  | .set s => if s.isEmpty then none else some 1
  | .look _ => some 0
  | .capture _ b => minLen b
  | .cat a b => match minLen a, minLen b with
    | some x, some y => some (x + y)
    | _, _ => none
  | .alt a b => match minLen a, minLen b with
    | some x, some y => some (Nat.min x y)
    | some x, none => some x
    | none, y => y
  | .rep b lo _ _ => if lo = 0 then some 0 else (minLen b).map (· * lo)
  | .backref _ | .defined _ => some 0
  | .lookahead _ _ => some 0
  | .lookbehind _ _ _ => some 0
  | .atomic b | .commit b => minLen b
  | .conditional t y n => match minLen t, minLen y, minLen n with
    | some a, some b, some c => some (Nat.min (a + b) c)
    | some a, some b, none => some (a + b)
    | _, _, c => c

/-- Whether the expression can match the empty string. -/
def nullable (n : Node) : Bool := n.minLen == some 0

/-- The number of characters every match has, when that number is fixed. -/
def width? : Node → Option Nat
  | .empty => some 0
  | .char _ => some 1
  | .set _ => some 1
  | .look _ => some 0
  | .capture _ b => width? b
  | .cat a b => match width? a, width? b with
    | some x, some y => some (x + y)
    | _, _ => none
  | .alt a b => match width? a, width? b with
    | some x, some y => if x = y then some x else none
    | _, _ => none
  | .rep b lo hi _ => match width? b, hi with
    | some w, some h => if lo = h then some (w * lo) else none
    | _, _ => none
  | .backref _ => none
  | .defined _ => some 0
  | .lookahead _ _ => some 0
  | .lookbehind _ _ _ => some 0
  | .atomic b | .commit b => width? b
  | .conditional t y n => match width? t, width? y, width? n with
    | some a, some b, some c => if a + b = c then some c else none
    | _, _, _ => none

/-- Whether the expression needs the backtracking matcher: it holds a back-reference,
a look-around or an atomic group. -/
def needsBacktracking : Node → Bool
  | .capture _ b => needsBacktracking b
  | .cat a b => needsBacktracking a || needsBacktracking b
  | .alt a b => needsBacktracking a || needsBacktracking b
  | .rep b _ _ _ | .commit b => needsBacktracking b
  | .backref _ | .defined _ => true
  | .lookahead _ _ => true
  | .lookbehind _ _ _ => true
  | .atomic _ | .conditional _ _ _ => true
  | _ => false

/-- The capture groups inside an expression. -/
def groups : Node → List Nat
  | .capture i b => i :: groups b
  | .cat a b | .alt a b => groups a ++ groups b
  | .rep b _ _ _ | .lookahead _ b | .lookbehind _ _ b | .atomic b | .commit b => groups b
  | .conditional t y n => groups t ++ groups y ++ groups n
  | _ => []

end Node

/-- Named classes of the `[[:name:]]` form, over ASCII. -/
def asciiClass? (name : String) : Option CharSet :=
  let r := fun (lo hi : Char) => (lo.toNat, hi.toNat)
  match name with
  | "alnum" => some (CharSet.ofRanges [r '0' '9', r 'A' 'Z', r 'a' 'z'])
  | "alpha" => some (CharSet.ofRanges [r 'A' 'Z', r 'a' 'z'])
  | "ascii" => some (CharSet.ofRanges [(0, 0x7F)])
  | "blank" => some (CharSet.ofRanges [(9, 9), (32, 32)])
  | "cntrl" => some (CharSet.ofRanges [(0, 0x1F), (0x7F, 0x7F)])
  | "digit" => some (CharSet.ofRanges [r '0' '9'])
  | "graph" => some (CharSet.ofRanges [(0x21, 0x7E)])
  | "lower" => some (CharSet.ofRanges [r 'a' 'z'])
  | "print" => some (CharSet.ofRanges [(0x20, 0x7E)])
  | "punct" => some (CharSet.ofRanges [(0x21, 0x2F), (0x3A, 0x40), (0x5B, 0x60), (0x7B, 0x7E)])
  | "space" => some (CharSet.ofRanges [(9, 13), (32, 32)])
  | "upper" => some (CharSet.ofRanges [r 'A' 'Z'])
  | "word" => some (CharSet.ofRanges [r '0' '9', r 'A' 'Z', r 'a' 'z', r '_' '_'])
  | "xdigit" => some (CharSet.ofRanges [r '0' '9', r 'A' 'F', r 'a' 'f'])
  | _ => none

/-- The classes `\d`, `\s` and `\w` (by their letter), Unicode-aware or ASCII-only. -/
def perlClass (letter : Char) (unicode : Bool) : CharSet :=
  let ascii := fun (name : String) => (asciiClass? name).getD CharSet.none
  match letter.toLower with
  | 'd' => if unicode then CharSet.ofTable digitTable else ascii "digit"
  | 's' => if unicode then CharSet.ofTable whiteSpaceTable else ascii "space"
  | _ => if unicode then CharSet.ofTable wordTable else ascii "word"

end Conformance.Regex
