import Conformance.Regex.Property
import Conformance.Regex.Syntax
import Conformance.Regex.Automaton.Shape
import Conformance.Text.Alphanumeric

/-!
The standard dialect of regular expressions.

The dialect of linear-time engines, with no back-references and no look-around. Where dialects
differ:

* a repetition operator needs an expression before it; flag switches such as `(?i)` and an
  empty branch are no such expression, but an assertion such as `^` is, so `^*` is valid;
* `{` always starts a counted repetition, and a malformed count is an error;
* repetitions nest: `a**` and `a+{0}` are valid;
* a group nests at most 250 levels deep, counting groups, repetitions, alternations,
  concatenations and classes;
* escapes of letters and digits are reserved, except the documented ones.
-/

set_option autoImplicit false

namespace Conformance.Regex.Standard

open Conformance.Text

/-- Parsing either gives a value or names the rule that was broken. -/
abbrev Result (α : Type) := Except String α

/-- One item of the branch being read: an expression with its normal form and its nesting
depth, or a flag switch, which no repetition may follow. -/
inductive Piece where
  | node (n : Node) (s : Shape) (depth : Nat)
  | flags

/-- The branches of the innermost open group: those already read, latest first, and the
items of the branch being read, latest first. -/
structure Ctx where
  alts : List (Node × Shape × Nat) := []
  items : List Piece := []

/-- What a group does with its body. -/
inductive GroupKind where
  | capture (index : Nat)
  | plain

/-- An open group: the enclosing context, the kind of group and the flags to restore. -/
structure Frame where
  outer : Ctx
  kind : GroupKind
  saved : Flags

/-- The parser's state between two steps. -/
structure State where
  ctx : Ctx := {}
  stack : List Frame := []
  flags : Flags := {}
  captures : Nat := 0
  names : List String := []

/-- The deepest nesting that the parser accepts. -/
def nestLimit : Nat := 250

/-- The branch being read, as an expression with its normal form and its nesting depth. -/
def Ctx.branch (c : Ctx) : Node × Shape × Nat :=
  let items := c.items.reverse
  let nodes := items.filterMap fun p => match p with
    | .node n s _ => some (n, s)
    | .flags => none
  let inner := (items.map fun p => match p with
    | .node _ _ d => d
    | .flags => 0).foldl max 0
  (Node.seq (nodes.map Prod.fst), Shape.seq (nodes.map Prod.snd),
    if items.length ≥ 2 then inner + 1 else inner)

/-- The whole group body: the alternation of its branches. -/
def Ctx.close (c : Ctx) : Node × Shape × Nat :=
  match (c.branch :: c.alts).reverse with
  | [b] => b
  | branches =>
    (Node.alts (branches.map Prod.fst), Shape.alts (branches.map (·.2.1)),
      (branches.map (·.2.2)).foldl max 0 + 1)

/-- Appends an expression without sub-expressions to the branch being read. -/
def State.push (st : State) (n : Node) (depth : Nat) : State :=
  { st with ctx := { st.ctx with items := .node n (Shape.ofAtom n) depth :: st.ctx.items } }

/-- Meta characters: escaping one gives the character itself. -/
def isMeta (c : Char) : Bool :=
  "\\.+*?()|[]{}^$#&-~".toList.contains c

/-- Characters that may be escaped to stand for themselves: meta characters and ASCII
characters other than letters, digits, `<` and `>`. -/
def isEscapable (c : Char) : Bool :=
  isMeta c || (c.toNat < 0x80 && !c.isAlphanum && c != '<' && c != '>')

mutual

/-- Skips white space and `#` comments, which the `x` flag makes insignificant. -/
def skipVerbose : List Char → List Char
  | [] => []
  | c :: rest =>
    if isWhiteSpace c then skipVerbose rest
    else if c = '#' then skipComment rest
    else c :: rest

/-- Skips the rest of a comment, up to and including its line feed. -/
def skipComment : List Char → List Char
  | [] => []
  | c :: rest => if c = '\n' then skipVerbose rest else skipComment rest

end

/-- Skips insignificant white space when the `x` flag is on. -/
def space (flags : Flags) (cs : List Char) : List Char :=
  if flags.verbose then skipVerbose cs else cs

/-- A character is valid in a group name: a letter or `_` first, then also digits, `.`,
`[` and `]`. -/
def isNameChar (c : Char) (first : Bool) : Bool :=
  if first then c = '_' || isAlphabetic c
  else c = '_' || c = '.' || c = '[' || c = ']' || isAlphanumeric c

/-- Reads a group name up to `>`. -/
def readName : List Char → List Char → Result (String × List Char)
  | [], _ => .error "unexpected end in group name"
  | '>' :: rest, acc =>
    if acc.isEmpty then .error "empty group name" else .ok (String.ofList acc.reverse, rest)
  | c :: rest, acc =>
    if isNameChar c acc.isEmpty then readName rest (c :: acc) else .error "invalid group name"

/-- Sets or clears the flag written as `c`. -/
def setFlag (flags : Flags) (c : Char) (on : Bool) : Option Flags :=
  match c with
  | 'i' => some { flags with caseless := on }
  | 'm' => some { flags with multiLine := on }
  | 's' => some { flags with dotAll := on }
  | 'U' => some { flags with swapGreed := on }
  | 'u' => some { flags with unicode := on }
  | 'R' => some { flags with crlf := on }
  | 'x' => some { flags with verbose := on }
  | _ => none

/-- Reads flag letters up to `:` or `)`, with at most one `-` and no flag twice. Gives the
new flags, the terminator, whether any flag or `-` was written, and the rest. -/
def readFlags : List Char → Flags → (seen : List Char) → (negated last : Bool) →
    Result (Flags × Char × Bool × List Char)
  | [], _, _, _, _ => .error "unexpected end in flags"
  | c :: rest, flags, seen, negated, last =>
    if c = ':' || c = ')' then
      if last then .error "dangling flag negation"
      else .ok (flags, c, negated || !seen.isEmpty, rest)
    else if c = '-' then
      if negated then .error "repeated flag negation"
      else readFlags rest flags seen true true
    else if seen.contains c then .error "duplicate flag"
    else match setFlag flags c !negated with
      | some f => readFlags rest f (c :: seen) negated false
      | none => .error "unrecognized flag"

/-- Reads a decimal number, skipping white space around it; in verbose mode white space and
comments may also stand between its digits. Gives `none` when there is no digit or the number
does not fit in 32 bits. -/
def readDecimal (flags : Flags) (cs : List Char) : Option Nat × List Char :=
  let cs := cs.dropWhile isWhiteSpace
  let rec digits : Nat → List Char → Nat → Nat → Nat × Nat × List Char
    | fuel + 1, c :: rest, value, count =>
      if c.isDigit then digits fuel (space flags rest) (value * 10 + (c.toNat - 48)) (count + 1)
      else (value, count, c :: rest)
    | _, cs, value, count => (value, count, cs)
  let (value, count, rest) := digits cs.length cs 0 0
  let rest := rest.dropWhile isWhiteSpace
  (if count = 0 || value ≥ 4294967296 then none else some value, rest)

/-- Reads hexadecimal digits up to `}`. -/
def readHexBrace : List Char → List Char → Result (List Char × List Char)
  | [], _ => .error "unexpected end in hexadecimal escape"
  | '}' :: rest, acc => .ok (acc.reverse, rest)
  | c :: rest, acc =>
    if c.isHexDigit then readHexBrace rest (c :: acc)
    else .error "invalid hexadecimal digit"

/-- The character with the given hexadecimal code, when it is a Unicode scalar value. -/
def hexChar? (ds : List Char) : Option Char :=
  let v := ds.foldl (fun acc d => acc * 16 + (if d.isDigit then d.toNat - 48
    else (d.toLower.toNat - 'a'.toNat + 10))) 0
  if v ≥ 4294967296 || v > 0x10FFFF || (0xD800 ≤ v && v ≤ 0xDFFF) then none
  else some (Char.ofNat v)

/-- Reads exactly `n` hexadecimal digits. -/
def readHexFixed : Nat → List Char → List Char → Result (List Char × List Char)
  | 0, cs, acc => .ok (acc.reverse, cs)
  | n + 1, c :: rest, acc =>
    if c.isHexDigit then
      readHexFixed n rest (c :: acc)
    else .error "invalid hexadecimal digit"
  | _ + 1, [], _ => .error "unexpected end in hexadecimal escape"

/-- Reads the code of `\x`, `\u` or `\U` (given by `kind`): a fixed number of digits, or any
number of digits in braces. -/
def readHex (kind : Char) (cs : List Char) : Result (Char × List Char) := do
  let (ds, rest) ← match cs with
    | [] => .error "unexpected end in hexadecimal escape"
    | '{' :: tl => do
      let (ds, rest) ← readHexBrace tl []
      if ds.isEmpty then .error "empty hexadecimal escape" else pure (ds, rest)
    | _ => readHexFixed (if kind = 'x' then 2 else if kind = 'u' then 4 else 8) cs []
  match hexChar? ds with
  | some c => pure (c, rest)
  | none => .error "hexadecimal escape is not a Unicode scalar value"

/-- What an escape stands for. -/
inductive Escape where
  | lit (c : Char)
  | cls (s : CharSet)
  | look (l : Look)

/-- Reads the name of a special word boundary `\b{...}` just after `{`; in verbose mode white
space and comments between its letters are left out. Gives `none` when the braces do not
start with a letter or `-`, so that they are a repetition. -/
def readBoundaryName (flags : Flags) (cs : List Char) : Result (Option (Look × List Char)) :=
  let valid := fun (c : Char) => c.isAlpha || c = '-'
  match cs with
  | [] => .error "unexpected end after \\b\x7b"
  | c :: _ =>
    if !valid c then .ok none
    else
      -- each step drops a character, so the length of the text is fuel enough
      let rec collect : Nat → List Char → List Char → List Char × List Char
        | 0, rest, acc => (acc.reverse, rest)
        | _ + 1, [], acc => (acc.reverse, [])
        | fuel + 1, d :: rest, acc =>
          if valid d then collect fuel (space flags rest) (d :: acc) else (acc.reverse, d :: rest)
      let (name, rest) := collect (cs.length + 1) cs []
      match rest with
      | '}' :: rest =>
        match String.ofList name with
        | "start" => .ok (some (.wordStart, rest))
        | "end" => .ok (some (.wordEnd, rest))
        | "start-half" => .ok (some (.wordStartHalf, rest))
        | "end-half" => .ok (some (.wordEndHalf, rest))
        | _ => .error "unrecognized special word boundary"
      | _ => .error "unclosed special word boundary"

/-- Reads the name of a property class up to `}`; in verbose mode white space and comments
are left out. Each step reads one character, so `fuel` above the length of the text is
enough. -/
def readPropertyName (flags : Flags) : Nat → List Char → List Char →
    Result (List Char × List Char)
  | 0, _, _ => .error "unclosed Unicode class"
  | _ + 1, [], _ => .error "unclosed Unicode class"
  | _ + 1, '}' :: rest, acc => .ok (acc.reverse, rest)
  | fuel + 1, c :: rest, acc => readPropertyName flags fuel (space flags rest) (c :: acc)

/-- Reads a property class just after `\p` (or `\P`, when `negated`): one character, or a
name in braces. Property classes need Unicode mode. -/
def readProperty (flags : Flags) (negated : Bool) (cs : List Char) :
    Result (Escape × List Char) := do
  if !flags.unicode then .error "Unicode classes need Unicode mode"
  let (q, flip, rest) ← match space flags cs with
    | [] => .error "unexpected end in Unicode class"
    | '{' :: tl => do
      let (text, rest) ← readPropertyName flags (tl.length + 1) (space flags tl) []
      let (q, flip) := Property.queryOf text
      pure (q, flip, rest)
    | '\\' :: _ => .error "invalid Unicode class"
    | c :: tl => pure (PropertyQuery.letter c, false, tl)
  match Property.classOf q (negated != flip) flags.caseless with
  | .ok s => pure (.cls s, rest)
  | .error e => .error e

/-- Reads an escape just after its backslash. -/
def readEscape (flags : Flags) : List Char → Result (Escape × List Char)
  | [] => .error "unexpected end after backslash"
  | c :: rest =>
    if c.isDigit then .error "back-references are not supported"
    else if c = 'x' || c = 'u' || c = 'U' then do
      let (ch, tail) ← readHex c rest
      -- without Unicode mode, `\xNN` is a byte, and a byte above 0x7F is not UTF-8
      if c = 'x' && rest.head? != some '{' && !flags.unicode && ch.toNat > 0x7F then
        .error "pattern can match invalid UTF-8"
      else pure (.lit ch, tail)
    else if c = 'p' || c = 'P' then readProperty flags (c == 'P') rest
    else if "dswDSW".toList.contains c then
      if c.isUpper && !flags.unicode then .error "pattern can match invalid UTF-8" else
      let s := perlClass c flags.unicode
      pure (.cls (if c.isUpper then s.complement else s), rest)
    else if isEscapable c then pure (.lit c, rest)
    else match c with
      | 'a' => pure (.lit '\x07', rest)
      | 'f' => pure (.lit '\x0c', rest)
      | 't' => pure (.lit '\t', rest)
      | 'n' => pure (.lit '\n', rest)
      | 'r' => pure (.lit '\r', rest)
      | 'v' => pure (.lit '\x0b', rest)
      | 'A' => pure (.look .textStart, rest)
      | 'z' => pure (.look .textEnd, rest)
      | 'B' =>
        pure (.look (if flags.unicode then .notWordBoundary else .asciiNotWordBoundary), rest)
      | '<' => pure (.look .wordStart, rest)
      | '>' => pure (.look .wordEnd, rest)
      | 'b' =>
        let plain : Look := if flags.unicode then .wordBoundary else .asciiWordBoundary
        match rest with
        | '{' :: tl => do
          match ← readBoundaryName flags (space flags tl) with
          | some (l, rest') => pure (.look l, rest')
          | none => pure (.look plain, rest)
        | _ => pure (.look plain, rest)
      | _ => .error "unrecognized escape"

/-- A class item before it is known whether it starts a range. Without Unicode mode a
literal item must be an ASCII character. -/
def readClassAtom (flags : Flags) (cs : List Char) : Result (Escape × List Char) := do
  let (e, rest) ← match cs with
    | '\\' :: rest => readEscape flags rest
    | c :: rest => .ok (.lit c, rest)
    | [] => .error "unclosed class"
  match e with
  | .lit c =>
    if !flags.unicode && c.toNat > 0x7F then .error "Unicode not allowed here" else pure (e, rest)
  | _ => pure (e, rest)

/-- Set operations inside a class, all of one precedence and grouped from the left. -/
inductive SetOp where
  | inter | diff | symm

/-- Applies a set operation. Under case folding both operands are folded first: by every
simple case variant in Unicode mode, and otherwise by the other case of ASCII letters only. -/
def SetOp.apply (op : SetOp) (flags : Flags) (a b : CharSet) : CharSet :=
  let fold := fun (s : CharSet) => if !flags.caseless then s
    else if flags.unicode then s.caseFold else s.asciiCaseFold
  let a := fold a
  let b := fold b
  match op with
  | .inter => a.inter b
  | .diff => a.diff b
  | .symm => a.symmDiff b

/-- The union of the items read so far, with its nesting depth. -/
def unionOf (items : List (CharSet × Nat)) : CharSet × Nat :=
  match items with
  | [] => (CharSet.none, 0)
  | [i] => i
  | _ => (items.foldl (fun acc i => acc.union i.1) CharSet.none,
          (items.map Prod.snd).foldl max 0 + 1)

/-- Reads `[:name:]` or `[:^name:]` just after `[`, inside a class. -/
def readAsciiClass (cs : List Char) : Option (CharSet × List Char) :=
  match cs with
  | ':' :: rest =>
    let (neg, rest) := match rest with
      | '^' :: t => (true, t)
      | t => (false, t)
    let name := rest.takeWhile (· != ':')
    match rest.drop name.length with
    | ':' :: ']' :: tail =>
      (asciiClass? (String.ofList name)).map fun s => (if neg then s.complement else s, tail)
    | _ => none
  | _ => none

/-- The set of a class item that is not a range. -/
def atomSet : Escape → Result CharSet
  | .lit c => .ok (CharSet.single c)
  | .cls s => .ok s
  | .look _ => .error "invalid escape in class"

mutual

/-- Reads a bracket class just after its `[`: an optional `^`, leading `-` and `]` taken
literally, then items up to the closing `]`. Gives the set (folded under `i`, then
complemented when negated) and its nesting depth. -/
def readBracket (flags : Flags) : Nat → List Char → Result (CharSet × Nat × List Char)
  | 0, _ => .error "class too long"
  | fuel + 1, cs => do
    let cs := space flags cs
    let (negated, cs) ← match cs with
      | [] => .error "unclosed class"
      | '^' :: rest => pure (true, space flags rest)
      | rest => pure (false, rest)
    let dashes := cs.takeWhile (· = '-')
    let cs := cs.drop dashes.length
    let lead : List (CharSet × Nat) := dashes.map fun _ => (CharSet.single '-', 0)
    let (lead, cs) ← match lead, cs with
      | [], ']' :: rest => pure ([(CharSet.single ']', 0)], rest)
      | _, [] => .error "unclosed class"
      | l, rest => pure (l, rest)
    let (set, depth, rest) ← readClassItems flags fuel cs lead.reverse none
    let set := if !flags.caseless then set
      else if flags.unicode then set.caseFold else set.asciiCaseFold
    let set := if negated then set.complement else set
    -- without Unicode mode a class is a set of bytes, which must stay within ASCII
    if !flags.unicode && !set.isAscii then .error "pattern can match invalid UTF-8"
    else pure (set, depth + 1, rest)

/-- Reads class items up to the closing `]`. `items` holds the current union, latest
first; `pending` the left operand of a set operation waiting for its right operand. -/
def readClassItems (flags : Flags) : Nat → List Char → List (CharSet × Nat) →
    Option (CharSet × Nat × SetOp) → Result (CharSet × Nat × List Char)
  | 0, _, _, _ => .error "class too long"
  | fuel + 1, cs, items, pending => do
    let cs := space flags cs
    let finish := fun (items : List (CharSet × Nat)) =>
      let (u, d) := unionOf items.reverse
      match pending with
      | none => (u, d)
      | some (l, ld, op) => (op.apply flags l u, Nat.max ld d + 1)
    match cs with
    | [] => .error "unclosed class"
    | ']' :: rest =>
      let (s, d) := finish items
      pure (s, d, rest)
    | '[' :: rest =>
      match readAsciiClass rest with
      | some (s, tail) => readClassItems flags fuel tail ((s, 0) :: items) pending
      | none => do
        let (s, d, tail) ← readBracket flags fuel rest
        readClassItems flags fuel tail ((s, d) :: items) pending
    | '&' :: '&' :: rest =>
      let (s, d) := finish items
      readClassItems flags fuel rest [] (some (s, d, .inter))
    | '-' :: '-' :: rest =>
      let (s, d) := finish items
      readClassItems flags fuel rest [] (some (s, d, .diff))
    | '~' :: '~' :: rest =>
      let (s, d) := finish items
      readClassItems flags fuel rest [] (some (s, d, .symm))
    | _ => do
      let (first, rest) ← readClassAtom flags cs
      let rest := space flags rest
      let next := (space flags (rest.drop 1)).head?
      match rest with
      | [] => .error "unclosed class"
      | '-' :: afterDash =>
        if next = some ']' || next = some '-' then do
          let s ← atomSet first
          readClassItems flags fuel rest ((s, 0) :: items) pending
        else do
          let afterDash := space flags afterDash
          if afterDash.isEmpty then .error "unclosed class" else
          let (second, tail) ← readClassAtom flags afterDash
          match first, second with
          | .lit a, .lit b =>
            if a ≤ b then
              readClassItems flags fuel tail ((CharSet.interval a b, 0) :: items) pending
            else .error "invalid class range"
          | _, _ => .error "class range bound is not a literal"
      | _ => do
        let s ← atomSet first
        readClassItems flags fuel rest ((s, 0) :: items) pending

end

/-- Reads what follows `(`: a group header, or a flag switch. Gives either new flags
(for a switch) or a new frame and the flags inside the group. -/
def openGroup (st : State) (cs : List Char) :
    Result (State × List Char) := do
  let cs := space st.flags cs
  match cs with
  | '?' :: '=' :: _ | '?' :: '!' :: _ | '?' :: '<' :: '=' :: _ | '?' :: '<' :: '!' :: _ =>
    .error "look-around is not supported"
  | '?' :: 'P' :: '<' :: rest | '?' :: '<' :: rest => do
    let index := st.captures + 1
    let (name, rest) ← readName rest []
    if st.names.contains name then .error "duplicate group name" else
    pure ({ st with
      stack := ⟨st.ctx, .capture index, st.flags⟩ :: st.stack
      ctx := {}
      captures := index
      names := name :: st.names }, rest)
  | '?' :: rest => do
    if rest.isEmpty then .error "unclosed group" else
    let (flags, term, written, rest) ← readFlags rest st.flags [] false false
    if term = ')' then
      if !written then .error "empty flag group" else
      pure ({ st with
        ctx := { st.ctx with items := .flags :: st.ctx.items }
        flags := flags }, rest)
    else
      pure ({ st with
        stack := ⟨st.ctx, .plain, st.flags⟩ :: st.stack
        ctx := {}
        flags := flags }, rest)
  | rest =>
    let index := st.captures + 1
    pure ({ st with
      stack := ⟨st.ctx, .capture index, st.flags⟩ :: st.stack
      ctx := {}
      captures := index }, rest)

/-- Closes the innermost group at `)`. -/
def closeGroup (st : State) : Result State :=
  match st.stack with
  | [] => .error "unopened group"
  | fr :: stack =>
    let (body, shape, d) := st.ctx.close
    let (node, shape) := match fr.kind with
      | .capture i => (Node.capture i body, Shape.capture i shape)
      | .plain => (body, shape)
    .ok { st with
      ctx := { fr.outer with items := .node node shape (d + 1) :: fr.outer.items }
      stack := stack
      flags := fr.saved }

/-- Applies a repetition to the last item of the branch. -/
def repeatLast (st : State) (min : Nat) (max : Option Nat) (lazy : Bool) : Result State :=
  match st.ctx.items with
  | .node n s d :: rest =>
    let greedy := if st.flags.swapGreed then lazy else !lazy
    let piece := Piece.node (.rep n min max greedy) (Shape.repetition s min max greedy) (d + 1)
    .ok { st with ctx := { st.ctx with items := piece :: rest } }
  | _ => .error "repetition operator missing expression"

/-- Reads a counted repetition just after `{`: `{n}`, `{n,}` or `{n,m}`, then an optional
`?` for laziness. -/
def readCount (flags : Flags) (cs : List Char) :
    Result (Nat × Option Nat × Bool × List Char) := do
  let cs := space flags cs
  if cs.isEmpty then .error "unclosed counted repetition" else
  let (lo, cs) := readDecimal flags cs
  let (lo, hi, cs) ← match cs with
    | [] => .error "unclosed counted repetition"
    | ',' :: rest =>
      let rest := space flags rest
      match rest with
      | [] => .error "unclosed counted repetition"
      | '}' :: _ => match lo with
        | some l => pure (l, none, rest)
        | none => .error "invalid repetition count"
      | _ =>
        let (hi, rest) := readDecimal flags rest
        match lo, hi with
        | some l, some h => pure (l, some h, rest)
        | _, _ => .error "invalid repetition count"
    | rest => match lo with
      | some l => pure (l, some l, rest)
      | none => .error "invalid repetition count"
  match cs with
  | '}' :: rest =>
    let rest := space flags rest
    let (lazy, rest) := match rest with
      | '?' :: t => (true, t)
      | t => (false, t)
    match hi with
    | some h => if lo ≤ h then pure (lo, hi, lazy, rest) else .error "invalid repetition range"
    | none => pure (lo, hi, lazy, rest)
  | _ => .error "unclosed counted repetition"

/-- A parsed pattern: its expression, its number of capture groups, and its normal form. -/
structure Parsed where
  node : Node
  groups : Nat
  shape : Shape

/-- The end of the pattern: every group must be closed and the nesting within the limit. -/
def finish (st : State) : Result Parsed :=
  if !st.stack.isEmpty then .error "unclosed group"
  else
    let (n, s, d) := st.ctx.close
    if d > nestLimit then .error "nesting limit exceeded" else .ok ⟨n, st.captures, s⟩

/-- The main loop: one token per step. -/
def run : Nat → List Char → State → Result Parsed
  | 0, _, _ => .error "pattern too long"
  | fuel + 1, cs, st =>
    match space st.flags cs with
    | [] => finish st
    | c :: rest =>
      match c with
      | '(' => do
        let (st, rest) ← openGroup st rest
        run fuel rest st
      | ')' => do run fuel rest (← closeGroup st)
      | '|' =>
        run fuel rest { st with ctx := { alts := st.ctx.branch :: st.ctx.alts, items := [] } }
      | '[' => do
        let (s, d, rest) ← readBracket st.flags (rest.length + 1) rest
        run fuel rest (st.push (.set s) d)
      | '?' | '*' | '+' => do
        let (min, max) := if c = '?' then (0, some 1) else if c = '*' then (0, none) else (1, none)
        let (lazy, rest) := match rest with
          | '?' :: t => (true, t)
          | t => (false, t)
        run fuel rest (← repeatLast st min max lazy)
      | '{' => do
        match st.ctx.items with
        | .node _ _ _ :: _ => do
          let (lo, hi, lazy, rest) ← readCount st.flags rest
          run fuel rest (← repeatLast st lo hi lazy)
        | _ => .error "repetition operator missing expression"
      | '\\' => do
        let (e, rest) ← readEscape st.flags rest
        let node := match e with
          | .lit ch => Node.literal st.flags ch
          | .cls s => Node.set s
          | .look l => Node.look l
        run fuel rest (st.push node 0)
      | '.' =>
        if !st.flags.unicode then .error "pattern can match invalid UTF-8"
        else run fuel rest (st.push (.set (Node.dotSet st.flags)) 0)
      | '^' => run fuel rest (st.push (Node.caret st.flags) 0)
      | '$' => run fuel rest (st.push (Node.dollar st.flags) 0)
      | _ => run fuel rest (st.push (Node.literal st.flags c) 0)

/-- Parses a pattern of the standard dialect. -/
def parse (pattern : String) : Result Parsed :=
  run (pattern.length + 1) pattern.toList {}

end Conformance.Regex.Standard
