import Conformance.Regex.Parse.Standard

/-!
The extended dialect of regular expressions.

This dialect adds back-references (`\1`, `\k<name>`, `\k<-1>`, `(?P=name)`), look-around, a
look-behind having a fixed width per branch, atomic groups, possessive repetition, conditionals
`(?(1)yes|no)` and comments `(?#…)`. Where it differs from the standard dialect:

* `{` that does not start a well-formed count `{n}`, `{n,}`, `{,m}` or `{n,m}` is a literal,
  and so is a `{` right after a repetition: `a{2}{0}` is `aa` followed by the text `{0}`; a
  count above `2^64 - 1` is not well-formed, and an upper bound of `2^64 - 1` is no bound;
* comments `(?#…)` may stand wherever white space may under the `x` flag: between an atom
  and its repetition, inside a count, after `(` and among flag letters;
* a repetition of nothing, of an assertion or of a look-around is an error, so `a**` and
  `^*` are errors;
* flags set by `(?i)` hold to the end of the pattern, not only to the end of the group;
* a numbered back-reference must name a group opened before it, and its number must be
  below half the length of the pattern; a pattern with numbered back-references may not
  name its groups;
* a bracket class is delimited by counting brackets and then read by the standard rules;
* white space under the `x` flag is only space, tab, carriage return and line feed;
* an escaped ASCII letter without a meaning is an error, and any other escaped character
  stands for itself and matches only itself, also under the `i` flag, as do the escapes of
  control characters; in a class, `\b` is a backspace and the letters of assertions stand
  for themselves.

An expression that needs no backtracking runs on the linear engine; in one that does, the parts
that need none are handed to it (see `Term.toBacktrackNode`).
-/

set_option autoImplicit false

namespace Conformance.Regex.Extended

open Conformance.Text

/-- Parsing either gives a value or names the rule that was broken. -/
abbrev Result (α : Type) := Except String α

/-- The parse tree of the extended dialect, before it becomes a `Node`. -/
inductive Term where
  | empty
  | lit (c : Char) (caseless : Bool)
  | any (newline : Bool)
  | look (l : Look)
  /-- A class, with the depth to which its text in the standard dialect nests. -/
  | cls (s : CharSet) (depth : Nat)
  | cat (parts : List Term)
  | alt (branches : List Term)
  | group (index : Nat) (body : Term)
  | rep (body : Term) (lo : Nat) (hi : Option Nat) (greedy : Bool)
  | backref (index : Nat)
  /-- Holds, matching nothing, when the group has matched. -/
  | defined (index : Nat)
  /-- Matches `test` once, committing to its first match, and then `yes`; only when `test`
  does not match, `no` instead. -/
  | cond (test yes no : Term)
  | around (ahead negated : Bool) (body : Term)
  | atomic (body : Term)
  | keepOut
deriving Inhabited

/-- The parser's state: flags in force, groups opened so far, group names, and whether a
numbered back-reference was read. -/
structure State where
  flags : Flags := {}
  groups : Nat := 0
  names : List (String × Nat) := []
  numbered : Bool := false

/-- The deepest nesting of groups that the parser accepts, plus one. -/
def recursionLimit : Nat := 64

mutual

/-- Skips comments `(?#…)` and, in verbose mode, white space (space, tab, carriage return
and line feed) and comments from `#` to the end of the line. A comment `(?#…)` that is not
closed is left in place. -/
def skipIgnored (verbose : Bool) : List Char → List Char
  | [] => []
  | '(' :: '?' :: '#' :: rest => skipComment verbose ('(' :: '?' :: '#' :: rest) rest
  | c :: rest =>
    if verbose && (c = ' ' || c = '\t' || c = '\r' || c = '\n') then skipIgnored verbose rest
    else if verbose && c = '#' then skipLineComment verbose rest
    else c :: rest

/-- Skips the rest of a comment `(?#…)` up to its `)`; a backslash hides the character after
it. When the text ends first, gives `start`, where the comment began. -/
def skipComment (verbose : Bool) (start : List Char) : List Char → List Char
  | [] => start
  | ')' :: rest => skipIgnored verbose rest
  | '\\' :: _ :: rest => skipComment verbose start rest
  | _ :: rest => skipComment verbose start rest

/-- Skips the rest of a line comment, up to and including its line feed. -/
def skipLineComment (verbose : Bool) : List Char → List Char
  | [] => []
  | c :: rest => if c = '\n' then skipIgnored verbose rest else skipLineComment verbose rest

end

/-- Skips what the parser ignores between tokens under the flags in force. -/
def ws (st : State) (cs : List Char) : List Char :=
  skipIgnored st.flags.verbose cs

/-- A repetition may apply to any term but nothing, an assertion, a test that a group has
matched, a look-around or `\K`. -/
def Term.repeatable : Term → Bool
  | .empty | .look _ | .defined _ | .around _ _ _ | .keepOut => false
  | _ => true

/-- Reads a run of ASCII digits as a number. -/
def readNumber (cs : List Char) : Option (Nat × List Char) :=
  let ds := cs.takeWhile Char.isDigit
  if ds.isEmpty then none
  else some (ds.foldl (fun acc d => acc * 10 + (d.toNat - 48)) 0, cs.drop ds.length)

/-- The largest count a repetition may give, `2^64 - 1`; as an upper bound it stands for no
bound at all. -/
def countMax : Nat := 18446744073709551615

/-- Reads a well-formed count just after `{`: `{n}`, `{n,}`, `{,m}`, `{n,m}` or `{,}`.
Gives the bounds and the rest after `}`, or `none` when the text is no count. A number above
`countMax` makes the text no count. -/
def readCount (st : State) (cs : List Char) : Option (Nat × Option Nat × List Char) := do
  let cs := ws st cs
  let (lo, cs) ← match cs with
    | ',' :: _ => some (0, cs)
    | _ => readNumber cs
  if lo > countMax then none
  let cs := ws st cs
  let (hi, cs) ← match cs with
    | '}' :: _ => some (some lo, cs)
    | ',' :: rest =>
      let rest := ws st rest
      match readNumber rest with
      | some (h, tail) =>
        if h > countMax then none
        else some (if h = countMax then none else some h, tail)
      | none => some (none, rest)
    | _ => none
  match ws st cs with
  | '}' :: rest => some (lo, hi, rest)
  | _ => none

/-- Reads a name made of letters, digits and `_`, followed by `close`; with `relative`, the
name may start with `-`. -/
def readId (cs : List Char) (close : Char) (relative : Bool) : Option (String × List Char) :=
  let (sign, cs) := match cs with
    | '-' :: rest => if relative then (['-'], rest) else ([], cs)
    | _ => ([], cs)
  let name := sign ++ cs.takeWhile fun c => isAlphanumeric c || c = '_'
  match cs.drop (name.length - sign.length) with
  | c :: rest => if c = close && !name.isEmpty then some (String.ofList name, rest) else none
  | [] => none

/-- Reads a whole decimal number, with an optional leading `-`. -/
def readSigned (s : String) : Option Int :=
  let digits := fun (ds : List Char) =>
    if !ds.isEmpty && ds.all Char.isDigit then (readNumber ds).map fun p => (p.1 : Int)
    else none
  match s.toList with
  | '-' :: ds => (digits ds).map (- ·)
  | ds => digits ds

/-- The group a back-reference by name names: a group of that name, else the group of
that number, or counting back from the last group opened when the number is negative. -/
def backrefTarget (st : State) (name : String) : Result Nat :=
  match st.names.find? (·.1 = name) with
  | some (_, index) => .ok index
  | none =>
    match readSigned name with
    | some n =>
      if n ≥ 0 then
        if n.toNat > st.groups then .error "invalid back-reference" else .ok n.toNat
      else if st.groups + 1 < n.natAbs then .error "invalid group name back-reference"
      else .ok (st.groups + 1 - n.natAbs)
    | none => .error "unknown group name"

/-- Reads exactly `n` hexadecimal digits, or one to eight digits in braces, and gives the
character with that code. -/
def readHex (n : Nat) (cs : List Char) : Result (Char × List Char) :=
  let fixed := cs.take n
  if fixed.length = n && fixed.all Char.isHexDigit then
    match Standard.hexChar? fixed with
    | some c => .ok (c, cs.drop n)
    | none => .error "invalid code point"
  else match cs with
    | '{' :: rest =>
      let ds := rest.takeWhile Char.isHexDigit
      match rest.drop ds.length with
      | '}' :: tail =>
        if ds.isEmpty || ds.length > 8 then .error "invalid hexadecimal escape"
        else match Standard.hexChar? ds with
          | some c => .ok (c, tail)
          | none => .error "invalid code point"
      | _ => .error "invalid hexadecimal escape"
    | _ => .error "invalid hexadecimal escape"

/-- What an escape stands for in the extended dialect. -/
inductive Escape where
  | term (t : Term)
  /-- A class written as an escape, with the depth to which it nests in the standard
  dialect; inside a bracket class it is spliced in as text. -/
  | cls (s : CharSet) (text : List Char) (depth : Nat)

/-- The escapes that stand for a control character. -/
def controlEscape? (c : Char) : Option Char :=
  match c with
  | 'a' => some '\x07'
  | 'f' => some '\x0c'
  | 't' => some '\t'
  | 'n' => some '\n'
  | 'r' => some '\r'
  | 'v' => some '\x0b'
  | 'e' => some '\x1b'
  | _ => none

/-- Reads an escape just after its backslash; `inClass` tells whether it stands inside a
bracket class, where assertions and back-references are not escapes. -/
def readEscape (st : State) (total : Nat) (inClass : Bool) (cs : List Char) :
    Result (State × Escape × List Char) :=
  match cs with
  | [] => .error "trailing backslash"
  | b :: rest =>
    let caseless := st.flags.caseless
    if b.isDigit then
      match readNumber cs with
      | some (n, tail) =>
        if n < total / 2 then
          if inClass then .error "back-reference in class"
          else if n > st.groups then .error "invalid back-reference"
          else .ok ({ st with numbered := true }, .term (.backref n), tail)
        else .error "invalid back-reference"
      | none => .error "invalid back-reference"
    else if b = 'k' && !inClass then
      let named := match rest with
        | '\'' :: tl => readId tl '\'' true
        | '<' :: tl => readId tl '>' true
        | _ => none
      match named with
      | some (name, tail) => do
        let index ← backrefTarget st name
        .ok (st, .term (.backref index), tail)
      | none => .error "invalid named back-reference"
    else if b = 'A' && !inClass then .ok (st, .term (.look .textStart), rest)
    else if b = 'z' && !inClass then .ok (st, .term (.look .textEnd), rest)
    else if (b = 'b' || b = 'B') && !inClass then
      if rest.head? = some '{' then .error "special word boundaries are not supported"
      else .ok (st, .term (.look (if b = 'b' then .wordBoundary else .notWordBoundary)), rest)
    else if b = '<' && !inClass then .ok (st, .term (.look .wordStart), rest)
    else if b = '>' && !inClass then .ok (st, .term (.look .wordEnd), rest)
    else if "dswDSW".toList.contains b then
      let s := perlClass b true
      .ok (st, .cls (if b.isUpper then s.complement else s) ['\\', b] (if caseless then 1 else 0),
        rest)
    else if b = 'h' || b = 'H' then
      let s := CharSet.ofRanges [(48, 57), (65, 70), (97, 102)]
      let text := if b = 'h' then "[0-9A-Fa-f]" else "[^0-9A-Fa-f]"
      .ok (st, .cls (if b = 'h' then s else s.complement) text.toList 2, rest)
    else if b = 'x' || b = 'u' || b = 'U' then do
      let (c, tail) ← readHex (if b = 'x' then 2 else if b = 'u' then 4 else 8) rest
      .ok (st, .term (.lit c caseless), tail)
    else if (b = 'p' || b = 'P') && !rest.isEmpty then
      let read : Result (PropertyQuery × Bool × List Char × List Char) := match rest with
        | '{' :: tl =>
          match tl.span (· != '}') with
          | (inner, '}' :: tail) =>
            let (q, flip) := Property.queryOf inner
            .ok (q, flip, '{' :: inner ++ ['}'], tail)
          | _ => .error "unclosed Unicode class name"
        | c :: tail => .ok (.letter c, false, [c], tail)
        | [] => .error "trailing backslash"
      match read with
      | .error e => .error e
      | .ok (q, flip, written, tail) =>
        match Property.classOf q ((b == 'P') != flip) caseless with
        | .ok s => .ok (st, .cls s ('\\' :: b :: written) (if caseless then 1 else 0), tail)
        | .error e => .error e
    else if b = 'K' && !inClass then .ok (st, .term .keepOut, rest)
    else if b = 'G' && !inClass then .ok (st, .term (.look .textStart), rest)
    else match controlEscape? b with
      | some c => .ok (st, .term (.lit c false), rest)
      | none =>
        if b = 'b' then .ok (st, .term (.lit '\x08' false), rest)
        -- a letter with no meaning is an error; in a class, the letters of assertions and
        -- back-references stand for themselves, like any other escaped character
        else if b.isAlpha && !"kAzbBKG".toList.contains b then .error "invalid escape"
        else .ok (st, .term (.lit b false), rest)

/-- Writes a character for the class reader, escaping the meta characters. -/
def quoteChar (c : Char) : List Char :=
  if Standard.isMeta c then ['\\', c] else [c]

/-- Collects the text of a bracket class just after `[`: up to the `]` that balances the
brackets, with escapes written out plainly. Gives the text from `[` on and the rest. -/
def scanClass (st : State) (total : Nat) (cs : List Char) :
    Result (State × List Char × List Char) :=
  let (neg, cs) := match cs with
    | '^' :: rest => (['^'], rest)
    | rest => ([], rest)
  let (close, cs) := match cs with
    | ']' :: rest => ([']'], rest)
    | rest => ([], rest)
  let rec go : Nat → State → Nat → List Char → List Char →
      Result (State × List Char × List Char)
    | 0, _, _, _, _ => .error "class too long"
    | _ + 1, _, _, _, [] => .error "unclosed class"
    | fuel + 1, st, nest, acc, '\\' :: rest =>
      match readEscape st total true rest with
      | .ok (st, .term (.lit c _), tail) => go fuel st nest (quoteChar c ++ acc) tail
      | .ok (st, .cls _ text _, tail) => go fuel st nest (text.reverse ++ acc) tail
      | .ok _ => .error "invalid escape in class"
      | .error e => .error e
    | fuel + 1, st, nest, acc, '[' :: rest => go fuel st (nest + 1) ('[' :: acc) rest
    | fuel + 1, st, nest, acc, ']' :: rest =>
      if nest = 0 then .ok (st, (']' :: acc).reverse, rest)
      else go fuel st (nest - 1) (']' :: acc) rest
    | fuel + 1, st, nest, acc, c :: rest => go fuel st nest (c :: acc) rest
  match go (cs.length + 1) st 0 [] cs with
  | .ok (st, body, rest) => .ok (st, '[' :: neg ++ close ++ body, rest)
  | .error e => .error e

/-- Reads a bracket class just after `[`. -/
def readClass (st : State) (total : Nat) (cs : List Char) :
    Result (State × Term × List Char) := do
  let (st, text, rest) ← scanClass st total cs
  let flags : Flags := { caseless := st.flags.caseless }
  let body := text.drop 1
  match Standard.readBracket flags (body.length + 1) body with
  | .ok (s, depth, []) => pure (st, .cls s (depth + if st.flags.caseless then 1 else 0), rest)
  | .ok _ => .error "class ends before its text"
  | .error e => .error e

/-- Sets or clears a flag letter; `u` may only be set. -/
def setFlag (flags : Flags) (c : Char) (on : Bool) : Option Flags :=
  match c with
  | 'i' => some { flags with caseless := on }
  | 'm' => some { flags with multiLine := on }
  | 's' => some { flags with dotAll := on }
  | 'U' => some { flags with swapGreed := on }
  | 'x' => some { flags with verbose := on }
  | 'u' => if on then some flags else none
  | _ => none

/-- How a group header ends. -/
inductive Header where
  /-- `(?flags)`: the flags change and the group is empty. -/
  | switch
  /-- `(?flags:`: a group without capture. -/
  | scoped (saved : Flags)

/-- Reads flag letters just after `(?`, up to `)` or `:`, skipping what the flags read so
far make the parser ignore. -/
def readFlags (st : State) (cs : List Char) : Result (State × Header × List Char) :=
  let saved := st.flags
  -- each round reads a character, so the length of the text bounds the rounds
  let rec go (flags : Flags) (neg : Bool) (count : Nat) :
      Nat → List Char → Result (Flags × Header × List Char)
    | 0, _ => .error "unclosed group"
    | fuel + 1, cs =>
      match skipIgnored flags.verbose cs with
      | [] => .error "unclosed group"
      | c :: rest =>
        if c = ')' then
          if count = 0 || (neg && count = 1) then .error "unknown flag"
          else .ok (flags, .switch, rest)
        else if c = ':' then
          if neg && count = 1 then .error "unknown flag" else .ok (flags, .scoped saved, rest)
        else if c = '-' then
          if neg then .error "unknown flag" else go flags true (count + 1) fuel rest
        else match setFlag flags c !neg with
          | some f => go f neg (count + 1) fuel rest
          | none => .error "unknown flag"
  match go st.flags false 0 (cs.length + 1) cs with
  | .ok (flags, h, rest) => .ok ({ st with flags }, h, rest)
  | .error e => .error e

/-- A conditional with the given test and body: the first branch of the body is taken when
the test matches, the others when it does not. With an empty body, the test alone. -/
def Term.conditional (test body : Term) : Term :=
  let (yes, no) := match body with
    | .alt [y, n] => (y, n)
    | .alt (y :: ns) => (y, Term.alt ns)
    | b => (b, Term.empty)
  match yes, no with
  | .empty, .empty => test
  | _, _ => .cond test yes no

mutual

/-- Reads alternatives separated by `|`. -/
def parseRe (total : Nat) :
    Nat → Nat → State → List Char → Result (State × Term × List Char)
  | 0, _, _, _ => .error "pattern too complex"
  | fuel + 1, depth, st, cs => do
    let (st, first, cs) ← parseBranch total fuel depth st cs
    match ws st cs with
    | '|' :: rest => parseAlts total fuel depth st rest [first]
    | cs =>
      if st.numbered && !st.names.isEmpty then .error "numbered back-references with named groups"
      else pure (st, first, cs)

/-- Reads further alternatives after a `|`. -/
def parseAlts (total : Nat) : Nat → Nat → State → List Char → List Term →
    Result (State × Term × List Char)
  | 0, _, _, _, _ => .error "pattern too complex"
  | fuel + 1, depth, st, cs, acc => do
    let (st, b, cs) ← parseBranch total fuel depth st cs
    match ws st cs with
    | '|' :: rest => parseAlts total fuel depth st rest (b :: acc)
    | cs => pure (st, .alt (b :: acc).reverse, cs)

/-- Reads pieces until `|`, `)` or the end; empty pieces are dropped. -/
def parseBranch (total : Nat) :
    Nat → Nat → State → List Char → Result (State × Term × List Char)
  | 0, _, _, _ => .error "pattern too complex"
  | fuel + 1, depth, st, cs => do
    let (st, parts, cs) ← parsePieces total fuel depth st cs []
    match parts with
    | [] => pure (st, .empty, cs)
    | [p] => pure (st, p, cs)
    | ps => pure (st, .cat ps, cs)

/-- Reads pieces while they make progress; `acc` holds the non-empty ones, latest first. -/
def parsePieces (total : Nat) : Nat → Nat → State → List Char → List Term →
    Result (State × List Term × List Char)
  | 0, _, _, _, _ => .error "pattern too complex"
  | fuel + 1, depth, st, cs, acc =>
    if cs.isEmpty then .ok (st, acc.reverse, cs) else do
    let (st, p, rest) ← parsePiece total fuel depth st cs
    if rest.length = cs.length then pure (st, acc.reverse, cs)
    else
      let acc := match p with
        | .empty => acc
        | _ => p :: acc
      parsePieces total fuel depth st rest acc

/-- Reads an atom and the repetition that follows it, if any. -/
def parsePiece (total : Nat) :
    Nat → Nat → State → List Char → Result (State × Term × List Char)
  | 0, _, _, _ => .error "pattern too complex"
  | fuel + 1, depth, st, cs => do
    let (st, atom, cs) ← parseAtom total fuel depth st cs
    let cs := ws st cs
    let op : Option (Nat × Option Nat × List Char) := match cs with
      | '?' :: rest => some (0, some 1, rest)
      | '*' :: rest => some (0, none, rest)
      | '+' :: rest => some (1, none, rest)
      | '{' :: rest => readCount st rest
      | _ => none
    match op with
    | none => pure (st, atom, cs)
    | some (lo, hi, rest) =>
      if !atom.repeatable then .error "target of repetition is not repeatable" else
      let rest := ws st rest
      let (lazy, rest) := match rest with
        | '?' :: t => (true, t)
        | t => (false, t)
      let greedy := if st.flags.swapGreed then lazy else !lazy
      let node := Term.rep atom lo hi greedy
      match rest with
      | '+' :: t => pure (st, .atomic node, t)
      | t => pure (st, node, t)

/-- Reads one atom; at a repetition operator, `|`, `)` or the end it reads nothing. -/
def parseAtom (total : Nat) :
    Nat → Nat → State → List Char → Result (State × Term × List Char)
  | 0, _, _, _ => .error "pattern too complex"
  | fuel + 1, depth, st, cs =>
    match ws st cs with
    | [] => .ok (st, .empty, [])
    | '.' :: rest => .ok (st, .any st.flags.dotAll, rest)
    | '^' :: rest => .ok (st, .look (if st.flags.multiLine then .lineStart else .textStart), rest)
    | '$' :: rest => .ok (st, .look (if st.flags.multiLine then .lineEnd else .textEnd), rest)
    | '(' :: rest => parseGroup total fuel depth st rest
    | '\\' :: rest => do
      let (st, e, tail) ← readEscape st total false rest
      match e with
      | .term t => pure (st, t, tail)
      | .cls s _ depth => pure (st, .cls (if st.flags.caseless then s.caseFold else s) depth, tail)
    | '[' :: rest => readClass st total rest
    | c :: rest =>
      if c = '+' || c = '*' || c = '?' || c = '|' || c = ')' then .ok (st, .empty, c :: rest)
      else .ok (st, .lit c st.flags.caseless, rest)

/-- Reads a group just after `(`, up to its `)`. -/
def parseGroup (total : Nat) :
    Nat → Nat → State → List Char → Result (State × Term × List Char)
  | 0, _, _, _ => .error "pattern too complex"
  | fuel + 1, depth, st, cs => do
    let depth := depth + 1
    if depth ≥ recursionLimit then .error "recursion limit exceeded" else
    let cs := ws st cs
    let close := fun (st : State) (body : Term) (cs : List Char) (wrap : Term → Term) =>
      match ws st cs with
      | ')' :: rest => Except.ok (st, wrap body, rest)
      | [] => .error "unclosed group"
      | _ => .error "expected close paren"
    match cs with
    | '?' :: '=' :: rest => do
      let (st, b, rest) ← parseRe total fuel depth st rest
      close st b rest (.around true false)
    | '?' :: '!' :: rest => do
      let (st, b, rest) ← parseRe total fuel depth st rest
      close st b rest (.around true true)
    | '?' :: '<' :: '=' :: rest => do
      let (st, b, rest) ← parseRe total fuel depth st rest
      close st b rest (.around false false)
    | '?' :: '<' :: '!' :: rest => do
      let (st, b, rest) ← parseRe total fuel depth st rest
      close st b rest (.around false true)
    | '?' :: '<' :: rest | '?' :: 'P' :: '<' :: rest =>
      let index := st.groups + 1
      match readId rest '>' false with
      | none => .error "invalid group name"
      | some (name, rest) => do
        let st := { st with groups := index, names := (name, index) :: st.names }
        let (st, b, rest) ← parseRe total fuel depth st rest
        close st b rest (.group index)
    | '?' :: 'P' :: '=' :: rest =>
      match readId rest ')' false with
      | some (name, tail) => do
        let index ← backrefTarget st name
        .ok (st, .backref index, tail)
      | none => .error "invalid named back-reference"
    | '?' :: '#' :: _ => .error "unclosed comment"
    | '?' :: '>' :: rest => do
      let (st, b, rest) ← parseRe total fuel depth st rest
      close st b rest .atomic
    | '?' :: '(' :: rest => do
      let (st, test, rest) ← parseTest total fuel depth st rest
      let (st, b, rest) ← parseRe total fuel depth st rest
      close st b rest (Term.conditional test)
    | '?' :: rest => do
      let (st, header, rest) ← readFlags st rest
      match header with
      | .switch => pure (st, .empty, rest)
      | .scoped saved => do
        let (st, b, rest) ← parseRe total fuel depth st rest
        match rest with
        | ')' :: tail => pure ({ st with flags := saved }, b, tail)
        | [] => .error "unclosed group"
        | _ => .error "expected close paren"
    | rest => do
      let index := st.groups + 1
      let (st, b, rest) ← parseRe total fuel depth { st with groups := index } rest
      close st b rest (.group index)

/-- Reads the test of a conditional just after `(?(`, up to and including its `)`: a group
named `<name>` or `'name'`, a group number (or one counted back from the last group opened,
with `-`), or else an expression. -/
def parseTest (total : Nat) :
    Nat → Nat → State → List Char → Result (State × Term × List Char)
  | 0, _, _, _ => .error "pattern too complex"
  | fuel + 1, depth, st, cs =>
    let named := fun (read : Option (String × List Char)) (closed : Bool) =>
      match read with
      | none => Except.error "invalid group name"
      | some (name, rest) => do
        let index ← backrefTarget st name
        if closed then pure (st, Term.defined index, rest)
        else match rest with
          | ')' :: tail => pure (st, Term.defined index, tail)
          | [] => .error "unclosed group"
          | _ => .error "expected close paren"
    match cs with
    | '\'' :: rest => named (readId rest '\'' true) false
    | '<' :: rest => named (readId rest '>' true) false
    | c :: _ =>
      if c = '+' || c = '-' || c.isDigit then named (readId cs ')' true) true
      else do
        let (st, t, rest) ← parseRe total fuel depth st cs
        match rest with
        | ')' :: tail => pure (st, t, tail)
        | [] => .error "unclosed group"
        | _ => .error "expected close paren"
    | [] => .error "unclosed group"

end

/-- Whether an assertion looks at word characters; the backtracking matcher checks these
itself. -/
def wordLook : Look → Bool
  | .wordBoundary | .notWordBoundary | .wordStart | .wordEnd => true
  | _ => false

/-- Whether a term needs the backtracking matcher: it holds a back-reference, a conditional,
a look-around, an atomic group, `\K` or a word boundary. A group that a back-reference names
needs nothing more than its body does: it is matched like any other, and the back-reference
reads what it recorded. -/
def Term.hard : Term → Bool
  | .cat ps => hardAny ps
  | .alt bs => hardAny bs
  | .group _ b => b.hard
  | .rep b _ _ _ => b.hard
  | .look l => wordLook l
  | .backref _ | .defined _ | .cond _ _ _ | .around _ _ _ | .atomic _ | .keepOut => true
  | _ => false
where
  /-- Whether any term of the list needs the backtracking matcher. -/
  hardAny : List Term → Bool
    | [] => false
    | t :: ts => t.hard || hardAny ts

/-- Whether a term is the empty term. -/
def Term.isEmpty : Term → Bool
  | .empty => true
  | _ => false

/-- The number of characters every match of a term has, when that number is fixed. A
conditional matches its test and then its first branch, or its second branch alone, so its
width is fixed when those two paths have the same fixed width. -/
def Term.width? : Term → Option Nat
  | .empty | .look _ | .defined _ | .around _ _ _ | .keepOut => some 0
  | .lit _ _ | .any _ | .cls _ _ => some 1
  | .cat ps => sumAll ps
  | .alt bs => sameAll bs
  | .group _ b | .atomic b => b.width?
  | .cond t y n => match t.width?, y.width?, n.width? with
    | some a, some b, some c => if a + b = c then some c else none
    | _, _, _ => none
  | .rep b lo hi _ => match b.width?, hi with
    | some w, some h => if lo = h then some (w * lo) else none
    | _, _ => none
  | .backref _ => none
where
  /-- The total width of a list of terms, when each has a fixed width. -/
  sumAll : List Term → Option Nat
    | [] => some 0
    | t :: ts => match t.width?, sumAll ts with
      | some a, some b => some (a + b)
      | _, _ => none
  /-- The common width of a list of terms, when they all have the same fixed width. -/
  sameAll : List Term → Option Nat
    | [] => some 0
    | [t] => t.width?
    | t :: ts => match t.width?, sameAll ts with
      | some a, some b => if a = b then some a else none
      | _, _ => none

/-- The look-behind of an alternation whose branches have fixed widths, each branch with its
width: it holds when one branch matches just before the position and, negated, when none
does. -/
def behindBranches (negated : Bool) (parts : List (Nat × Node)) : Node :=
  let looks := parts.map fun (w, n) => Node.lookbehind negated w n
  if negated then Node.seq looks else Node.alts looks

mutual

/-- The expression of a term. -/
def Term.toNode : Term → Result Node
  | .empty => .ok .empty
  | .lit c caseless => .ok (Node.literal { caseless } c)
  | .any newline => .ok (.set (Node.dotSet { dotAll := newline }))
  | .look l => .ok (.look l)
  | .cls s _ => .ok (.set s)
  | .cat ps => do pure (Node.seq (← Term.toNodes ps))
  | .alt bs => do pure (Node.alts (← Term.toNodes bs))
  | .group i b => do pure (.capture i (← b.toNode))
  | .rep b lo hi greedy => do
    match hi with
    | some h => if h < lo then throw "invalid repetition range" else pure ()
    | none => pure ()
    pure (.rep (← b.toNode) lo hi greedy)
  | .backref i => .ok (.backref i)
  | .defined i => .ok (.defined i)
  | .cond t y n => do pure (Node.conditional (← t.toNode) (← y.toNode) (← n.toNode))
  | .around ahead negated b => do
    let body ← b.toNode
    if ahead then pure (.lookahead negated body)
    else match body.width?, b with
      | some w, _ => pure (.lookbehind negated w body)
      | none, .alt bs =>
        match bs.mapM Term.width? with
        | some ws => do pure (behindBranches negated (ws.zip (← Term.toNodes bs)))
        | none => throw "look-behind of variable width"
      | none, _ => throw "look-behind of variable width"
  | .atomic b => do pure (.atomic (← b.toNode))
  | .keepOut => .ok .empty

/-- The expressions of a list of terms. -/
def Term.toNodes : List Term → Result (List Node)
  | [] => .ok []
  | t :: ts => do pure ((← t.toNode) :: (← Term.toNodes ts))

end

/-- A term needs no backtracking and has a fixed width. -/
def Term.settled (t : Term) : Bool := t.width?.isSome && !t.hard

/-- Matches a run of terms that need no backtracking once, committing to the first way
they match, as the linear engine finds it on its own. -/
def committed (nodes : List Node) : Node :=
  match nodes with
  | [] => .empty
  | _ => .commit (Node.seq nodes)

/-- How a concatenation splits for the backtracking matcher: the length of its head of
settled terms, and the length of its tail that is matched once. When nothing after the
concatenation can backtrack into it (`hard` is false), the tail is everything after its last
term that needs backtracking; otherwise it is its final run of settled terms. -/
def catSplit (hard : Bool) (ps : List Term) : Nat × Nat :=
  let head := (ps.takeWhile Term.settled).length
  let rest := (ps.drop head).reverse
  let tail := if hard then (rest.takeWhile Term.settled).length
    else (rest.takeWhile fun t => !t.hard).length
  (head, tail)

mutual

/-- The expression of a term for the backtracking matcher. `hard` tells whether what follows
the term may backtrack into it; a part that needs no backtracking and that nothing backtracks
into is matched once, committing to its first match. Look-around and atomic bodies are such
contexts. A repetition the backtracking matcher runs itself counts its passes up to the upper
bound, so `x{3,2}` is `x{2}` there, while the linear engine rejects it. -/
def Term.toBacktrackNode (hard : Bool) (t : Term) : Result Node :=
  if !hard && !t.hard then do pure (committed [← t.toNode])
  else match t with
  | .cat ps => do
    let (head, tail) := catSplit hard ps
    let first ← Term.toNodes (ps.take head)
    let last ← Term.toNodes (ps.drop (ps.length - tail))
    let full ← Term.toBacktrackNodes true ps
    let middle := (full.drop head).take (ps.length - head - tail)
    pure (Node.seq ([committed first] ++ middle ++ [committed last]))
  | .alt bs => do pure (Node.alts (← Term.toBacktrackNodes hard bs))
  | .group i b => do pure (.capture i (← b.toBacktrackNode hard))
  | .rep b lo hi greedy => do
    -- an optional body keeps the incoming context, other repetitions backtrack into it
    let inner := if lo = 0 && hi = some 1 then hard else true
    -- the count of passes stops at the upper bound, also below a greater lower bound
    let lo := match hi with
      | some h => Nat.min lo h
      | none => lo
    pure (.rep (← b.toBacktrackNode inner) lo hi greedy)
  | .around ahead negated b => do
    let body ← b.toBacktrackNode false
    if ahead then pure (.lookahead negated body)
    else match b.width?, b with
      | some w, _ => pure (.lookbehind negated w body)
      | none, .alt bs =>
        match bs.mapM Term.width? with
        | some ws => do
          pure (behindBranches negated (ws.zip (← Term.toBacktrackNodes false bs)))
        | none => throw "look-behind of variable width"
      | none, _ => throw "look-behind of variable width"
  | .atomic b => do pure (.atomic (← b.toBacktrackNode false))
  | .cond t y n => do
    pure (Node.conditional (← t.toBacktrackNode hard) (← y.toBacktrackNode hard)
      (← n.toBacktrackNode hard))
  | t => t.toNode

/-- The expressions of a list of terms for the backtracking matcher, in one context. -/
def Term.toBacktrackNodes (hard : Bool) : List Term → Result (List Node)
  | [] => .ok []
  | t :: ts => do pure ((← t.toBacktrackNode hard) :: (← Term.toBacktrackNodes hard ts))

end

/-- A parsed pattern of the extended dialect. -/
structure Parsed where
  /-- The parse tree, with the groups that back-references name marked. -/
  term : Term
  /-- The expression to run. -/
  node : Node
  /-- The number of capture groups. -/
  groups : Nat
  /-- Whether the expression needs the backtracking matcher. -/
  hard : Bool

/-- Parses a pattern of the extended dialect. -/
def parse (pattern : String) : Result Parsed := do
  let cs := pattern.toList
  let total := pattern.utf8ByteSize
  let (st, term, rest) ← parseRe total (8 * cs.length + 16) 0 {} cs
  if !rest.isEmpty then throw "end of pattern not reached"
  let hard := term.hard
  let node ← if hard then term.toBacktrackNode true else term.toNode
  pure ⟨term, node, st.groups, hard⟩

end Conformance.Regex.Extended
