import Conformance.Config.Value

/-!
Reading JSON text into configuration values.

The reader follows the JSON grammar: objects, arrays, strings with their escapes (a pair
of `\u` escapes forming a surrogate pair stands for one character), numbers, `true`,
`false` and `null`, separated by optional white space. A number is kept as an integer when
it has neither fraction nor exponent and fits in 64 bits; otherwise it becomes a binary64
number, read as `Binary64.ofParts` describes. A later duplicate key replaces an earlier one.
Arrays and objects nest at most 127 deep.

Errors give a line and a column, the column counting UTF-8 bytes from the start of the line.
Some errors stand after the last character read (`Cursor.fail`), others after the character
that could not be used (`Cursor.failNext`); at the end of the text both are its length.
-/

set_option autoImplicit false

namespace Conformance.Config

/-- Where the reader stands: the characters left, the line, and how many bytes of that line
have been read. -/
structure Cursor where
  rest : List Char
  line : Nat := 1
  column : Nat := 0

namespace Cursor

/-- Steps over one character; the column grows by the length of its UTF-8 encoding. -/
def advance (c : Cursor) : Cursor :=
  match c.rest with
  | '\n' :: more => { rest := more, line := c.line + 1, column := 0 }
  | ch :: more => { c with rest := more, column := c.column + ch.utf8Size }
  | [] => c

/-- Steps over every character left. -/
def toEnd (c : Cursor) : Cursor := c.rest.foldl (fun d _ => d.advance) c

/-- Steps over `n` bytes; a character cut by the boundary adds only its bytes before it, and
the characters left are then no longer in step with the position. -/
def skipBytes (n : Nat) (c : Cursor) : Cursor := go n n c
where
  /-- Steps over `left` bytes, at most `fuel` characters. -/
  go : Nat → Nat → Cursor → Cursor
    | 0, _, c => c
    | fuel + 1, left, c =>
      match c.rest with
      | ch :: _ =>
        if left = 0 then c
        else if ch.utf8Size ≤ left then go fuel (left - ch.utf8Size) c.advance
        else { c with column := c.column + left }
      | [] => c

/-- Steps over white space. -/
def skipSpace (c : Cursor) : Cursor :=
  go c.rest.length c
where
  /-- Steps over at most `n` characters of white space. -/
  go : Nat → Cursor → Cursor
    | 0, c => c
    | n + 1, c =>
      match c.rest with
      | ' ' :: _ | '\t' :: _ | '\n' :: _ | '\r' :: _ => go n c.advance
      | _ => c

/-- An error after the last character read. -/
def fail {α : Type} (c : Cursor) (what : String) : Except String α :=
  .error (what ++ " at line " ++ toString c.line ++ " column " ++ toString c.column)

/-- An error after the next character, the one that could not be used; at the end of the
text, at its end. -/
def failNext {α : Type} (c : Cursor) (what : String) : Except String α := c.advance.fail what

end Cursor

/-- The value of a hexadecimal digit. -/
def hexValue (c : Char) : Option Nat :=
  if c.isDigit then some (c.toNat - 48)
  else if 'a' ≤ c && c ≤ 'f' then some (c.toNat - 87)
  else if 'A' ≤ c && c ≤ 'F' then some (c.toNat - 55)
  else none

/-- The number of bytes the UTF-8 encoding of some characters takes. -/
def byteLength (cs : List Char) : Nat := cs.foldl (fun n ch => n + ch.utf8Size) 0

/-- Reads the four bytes of a `\u` escape. With fewer than four bytes left the text ends
inside the string; four bytes that are not all hexadecimal digits are an invalid escape,
reported after them. -/
def readHex4 (c : Cursor) : Except String (Nat × Cursor) :=
  let invalid : Except String (Nat × Cursor) :=
    if byteLength c.rest < 4 then c.toEnd.fail "EOF while parsing a string"
    else (c.skipBytes 4).fail "invalid escape"
  match c.rest with
  | a :: b :: d :: e :: _ =>
    match hexValue a, hexValue b, hexValue d, hexValue e with
    | some w, some x, some y, some z =>
      .ok (((w * 16 + x) * 16 + y) * 16 + z, c.advance.advance.advance.advance)
    | _, _, _, _ => invalid
  | _ => invalid

/-- Whether a code unit is a leading surrogate. -/
def isLeadingSurrogate (n : Nat) : Bool := 0xD800 ≤ n && n < 0xDC00

/-- Whether a code unit is a trailing surrogate. -/
def isTrailingSurrogate (n : Nat) : Bool := 0xDC00 ≤ n && n < 0xE000

/-- Reads what follows `\u`: one escape, or a leading surrogate and the `\u` escape of its
trailing surrogate. A surrogate that is not part of such a pair is an error; a trailing one
alone is reported under the same name as a leading one. -/
def readUnicode (c : Cursor) : Except String (Char × Cursor) := do
  let (hi, c) ← readHex4 c
  if isTrailingSurrogate hi then c.fail "lone leading surrogate in hex escape"
  else if !isLeadingSurrogate hi then pure (Char.ofNat hi, c)
  else
    match c.rest with
    | [] => c.fail "EOF while parsing a string"
    | '\\' :: _ =>
      let c := c.advance
      match c.rest with
      | [] => c.fail "EOF while parsing a string"
      | 'u' :: _ =>
        let (lo, c) ← readHex4 c.advance
        if isTrailingSurrogate lo then
          pure (Char.ofNat (0x10000 + (hi - 0xD800) * 0x400 + (lo - 0xDC00)), c)
        else c.fail "lone leading surrogate in hex escape"
      | _ => c.failNext "unexpected end of hex escape"
    | _ => c.failNext "unexpected end of hex escape"

/-- Reads the rest of a string after its opening quote; `acc` holds the characters read,
latest first. -/
def readString : Nat → Cursor → List Char → Except String (String × Cursor)
  | 0, c, _ => c.toEnd.fail "EOF while parsing a string"
  | fuel + 1, c, acc =>
    match c.rest with
    | [] => c.fail "EOF while parsing a string"
    | '"' :: _ => .ok (String.ofList acc.reverse, c.advance)
    | '\\' :: _ =>
      let c := c.advance
      match c.rest with
      | [] => c.fail "EOF while parsing a string"
      | e :: _ =>
        let c' := c.advance
        let simple := fun (ch : Char) => readString fuel c' (ch :: acc)
        match e with
        | '"' => simple '"'
        | '\\' => simple '\\'
        | '/' => simple '/'
        | 'b' => simple '\x08'
        | 'f' => simple '\x0c'
        | 'n' => simple '\n'
        | 'r' => simple '\r'
        | 't' => simple '\t'
        | 'u' => do
          let (ch, c'') ← readUnicode c'
          readString fuel c'' (ch :: acc)
        | _ => c'.fail "invalid escape"
    | ch :: _ =>
      if ch.toNat < 0x20 then
        c.failNext "control character (\\u0000-\\u001F) found while parsing a string"
      else readString fuel c.advance (ch :: acc)

/-- Reads a run of ASCII digits. -/
def readDigits (c : Cursor) : List Char × Cursor :=
  let ds := c.rest.takeWhile Char.isDigit
  (ds, ds.foldl (fun c _ => c.advance) c)

/-- The value of an ASCII digit. -/
def digitValue (d : Char) : Nat := d.toNat - 48

/-- The bounds of a decimal exponent, a 32-bit signed number. -/
def exponentMax : Int := 2147483647

/-- The least decimal exponent. -/
def exponentMin : Int := -2147483648

/-- An exponent held within the 32-bit bounds. -/
def clampExponent (e : Int) : Int := max exponentMin (min exponentMax e)

/-- Appends digits to the accumulator while it stays within 64 bits, at most `fuel` of
them; gives the accumulator, how many digits were taken and the cursor after them. -/
def accumulate : Nat → Nat → Nat → Cursor → Nat × Nat × Cursor
  | 0, acc, k, c => (acc, k, c)
  | fuel + 1, acc, k, c =>
    match c.rest with
    | d :: _ =>
      if d.isDigit && acc * 10 + digitValue d ≤ accumulatorMax then
        accumulate fuel (acc * 10 + digitValue d) (k + 1) c.advance
      else (acc, k, c)
    | [] => (acc, k, c)

/-- Reads exponent digits while the exponent stays within 32 bits, at most `fuel` of them.
The first digit that would carry it past is read too, and reported: the result is the
exponent, the cursor, and whether it overflowed. -/
def readExponentDigits : Nat → Nat → Cursor → Nat × Cursor × Bool
  | 0, e, c => (e, c, false)
  | fuel + 1, e, c =>
    match c.rest with
    | d :: _ =>
      if d.isDigit then
        if e * 10 + digitValue d > exponentMax.toNat then (e, c.advance, true)
        else readExponentDigits fuel (e * 10 + digitValue d) c.advance
      else (e, c, false)
    | [] => (e, c, false)

/-- The number an accumulator and a decimal exponent stand for, or the error of a number
out of range, reported after the number. -/
def scaled (c : Cursor) (negative : Bool) (acc : Nat) (exponent : Int) :
    Except String Value :=
  match Binary64.ofParts negative acc exponent with
  | some x => .ok (.float x)
  | none => c.fail "number out of range"

/-- Reads an exponent after `e` or `E`, adding it to `start`, and scales the accumulator. An
exponent too large for 32 bits makes the number zero, or out of range, reported at the digit
that overflowed, when it is positive and the accumulator is not zero. -/
def readExponent (c : Cursor) (negative : Bool) (acc : Nat) (start : Int) :
    Except String (Value × Cursor) := do
  let c := c.advance
  let (negExp, c) := match c.rest with
    | '+' :: _ => (false, c.advance)
    | '-' :: _ => (true, c.advance)
    | _ => (false, c)
  match c.rest with
  | [] => c.fail "EOF while parsing a value"
  | d :: _ =>
    if !d.isDigit then c.failNext "invalid number"
    else
      let (e, after, overflowed) := readExponentDigits c.rest.length 0 c
      if overflowed then
        if acc != 0 && !negExp then after.fail "number out of range"
        else pure (.float (.finite negative 0 Binary64.minExponent), (readDigits after).2)
      else
        let total := clampExponent (if negExp then start - e else start + e)
        pure (← scaled after negative acc total, after)

/-- Reads the fraction after `.`, and an exponent after it, and scales the accumulator.
Fraction digits join the accumulator while it stays within 64 bits; the rest are dropped. -/
def readFraction (c : Cursor) (negative : Bool) (acc : Nat) (start : Int) :
    Except String (Value × Cursor) := do
  let c := c.advance
  match c.rest with
  | d :: _ =>
    if !d.isDigit then c.failNext "invalid number"
    else
      let (acc, taken, c) := accumulate c.rest.length acc 0 c
      let (_, c) := readDigits c
      let exponent := clampExponent (start - taken)
      match c.rest with
      | 'e' :: _ | 'E' :: _ => readExponent c negative acc exponent
      | _ => pure (← scaled c negative acc exponent, c)
  | [] => c.fail "EOF while parsing a value"

/-- Reads a number. The integer digits go into a 64-bit accumulator; once it is full, the
remaining integer digits only raise the decimal exponent. A number with neither fraction nor
exponent whose digits all fit is an integer, unless it is `-0` or below `-2^63`. -/
def readNumber (c : Cursor) : Except String (Value × Cursor) := do
  let (negative, c) := match c.rest with
    | '-' :: _ => (true, c.advance)
    | _ => (false, c)
  let (acc, dropped, c) ← match c.rest with
    | '0' :: d :: _ =>
      if d.isDigit then c.advance.failNext "invalid number" else pure (0, 0, c.advance)
    | '0' :: [] => pure (0, 0, c.advance)
    | d :: _ =>
      if d.isDigit then
        let (acc, _, c) := accumulate c.rest.length 0 0 c
        let (more, c) := readDigits c
        pure (acc, more.length, c)
      else c.failNext "invalid number"
    | [] => c.fail "EOF while parsing a value"
  match c.rest with
  | '.' :: _ => readFraction c negative acc dropped
  | 'e' :: _ | 'E' :: _ => readExponent c negative acc dropped
  | _ =>
    if dropped > 0 then pure (← scaled c negative acc dropped, c)
    else if !negative then pure (.int acc, c)
    else if acc = 0 || acc > 9223372036854775808 then
      pure (.float (Binary64.ofNat acc |>.negateIf true), c)
    else pure (.int (-(acc : Int)), c)

/-- Reads the letters of a word after its first one. -/
def readWord (c : Cursor) : List Char → Except String Cursor
  | [] => .ok c
  | w :: ws =>
    match c.rest with
    | [] => c.fail "EOF while parsing a value"
    | ch :: _ => if ch == w then readWord c.advance ws else c.failNext "expected ident"

/-- The most arrays and objects that may be open at once, plus one. -/
def nestingLimit : Nat := 128

mutual

/-- Reads one value; `depth` is how many more arrays and objects may open, plus one. -/
def readValue : Nat → Nat → Cursor → Except String (Value × Cursor)
  | 0, _, c => c.fail "recursion limit exceeded"
  | fuel + 1, depth, c =>
    let c := c.skipSpace
    match c.rest with
    | '{' :: _ =>
      if depth ≤ 1 then c.failNext "recursion limit exceeded"
      else readMembers fuel (depth - 1) c.advance [] true
    | '[' :: _ =>
      if depth ≤ 1 then c.failNext "recursion limit exceeded"
      else readElements fuel (depth - 1) c.advance [] true
    | '"' :: _ => do
      let (s, c) ← readString (c.rest.length + 1) c.advance []
      pure (.str s, c)
    | 't' :: _ => do pure (.bool true, ← readWord c.advance "rue".toList)
    | 'f' :: _ => do pure (.bool false, ← readWord c.advance "alse".toList)
    | 'n' :: _ => do pure (.null, ← readWord c.advance "ull".toList)
    | ch :: _ =>
      if ch == '-' || ch.isDigit then readNumber c
      else c.failNext "expected value"
    | [] => c.fail "EOF while parsing a value"

/-- Reads what follows in an array after `[` or an element; `acc` holds the elements read,
latest first, and `first` tells whether none has been read. -/
def readElements : Nat → Nat → Cursor → List Value → Bool → Except String (Value × Cursor)
  | 0, _, c, _, _ => c.fail "recursion limit exceeded"
  | fuel + 1, depth, c, acc, first =>
    let c := c.skipSpace
    match c.rest with
    | [] => c.fail "EOF while parsing a list"
    | ']' :: _ => .ok (.arr acc.reverse, c.advance)
    | ',' :: _ =>
      if first then readElement fuel depth c acc
      else
        let c := c.advance.skipSpace
        match c.rest with
        | ']' :: _ => c.failNext "trailing comma"
        | [] => c.fail "EOF while parsing a value"
        | _ => readElement fuel depth c acc
    | _ =>
      if first then readElement fuel depth c acc else c.failNext "expected `,` or `]`"

/-- Reads one element of an array and what follows it. -/
def readElement : Nat → Nat → Cursor → List Value → Except String (Value × Cursor)
  | 0, _, c, _ => c.fail "recursion limit exceeded"
  | fuel + 1, depth, c, acc => do
    let (v, c) ← readValue fuel depth c
    readElements fuel depth c (v :: acc) false

/-- Reads what follows in an object after `{` or a member; `acc` holds the members read,
latest first, and `first` tells whether none has been read. -/
def readMembers : Nat → Nat → Cursor → List (String × Value) → Bool →
    Except String (Value × Cursor)
  | 0, _, c, _, _ => c.fail "recursion limit exceeded"
  | fuel + 1, depth, c, acc, first =>
    let c := c.skipSpace
    match c.rest with
    | [] => c.fail "EOF while parsing an object"
    | '}' :: _ => .ok (.obj acc.reverse, c.advance)
    | ',' :: _ =>
      if first then c.failNext "key must be a string"
      else
        let c := c.advance.skipSpace
        match c.rest with
        | '"' :: _ => readMember fuel depth c acc
        | '}' :: _ => c.failNext "trailing comma"
        | [] => c.fail "EOF while parsing a value"
        | _ => c.failNext "key must be a string"
    | '"' :: _ =>
      if first then readMember fuel depth c acc else c.failNext "expected `,` or `\x7d`"
    | _ =>
      if first then c.failNext "key must be a string" else c.failNext "expected `,` or `\x7d`"

/-- Reads one member of an object, from the quote of its key, and what follows it. -/
def readMember : Nat → Nat → Cursor → List (String × Value) → Except String (Value × Cursor)
  | 0, _, c, _ => c.fail "recursion limit exceeded"
  | fuel + 1, depth, c, acc => do
    let (k, c) ← readString (c.rest.length + 1) c.advance []
    let c := c.skipSpace
    match c.rest with
    | ':' :: _ =>
      let (v, c) ← readValue fuel depth c.advance
      readMembers fuel depth c ((k, v) :: acc.filter (·.1 != k)) false
    | [] => c.fail "EOF while parsing an object"
    | _ => c.failNext "expected `:`"

end

/-- Reads a whole JSON text. -/
def parseJson (text : String) : Except String Value := do
  let cs := text.toList
  let (v, c) ← readValue (4 * cs.length + 4) nestingLimit { rest := cs }
  let c := c.skipSpace
  if c.rest.isEmpty then pure v else c.failNext "trailing characters"

end Conformance.Config
