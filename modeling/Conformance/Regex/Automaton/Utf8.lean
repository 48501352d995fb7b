/-!
Ranges of code points as sequences of byte ranges.

An automaton that reads bytes matches a range of code points by the UTF-8 encodings of its
members. The range is cut into pieces whose encodings all have the same length and, byte by
byte, run over a whole interval: each piece is then a sequence of one to four byte ranges,
and a string of bytes encodes a member of the piece exactly when each of its bytes lies in
the corresponding range. The pieces come out in increasing order of code points.

The cuts are made in this order: around the surrogates `D800`–`DFFF`, which have no encoding;
at the last code point of each encoding length; and where the two ends differ in a leading
byte while a trailing byte does not run over its whole interval of continuation bytes.
-/

set_option autoImplicit false

namespace Conformance.Regex.Automaton

/-- The UTF-8 encoding of a code point, as byte values. -/
def encode (c : Nat) : List Nat :=
  if c < 0x80 then [c]
  else if c < 0x800 then [0xC0 ||| (c >>> 6), 0x80 ||| (c &&& 0x3F)]
  else if c < 0x10000 then
    [0xE0 ||| (c >>> 12), 0x80 ||| ((c >>> 6) &&& 0x3F), 0x80 ||| (c &&& 0x3F)]
  else
    [0xF0 ||| (c >>> 18), 0x80 ||| ((c >>> 12) &&& 0x3F), 0x80 ||| ((c >>> 6) &&& 0x3F),
      0x80 ||| (c &&& 0x3F)]

/-- The last code point whose encoding has `n` bytes. -/
def lastOfLength : Nat → Nat
  | 1 => 0x7F
  | 2 => 0x7FF
  | 3 => 0xFFFF
  | _ => 0x10FFFF

/-- The first cut of a range at the end of an encoding length: the last code point of the
shortest length that the range starts in but runs past. -/
def lengthCut (lo hi : Nat) : Option Nat :=
  [1, 2, 3].findSome? fun n =>
    let m := lastOfLength n
    if lo ≤ m && m < hi then some m else none

/-- The first cut of a range where a trailing byte does not cover its whole interval. For the
`i` trailing bytes (from one to three) the ends must agree above them; if they do not, the
range is split after the low end's block when the low end does not start a block, or before
the high end's block when the high end does not end one. Gives the two halves. -/
def blockCut (lo hi : Nat) : Option ((Nat × Nat) × (Nat × Nat)) :=
  [1, 2, 3].findSome? fun i =>
    let m := (1 <<< (6 * i)) - 1
    if lo >>> (6 * i) == hi >>> (6 * i) then none
    else if lo &&& m != 0 then some ((lo, lo ||| m), ((lo ||| m) + 1, hi))
    else if hi &&& m != m then some ((lo, (hi - (hi &&& m)) - 1), (hi - (hi &&& m), hi))
    else none

/-- Cuts the ranges of a stack, first range first, into byte sequences; `fuel` bounds the
steps. -/
def sequencesOf : Nat → List (Nat × Nat) → List (List (Nat × Nat))
  | 0, _ => []
  | _, [] => []
  | fuel + 1, (lo, hi) :: stack =>
    if lo < 0xE000 && hi > 0xD7FF then
      sequencesOf fuel ((lo, 0xD7FF) :: (0xE000, hi) :: stack)
    else if hi < lo then sequencesOf fuel stack
    else match lengthCut lo hi with
      | some m => sequencesOf fuel ((lo, m) :: (m + 1, hi) :: stack)
      | none =>
        if hi ≤ 0x7F then [(lo, hi)] :: sequencesOf fuel stack
        else match blockCut lo hi with
          | some (first, second) => sequencesOf fuel (first :: second :: stack)
          | none => (encode lo).zip (encode hi) :: sequencesOf fuel stack

/-- The byte sequences of the code points from `lo` to `hi`, in increasing order. A range
gives at most a few dozen sequences, each after a few cuts; a thousand steps are more than
enough. -/
def sequences (lo hi : Nat) : List (List (Nat × Nat)) :=
  sequencesOf 1024 [(lo, hi)]

end Conformance.Regex.Automaton
