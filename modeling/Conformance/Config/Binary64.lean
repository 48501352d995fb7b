/-!
Binary64 numbers as JSON readers produce them, and their shortest decimal text.

A number is `±significand × 2^exponent`, with a significand below `2^53` and an exponent from
`-1074` to `971`; arithmetic is exact on natural numbers and every result is rounded once to the
nearest number, a tie going to the even significand. A reader scales its 64-bit accumulator once
by the rounded power of ten (`ofParts`), and `text` writes the fewest significant digits that read
back as the same number: positionally from `10^-5` to below `10^16`, otherwise with a signed
exponent, as in `1e-7` and `1.5e+16`.
-/

set_option autoImplicit false

namespace Conformance.Config

/-- The largest 64-bit unsigned number, the bound of a reader's digit accumulator. -/
def accumulatorMax : Nat := 18446744073709551615

/-- A 64-bit binary floating-point number. -/
inductive Binary64 where
  /-- `±significand × 2^exponent`. -/
  | finite (negative : Bool) (significand : Nat) (exponent : Int)
  /-- A magnitude beyond the largest finite number. -/
  | infinite (negative : Bool)
deriving Repr, BEq, Inhabited

namespace Binary64

/-- The least exponent of a finite number. -/
def minExponent : Int := -1074

/-- The greatest exponent of a finite number. -/
def maxExponent : Int := 971

/-- The number of bits of a significand. -/
def precision : Nat := 53

/-- `2 ^ k` as a numerator and a denominator: `(2^k, 1)` when `k ≥ 0`, else `(1, 2^-k)`. -/
def pow2 (k : Int) : Nat × Nat :=
  if 0 ≤ k then (Nat.pow 2 k.toNat, 1) else (1, Nat.pow 2 k.natAbs)

/-- The `k` with `2^k ≤ num / den < 2^(k+1)`, for positive `num` and `den`. -/
def binaryOrder (num den : Nat) : Int :=
  let k : Int := (num.log2 : Int) - (den.log2 : Int)
  let (a, b) := pow2 k
  if num * b ≥ den * a then k else k - 1

/-- The number nearest to `num / den`, with the given sign; `den` is positive. -/
def ofRatio (negative : Bool) (num den : Nat) : Binary64 :=
  if num = 0 then .finite negative 0 minExponent
  else
    let q := max (binaryOrder num den - ((precision - 1 : Nat) : Int)) minExponent
    let (a, b) := pow2 q
    let n := num * b
    let d := den * a
    let s := n / d
    let r := n % d
    let s := if 2 * r > d || (2 * r == d && s % 2 == 1) then s + 1 else s
    let (s, q) := if s = Nat.pow 2 precision then (Nat.pow 2 (precision - 1), q + 1) else (s, q)
    if q > maxExponent then .infinite negative else .finite negative s q

/-- The number nearest to a natural number. -/
def ofNat (n : Nat) : Binary64 := ofRatio false n 1

/-- Whether the number is a zero. -/
def isZero : Binary64 → Bool
  | .finite _ s _ => s == 0
  | .infinite _ => false

/-- The number with its sign flipped when `negative` holds. -/
def negateIf (negative : Bool) : Binary64 → Binary64
  | .finite n s e => .finite (n != negative) s e
  | .infinite n => .infinite (n != negative)

/-- The number nearest to the product of two numbers. -/
def mul : Binary64 → Binary64 → Binary64
  | .finite n₁ s₁ e₁, .finite n₂ s₂ e₂ =>
    let (a, b) := pow2 (e₁ + e₂)
    ofRatio (n₁ != n₂) (s₁ * s₂ * a) b
  | .finite n₁ _ _, .infinite n₂ | .infinite n₁, .finite n₂ _ _
  | .infinite n₁, .infinite n₂ => .infinite (n₁ != n₂)

/-- The number nearest to the quotient of two numbers; dividing by zero or by an infinity
gives an infinity or zero. -/
def div : Binary64 → Binary64 → Binary64
  | .finite n₁ s₁ e₁, .finite n₂ s₂ e₂ =>
    if s₂ = 0 then .infinite (n₁ != n₂)
    else
      let (a, b) := pow2 (e₁ - e₂)
      ofRatio (n₁ != n₂) (s₁ * a) (s₂ * b)
  | .finite n₁ _ _, .infinite n₂ => .finite (n₁ != n₂) 0 minExponent
  | .infinite n₁, .finite n₂ _ _ | .infinite n₁, .infinite n₂ => .infinite (n₁ != n₂)

/-- The greatest power of ten a reader scales by in one step. -/
def maxPowerOfTen : Nat := 308

/-- `10 ^ k` rounded to a number. -/
def powerOfTen (k : Nat) : Binary64 := ofNat (Nat.pow 10 k)

/-- How a reader scales the accumulator `significand` by `10 ^ exponent`, then gives the
sign; none when the product overflows. Each pass of `go` that is not the last divides by
`10 ^ 308`; the accumulator is below `2^64`, so the third such division reaches zero and
the fuel never runs out. -/
def ofParts (negative : Bool) (significand : Nat) (exponent : Int) : Option Binary64 :=
  (go 4 (ofNat significand) exponent).map (negateIf negative)
where
  /-- Scales `f` by `10 ^ e` with at most `fuel` preliminary divisions. -/
  go : Nat → Binary64 → Int → Option Binary64
    | fuel, f, e =>
      if e.natAbs ≤ maxPowerOfTen then
        if 0 ≤ e then
          match mul f (powerOfTen e.toNat) with
          | .infinite _ => none
          | r => some r
        else some (div f (powerOfTen e.natAbs))
      else if f.isZero then some f
      else if 0 ≤ e then none
      else
        match fuel with
        | 0 => some (.finite false 0 minExponent)
        | fuel + 1 => go fuel (div f (powerOfTen maxPowerOfTen)) (e + maxPowerOfTen)

/-- The decimal digits of a natural number, most significant first. -/
def digitsOf (n : Nat) : List Nat := (Nat.toDigits 10 n).map fun c => c.toNat - 48

/-- Appends digits to the accumulator `acc` while it stays within `accumulatorMax`; gives
the accumulator and how many digits it took. The first digit that does not fit stops it. -/
def accumulateDigits : List Nat → Nat → Nat × Nat
  | [], acc => (acc, 0)
  | d :: ds, acc =>
    if acc * 10 + d ≤ accumulatorMax then
      let (a, k) := accumulateDigits ds (acc * 10 + d)
      (a, k + 1)
    else (acc, 0)

/-- The number a reader gives for the decimal `digits × 10^exponent`: the leading digits
fill a 64-bit accumulator while it has room, the digits after them are dropped and counted
in the exponent, and the accumulator is scaled once (`ofParts`). Sixteen nines after the
point, `0.9999999999999999`, read as `1`: the accumulator `9999999999999999` rounds to
`10^16` before the division. -/
def ofDecimal (negative : Bool) (digits : Nat) (exponent : Int) : Option Binary64 :=
  let ds := digitsOf digits
  let (acc, taken) := accumulateDigits ds 0
  ofParts negative acc (exponent + ((ds.length - taken : Nat) : Int))

/-- The IEEE 754 encoding of a number: the sign bit, eleven bits of biased exponent and the
52 bits of the significand after its leading one. -/
def bits : Binary64 → UInt64
  | .finite negative significand exponent =>
    let sign : Nat := if negative then Nat.pow 2 63 else 0
    if significand < Nat.pow 2 52 then (sign + significand).toUInt64
    else (sign + (exponent + 1075).toNat * Nat.pow 2 52 + (significand - Nat.pow 2 52)).toUInt64
  | .infinite negative => ((if negative then Nat.pow 2 63 else 0) + 0x7FF * Nat.pow 2 52).toUInt64

/-- The number as a `Float`. -/
def toFloat (x : Binary64) : Float := Float.ofBits x.bits

/-- The `k` with `10^k ≤ num / den < 10^(k+1)`, for positive `num` and `den`; a binary64
number lies above `10^-325`, so the search below one ends in time. -/
def decimalOrder (num den : Nat) : Int :=
  if num ≥ den then ((digitsOf (num / den)).length : Int) - 1
  else -((go 400 1 : Nat) : Int)
where
  /-- The least `k` from the given one on with `num * 10^k ≥ den`, searching `fuel` steps. -/
  go : Nat → Nat → Nat
    | 0, k => k
    | fuel + 1, k => if num * Nat.pow 10 k ≥ den then k else go fuel (k + 1)

/-- The candidate with `count` significant digits nearest to `v / den` among those inside
the interval from `lo / den` to `hi / den` (ends included when `inclusive`), as a digit
count and a power of ten: `(c, p)` stands for `c × 10^p`. Tries 1 to `fuel` more digits
after `count`. -/
def shortestFrom (inclusive : Bool) (v lo hi den : Nat) (order : Int) :
    Nat → Nat → Option (Nat × Int)
  | 0, _ => none
  | fuel + 1, count =>
    let p : Int := order - count + 1
    let (tn, td) := if 0 ≤ p then (Nat.pow 10 p.toNat, 1) else (1, Nat.pow 10 p.natAbs)
    let x := v * td
    let y := den * tn
    let q := x / y
    let r := x % y
    let within (c : Nat) : Bool :=
      let scaled := c * tn * den
      if inclusive then lo * td ≤ scaled && scaled ≤ hi * td
      else lo * td < scaled && scaled < hi * td
    let downOk := within q
    let upOk := r != 0 && within (q + 1)
    if downOk && upOk then
      if 2 * r < y || (2 * r == y && q % 2 == 0) then some (q, p) else some (q + 1, p)
    else if downOk then some (q, p)
    else if upOk then some (q + 1, p)
    else shortestFrom inclusive v lo hi den order fuel (count + 1)

/-- The shortest digits that read back as the positive finite number
`significand × 2^exponent`, with the place of the decimal point: the number is near
`0.d₁d₂… × 10^point`. The numbers that read as it lie strictly within half a gap of it on
either side, or up to that half gap when the significand is even; the gap below the least
significand of an exponent is half the gap above it. -/
def shortestDigits (significand : Nat) (exponent : Int) : List Nat × Int :=
  let lowGap :=
    if significand = Nat.pow 2 (precision - 1) && exponent > minExponent then 1 else 2
  let (a, den) := pow2 (exponent - 2)
  let v := 4 * significand * a
  let lo := (4 * significand - lowGap) * a
  let hi := (4 * significand + 2) * a
  let order := decimalOrder v den
  let (c, p) := (shortestFrom (significand % 2 == 0) v lo hi den order 17 1).getD
    (v / den, 0)
  let ds := digitsOf c
  let kept := (ds.reverse.dropWhile (· == 0)).reverse
  (kept, (ds.length : Int) + p)

/-- The characters of `count` zeros. -/
def zeros (count : Nat) : List Char := List.replicate count '0'

/-- Digits written positionally, the point `point` places after the first digit's place:
`.0` is added when there is no fraction. -/
def positional (cs : List Char) (point : Int) : List Char :=
  if point ≤ 0 then ['0', '.'] ++ zeros point.natAbs ++ cs
  else if point.toNat < cs.length then cs.take point.toNat ++ '.' :: cs.drop point.toNat
  else cs ++ zeros (point.toNat - cs.length) ++ ['.', '0']

/-- Digits written with an exponent: the first digit, the others after a point, then `e`, the
sign of the exponent and its digits. -/
def scientific (cs : List Char) (exponent : Int) : List Char :=
  let mantissa := match cs with
    | [] => []
    | [d] => [d]
    | d :: rest => d :: '.' :: rest
  let sign := if exponent < 0 then '-' else '+'
  mantissa ++ 'e' :: sign :: (Nat.toDigits 10 exponent.natAbs)

/-- The text of a number: shortest digits, positional from `10^-5` up to below `10^16` and
with an exponent otherwise; `inf` for an infinity. -/
def text : Binary64 → String
  | .infinite negative => (if negative then "-" else "") ++ "inf"
  | .finite negative s e =>
    let sign := if negative then "-" else ""
    if s = 0 then sign ++ "0.0"
    else
      let (ds, point) := shortestDigits s e
      let cs := ds.map fun d => Char.ofNat (d + 48)
      let body := if -4 ≤ point && point ≤ 16 then positional cs point
        else scientific cs (point - 1)
      sign ++ String.ofList body

end Binary64

end Conformance.Config
