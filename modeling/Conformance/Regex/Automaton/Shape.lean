import Conformance.Regex.Syntax

/-!
Expressions in the normal form that the automaton compiler receives.

The linear engine does not compile a parse tree as it was written. It first rebuilds the tree
with simplifying constructors: nested concatenations and alternations are flattened, adjacent
literals are joined into one, the empty expression disappears from concatenations, an
alternation of single characters or of classes becomes one class, a one-member class becomes a
literal, and a common prefix of the branches of an alternation is factored out. The number of
states of the automaton, and so whether it stays within the size limit, depends on this form
and not on the written one. `a|b|c` is a single class while `a|(?:b|c)` is an alternation of a
literal and a class, because the inner group is simplified first.

Lengths are counted in bytes of UTF-8, as the automaton reads bytes.
-/

set_option autoImplicit false

namespace Conformance.Regex

/-- An expression in normal form. -/
inductive Shape where
  /-- Matches the empty string. -/
  | empty
  /-- Matches a fixed non-empty string. -/
  | literal (chars : List Char)
  /-- Matches one character of a set that has at least two members, or of the empty set,
  which matches nothing. -/
  | cls (s : CharSet)
  /-- A zero-width assertion. -/
  | look (l : Look)
  /-- Repeats the body from `min` to `max` times (no bound when `max` is `none`). -/
  | rep (body : Shape) (min : Nat) (max : Option Nat) (greedy : Bool)
  /-- Records the span of the body as a capture group. -/
  | capture (index : Nat) (body : Shape)
  /-- At least two parts, none of them empty or a concatenation, no two literals adjacent. -/
  | concat (parts : List Shape)
  /-- At least two branches, none of them an alternation. -/
  | alternation (branches : List Shape)
deriving Inhabited

namespace Shape

mutual

/-- Structural equality of expressions. -/
def beq : Shape → Shape → Bool
  | .empty, .empty => true
  | .literal a, .literal b => a == b
  | .cls a, .cls b => a == b
  | .look a, .look b => a == b
  | .rep a m x g, .rep b n y h => beq a b && m == n && x == y && g == h
  | .capture i a, .capture j b => i == j && beq a b
  | .concat as, .concat bs => beqList as bs
  | .alternation as, .alternation bs => beqList as bs
  | _, _ => false

/-- Pointwise equality of two lists of expressions. -/
def beqList : List Shape → List Shape → Bool
  | [], [] => true
  | a :: as, b :: bs => beq a b && beqList as bs
  | _, _ => false

end

instance : BEq Shape := ⟨beq⟩

/-- The number of bytes of the UTF-8 encoding of a code point. -/
def utf8Width (code : Nat) : Nat :=
  if code < 0x80 then 1 else if code < 0x800 then 2 else if code < 0x10000 then 3 else 4

/-- The number of bytes of the UTF-8 encoding of a string of characters. -/
def bytesOf (cs : List Char) : Nat := cs.foldl (fun n c => n + utf8Width c.toNat) 0

/-- The smallest of a list of bounds, or `none` when one of them is `none` or the list is
empty. -/
def leastOf (xs : List (Option Nat)) : Option Nat :=
  match xs with
  | [] => none
  | x :: rest => rest.foldl (fun acc y => match acc, y with
    | some a, some b => some (Nat.min a b)
    | _, _ => none) x

/-- The largest of a list of bounds, or `none` when one of them is `none` or the list is
empty. -/
def mostOf (xs : List (Option Nat)) : Option Nat :=
  match xs with
  | [] => none
  | x :: rest => rest.foldl (fun acc y => match acc, y with
    | some a, some b => some (Nat.max a b)
    | _, _ => none) x

/-- The sum of a list of bounds, or `none` when one of them is `none`. -/
def sumOf (xs : List (Option Nat)) : Option Nat :=
  xs.foldl (fun acc y => match acc, y with
    | some a, some b => some (a + b)
    | _, _ => none) (some 0)

/-- The fewest bytes a match takes; `none` when nothing matches. -/
def minLen : Shape → Option Nat
  | .empty | .look _ => some 0
  | .literal cs => some (bytesOf cs)
  | .cls s => s.ranges.toList.head?.map fun r => utf8Width r.1
  | .rep b m _ _ => (minLen b).map (· * m)
  | .capture _ b => minLen b
  | .concat ps => sumOf (ps.attach.map fun ⟨p, _⟩ => minLen p)
  | .alternation bs => leastOf (bs.attach.map fun ⟨b, _⟩ => minLen b)

/-- The most bytes a match takes; `none` when that is unbounded or nothing matches. -/
def maxLen : Shape → Option Nat
  | .empty | .look _ => some 0
  | .literal cs => some (bytesOf cs)
  | .cls s => s.ranges.toList.getLast?.map fun r => utf8Width r.2
  | .rep b _ x _ => match x, maxLen b with
    | some n, some w => some (w * n)
    | _, _ => none
  | .capture _ b => maxLen b
  | .concat ps => sumOf (ps.attach.map fun ⟨p, _⟩ => maxLen p)
  | .alternation bs => mostOf (bs.attach.map fun ⟨b, _⟩ => maxLen b)

/-- Whether every match must pass the assertion `l` before it reads a byte. -/
def leads (l : Look) : Shape → Bool
  | .look k => k == l
  | .rep b m _ _ => m > 0 && leads l b
  | .capture _ b => leads l b
  | .concat ps => go (ps.attach.map fun ⟨p, _⟩ => (leads l p, maxLen p))
  | .alternation bs => !bs.isEmpty && (bs.attach.all fun ⟨b, _⟩ => leads l b)
  | _ => false
where
  /-- Runs through the parts of a concatenation while they match only the empty string. -/
  go : List (Bool × Option Nat) → Bool
    | [] => false
    | (l, w) :: rest => l || (w == some 0 && go rest)

/-- Whether every match must pass the assertion `l` after it reads its last byte. -/
def trails (l : Look) : Shape → Bool
  | .look k => k == l
  | .rep b m _ _ => m > 0 && trails l b
  | .capture _ b => trails l b
  | .concat ps => leads.go (ps.attach.map fun ⟨p, _⟩ => (trails l p, maxLen p)).reverse
  | .alternation bs => !bs.isEmpty && (bs.attach.all fun ⟨b, _⟩ => trails l b)
  | _ => false

/-- A literal; the empty literal is the empty expression. -/
def ofChars (cs : List Char) : Shape := if cs.isEmpty then .empty else .literal cs

/-- A class; a class of one member is a literal. -/
def ofSet (s : CharSet) : Shape :=
  match s.ranges.toList with
  | [(lo, hi)] => if lo = hi then ofChars [Char.ofNat lo] else .cls s
  | _ => .cls s

/-- The expression of a parse tree without sub-expressions. -/
def ofAtom : Node → Shape
  | .char c => ofChars [c]
  | .set s => ofSet s
  | .look l => .look l
  | _ => .empty

/-- A repetition. A body that matches only the empty string is repeated at most once;
`{0}` is the empty expression and `{1}` is the body itself. -/
def repetition (body : Shape) (min : Nat) (max : Option Nat) (greedy : Bool) : Shape :=
  let (min, max) :=
    if body.maxLen == some 0 then (Nat.min min 1, some ((max.getD 1).min 1)) else (min, max)
  if min = 0 && max == some 0 then .empty
  else if min = 1 && max == some 1 then body
  else .rep body min max greedy

/-- Joins adjacent literals of a list of parts. -/
def joinLiterals : List Shape → List Shape
  | [] => []
  | .literal a :: rest =>
    match joinLiterals rest with
    | .literal b :: more => .literal (a ++ b) :: more
    | more => .literal a :: more
  | p :: rest => p :: joinLiterals rest

/-- A concatenation: nested concatenations are flattened, empty parts dropped and adjacent
literals joined; no part is the empty expression, one part is that part. -/
def seq (parts : List Shape) : Shape :=
  let flat := parts.flatMap fun p => match p with
    | .concat qs => qs
    | .empty => []
    | p => [p]
  match joinLiterals flat with
  | [] => .empty
  | [p] => p
  | ps => .concat ps

/-- The characters of branches that are all single characters. -/
def singletons : List Shape → Option (List Char)
  | [] => some []
  | .literal [c] :: rest => (singletons rest).map (c :: ·)
  | _ => none

/-- The union of branches that are all classes. -/
def classUnion : List Shape → Option CharSet
  | [] => some CharSet.none
  | .cls s :: rest => (classUnion rest).map (CharSet.union s)
  | _ => none

/-- The parts of branches that are all concatenations. -/
def concatParts : List Shape → Option (List (List Shape))
  | [] => some []
  | .concat ps :: rest => (concatParts rest).map (ps :: ·)
  | _ => none

/-- The number of leading parts that two lists share. -/
def sharedPrefix : List Shape → List Shape → Nat
  | a :: as, b :: bs => if a == b then sharedPrefix as bs + 1 else 0
  | _, _ => 0

/-- An alternation with at most `fuel` rounds of factoring. Nested alternations are
flattened; branches of single characters or of classes become one class; when every branch
is a concatenation and they share leading parts, those parts are factored out and the
alternation of what follows them is built again. Each round removes a part from every
branch, so the length of the first branch bounds the rounds. -/
def alternate : Nat → List Shape → Shape
  | fuel, branches =>
    let flat := branches.flatMap fun b => match b with
      | .alternation bs => bs
      | b => [b]
    match flat with
    | [] => .cls CharSet.none
    | [b] => b
    | _ =>
      match singletons flat with
      | some cs => ofSet (CharSet.ofChars cs)
      | none =>
        match classUnion flat with
        | some s => ofSet s
        | none =>
          match fuel, concatParts flat with
          | f + 1, some (first :: others) =>
            let k := others.foldl (fun n ps => Nat.min n (sharedPrefix first ps)) first.length
            if k = 0 then .alternation flat
            else
              let tails := (first :: others).map fun ps => seq (ps.drop k)
              seq (first.take k ++ [alternate f tails])
          | _, _ => .alternation flat

/-- The number of parts of a concatenation; other expressions count none. -/
def partCount : Shape → Nat
  | .concat ps => ps.length
  | _ => 0

/-- An alternation of branches, earlier ones first; see `alternate`. The parts of all
branches, nested alternations flattened, bound the rounds of factoring. -/
def alts (branches : List Shape) : Shape :=
  let parts := branches.foldl (fun n b => n + match b with
    | .alternation bs => bs.foldl (fun k b => k + partCount b) 0
    | b => partCount b) 0
  alternate (parts + 1) branches

end Shape

end Conformance.Regex
