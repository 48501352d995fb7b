import Conformance.Regex.Parse.Extended
import Conformance.Regex.Automaton.Size

/-!
The parts of an extended pattern that run on the linear engine.

A pattern that needs no backtracking goes to the linear engine whole, written back in the standard
dialect. Otherwise the backtracking engine still hands over, each searched anchored at the current
position, the leading and trailing runs of a concatenation (`catSplit`), a part that nothing after
it can backtrack into, and a class or a literal that ignores case. Each part handed over must stay
within the size limit and the standard dialect's limits, and its text writes the flags it was read
under as groups, such as `(?i:a)` and `(?m:^)`.
-/

set_option autoImplicit false

namespace Conformance.Regex.Extended

open Conformance.Regex.Automaton

/-- Whether a term is a literal that does not ignore case, or a run of them. -/
def Term.isPlainLiteral : Term → Bool
  | .lit _ caseless => !caseless
  | .cat ps => ps.attach.all fun ⟨p, _⟩ => p.isPlainLiteral
  | _ => false

/-- The normal form of a term that needs no backtracking, once written back in the standard
dialect. -/
def Term.shape : Term → Shape
  | .lit c caseless => Shape.ofAtom (Node.literal { caseless } c)
  | .any newline => Shape.ofSet (Node.dotSet { dotAll := newline })
  | .look l => .look l
  | .cls s _ => Shape.ofSet s
  | .cat ps => Shape.seq (ps.attach.map fun ⟨p, _⟩ => p.shape)
  | .alt bs => Shape.alts (bs.attach.map fun ⟨b, _⟩ => b.shape)
  | .group i b => .capture i b.shape
  | .rep b lo hi greedy => Shape.repetition b.shape lo hi greedy
  | .atomic b => b.shape
  | _ => .empty

/-- A run handed to the linear engine, unless it is empty or only plain literals. -/
def handOver (ts : List Term) : List (List Term) :=
  if ts.isEmpty || ts.all Term.isPlainLiteral then [] else [ts]

/-- The runs that the linear engine compiles for a term. `hard` tells whether what follows
the term may backtrack into it. -/
def Term.runs (hard : Bool) (t : Term) : List (List Term) :=
  if !hard && !t.hard then handOver [t]
  else match t with
  | .lit _ caseless => if caseless then [[t]] else []
  | .cls _ _ => [[t]]
  | .cat ps =>
    let (head, tail) := catSplit hard ps
    let middle := (ps.attach.drop head).take (ps.length - head - tail)
    handOver (ps.take head) ++ middle.flatMap (fun ⟨p, _⟩ => p.runs true) ++
      handOver (ps.drop (ps.length - tail))
  | .alt bs => bs.attach.flatMap fun ⟨b, _⟩ => b.runs hard
  | .group _ b => b.runs hard
  | .rep b lo hi _ => b.runs (if lo = 0 && hi == some 1 then hard else true)
  | .around false _ (.alt bs) => bs.attach.flatMap fun ⟨b, _⟩ => b.runs false
  | .around _ _ b | .atomic b => b.runs false
  | .cond c y n => c.runs hard ++ y.runs hard ++ n.runs hard
  | _ => []

/-- The expression that the linear engine compiles for a run: the run alone. It is anchored
by the search that runs it, which starts at the current position, not by its text. -/
def runShape (ts : List Term) : Shape := Shape.seq (ts.map Term.shape)

/-- The largest depth of a list, zero when it is empty. -/
def maxDepth (ds : List Nat) : Nat := ds.foldl Nat.max 0

/-- The depth of a sequence of items in the standard dialect: a concatenation of two or more
adds a level. -/
def nestingOf : List Nat → Nat
  | [] => 0
  | [d] => d
  | ds => 1 + maxDepth ds

/-- The depths of the items of the text of a term that needs no backtracking, written in the
standard dialect where the part around it binds with `strength`: 0 alone or in a group, 1 as a
branch of an alternation or in a run, 2 in a concatenation and 3 under a repetition operator.
A concatenation that needs no group gives its parts as items of the part around it. -/
def Term.itemDepths (strength : Nat) : Term → List Nat
  | .empty => []
  | .lit _ caseless => [if caseless then 1 else 0]
  | .any newline => [if newline then 1 else 0]
  | .look l => [if l == .lineStart || l == .lineEnd then 1 else 0]
  | .cls _ depth => [depth]
  | .cat ps =>
    let parts := ps.attach.flatMap fun ⟨p, _⟩ => p.itemDepths 2
    if strength > 1 then [1 + nestingOf parts] else parts
  | .alt bs =>
    let inner := 1 + maxDepth (bs.attach.map fun ⟨b, _⟩ => nestingOf (b.itemDepths 1))
    [if strength > 0 then inner + 1 else inner]
  | .group _ b => [1 + nestingOf (b.itemDepths 0)]
  | .rep b _ _ _ =>
    let inner := 1 + nestingOf (b.itemDepths 3)
    [if strength > 2 then inner + 1 else inner]
  | _ => []

/-- Whether every count of a term fits in 32 bits, as the standard dialect reads counts. -/
def Term.countsFit : Term → Bool
  | .rep b lo hi _ => lo < 4294967296 && hi.all (· < 4294967296) && b.countsFit
  | .cat ps | .alt ps => ps.attach.all fun ⟨p, _⟩ => p.countsFit
  | .group _ b | .atomic b | .around _ _ b => b.countsFit
  | .cond t y n => t.countsFit && y.countsFit && n.countsFit
  | _ => true

/-- Whether the linear engine accepts a text whose items have the given depths and that
holds the given terms: it nests at most `nestLimit` deep, its counts fit, and the automata
of its expressions stay within the size limit. -/
def acceptsText (items : List Nat) (ts : List Term) (shapes : List Shape) : Bool :=
  nestingOf items ≤ Standard.nestLimit && ts.all Term.countsFit && shapes.all Automaton.fits

/-- Whether the linear engine accepts everything it compiles for a parsed pattern: the
whole pattern when it needs no backtracking, otherwise each run handed over. -/
def Parsed.linearAccepts (p : Parsed) : Bool :=
  if p.hard then
    (p.term.runs true).all fun ts =>
      acceptsText (ts.flatMap (·.itemDepths 1)) ts [runShape ts]
  else acceptsText (p.term.itemDepths 0) [p.term] [p.term.shape]

end Conformance.Regex.Extended
