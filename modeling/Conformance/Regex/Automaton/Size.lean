import Conformance.Regex.Automaton.Shape
import Conformance.Regex.Automaton.Classes
import Conformance.Regex.Automaton.Literals

/-!
Whether the automata of an expression stay within the size limit.

The linear engine compiles an expression twice, forward with a pair of states around every capture
group and in reverse without captures, and the pattern compiles only when both stay within the
limit. Fragments are built in the compiler's order, since the numbers of states matter for classes
(see `Classes`). Each automaton starts with a union and an any-byte state that let a match begin
anywhere, left out when every match is anchored at the start (forward) or at the end (reverse).
-/

set_option autoImplicit false

namespace Conformance.Regex.Automaton

open Conformance.Regex

/-- `n` copies of a fragment in a row; no copy is one empty state. -/
def copies (act : Build Exit) : Nat → Build Exit
  | 0 => do
    let _ ← addState 0
    pure .plain
  | n + 1 => do
    let first ← act
    go first n
where
  /-- Adds `k` more copies after a fragment that ends with `last`. -/
  go (last : Exit) : Nat → Build Exit
    | 0 => pure last
    | k + 1 => do
      let next ← act
      link last
      go next k

/-- Fragments in a row. -/
def inRow : List (Build Exit) → Build Exit
  | [] => do
    let _ ← addState 0
    pure .plain
  | act :: rest => do
    let first ← act
    go first rest
where
  /-- Adds the remaining fragments after one that ends with `last`. -/
  go (last : Exit) : List (Build Exit) → Build Exit
    | [] => pure last
    | act :: rest => do
      let next ← act
      link last
      go next rest

/-- Alternatives: the first two, then the union and the end state, then the rest. -/
def choice : List (Build Exit) → Build Exit
  | [] => do
    let _ ← addState 0
    pure .plain
  | [act] => act
  | a :: b :: rest => do
    let first ← a
    let second ← b
    let _ ← addState 0
    let _ ← addState 0
    addAlternative
    link first
    addAlternative
    link second
    for act in rest do
      let next ← act
      addAlternative
      link next
    pure .plain

/-- `e?`. -/
def optional (act : Build Exit) : Build Exit := do
  let _ ← addState 0
  let body ← act
  let _ ← addState 0
  addAlternative
  addAlternative
  link body
  pure .plain

/-- `e{n,}`, where `nonEmpty` tells that `e` cannot match the empty string. -/
def atLeast (act : Build Exit) (nonEmpty : Bool) : Nat → Build Exit
  | 0 =>
    if nonEmpty then do
      let _ ← addState 0
      let body ← act
      addAlternative
      link body
      pure .union
    else do
      let body ← act
      let _ ← addState 0
      link body
      addAlternative
      let _ ← addState 0
      let _ ← addState 0
      addAlternative
      addAlternative
      addAlternative
      pure .plain
  | 1 => do
    let body ← act
    let _ ← addState 0
    link body
    addAlternative
    pure .union
  | n + 2 => do
    let front ← copies act (n + 1)
    let last ← act
    let _ ← addState 0
    link front
    link last
    addAlternative
    pure .union

/-- `e{n,m}` with `n < m`. -/
def between (act : Build Exit) (n m : Nat) : Build Exit := do
  let front ← copies act n
  let _ ← addState 0
  let last ← go front (m - n)
  link last
  pure .plain
where
  /-- Adds `k` optional copies after a fragment that ends with `last`. -/
  go (last : Exit) : Nat → Build Exit
    | 0 => pure last
    | k + 1 => do
      let _ ← addState 0
      let next ← act
      link last
      addAlternative
      addAlternative
      go next k

/-- A repetition of a fragment. -/
def repetition (act : Build Exit) (nonEmpty : Bool) (min : Nat) (max : Option Nat) :
    Build Exit :=
  match min, max with
  | 0, some 1 => optional act
  | n, none => atLeast act nonEmpty n
  | n, some m => if n = m then copies act n else between act n m

/-- A capture group: a state before and a state after the body. -/
def captured (act : Build Exit) : Build Exit := do
  let _ ← addState 0
  let body ← act
  let _ ← addState 0
  link body
  pure .plain

/-- Whether an expression is a literal. -/
def isLiteral : Shape → Bool
  | .literal _ => true
  | _ => false

/-- The bytes of a literal in the order of reading. -/
def literalBytes (reverse : Bool) : Shape → List Nat
  | .literal cs =>
    let bytes := cs.flatMap fun c => encode c.toNat
    if reverse then bytes.reverse else bytes
  | _ => []

mutual

/-- The fragment of an expression, read forward or in reverse. -/
def fragment (reverse : Bool) : Shape → Build Exit
  | .literal cs => do
    addStates (Shape.bytesOf cs)
    pure .plain
  | .cls s => classStates reverse s
  | .rep b min max _ =>
    repetition (fragment reverse b) (b.minLen.any (· > 0)) min max
  | .capture _ b => if reverse then fragment reverse b else captured (fragment reverse b)
  | .concat ps =>
    let parts := fragments reverse ps
    inRow (if reverse then parts.reverse else parts)
  | .alternation bs =>
    if bs.length ≥ 2 && bs.all isLiteral then
      (Trie.ofLiterals (bs.map (literalBytes reverse))).states
    else choice (fragments reverse bs)
  | _ => do
    -- the empty expression and an assertion
    let _ ← addState 0
    pure .plain

/-- The fragments of a list of expressions, in order. -/
def fragments (reverse : Bool) : List Shape → List (Build Exit)
  | [] => []
  | s :: rest => fragment reverse s :: fragments reverse rest

end

/-- The whole automaton: the prefix that lets a match begin anywhere unless every match is
anchored, the expression (inside the capture of the whole match when read forward), and the
match state. -/
def automaton (reverse : Bool) (s : Shape) : Build Unit := do
  let anchored := if reverse then s.trails .textEnd else s.leads .textStart
  if anchored then
    let _ ← addState 0
  else
    let _ ← addState 0
    let _ ← addState 0
    let _ ← addState 8
    addAlternative
  let body ← if reverse then fragment true s else captured (fragment false s)
  let _ ← addState 0
  link body
  if !anchored then addAlternative

/-- Whether both automata of an expression stay within the size limit. -/
def fits (s : Shape) : Bool :=
  (automaton false s).fits && (automaton true s).fits

end Conformance.Regex.Automaton
