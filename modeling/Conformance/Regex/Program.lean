import Conformance.Regex.Syntax

/-!
Compiled regular expressions: programs of a backtracking machine.

A program is an array of instructions, each naming its successor and `split` naming two, the first
tried first; capture group `i` records its start in slot `2i` and its end in slot `2i+1`. A loop
whose body can match the empty string is `(x+)?` for the linear engine, and for the backtracking
engine every optional pass must move the position. Counted repetition is unrolled, a committed part
is entered through `delegate`, and a conditional drops every alternative pushed since its test
began, the offer of its second branch included, before its first branch.
-/

set_option autoImplicit false

namespace Conformance.Regex

/-- Instructions of the matching machine. -/
inductive Inst where
  /-- Consume the given character. -/
  | char (c : Char) (next : Nat)
  /-- Consume a character of the set. -/
  | set (s : CharSet) (next : Nat)
  /-- Check an assertion at the current position. -/
  | look (l : Look) (next : Nat)
  /-- Try `first`; on failure, `second`. -/
  | split (first second : Nat)
  /-- Continue at `target`. -/
  | jump (target : Nat)
  /-- Record the current position in a capture slot. -/
  | save (slot : Nat) (next : Nat)
  /-- Consume the text last captured by the group. -/
  | backref (group : Nat) (next : Nat)
  /-- Fail unless the group has recorded its start. -/
  | defined (group : Nat) (next : Nat)
  /-- Record the current position in a register. -/
  | mark (reg : Nat) (next : Nat)
  /-- Fail unless the position moved since the register was marked. -/
  | progress (reg : Nat) (next : Nat)
  /-- Go back to the position recorded in a register. -/
  | seek (reg : Nat) (next : Nat)
  /-- Step back over `count` characters; fail at the start of the subject. -/
  | back (count : Nat) (next : Nat)
  /-- Start a negative look-around: run `body`; if it fails, continue at `after`. -/
  | guard (body after : Nat)
  /-- The body of a negative look-around matched: drop its alternatives and fail. -/
  | refute
  /-- Record the depth of the backtracking stack in a register. -/
  | atomicStart (reg : Nat) (next : Nat)
  /-- Drop the alternatives pushed since the register was recorded. -/
  | atomicEnd (reg : Nat) (next : Nat)
  /-- Run the instructions from `entry` on their own, as the linear engine runs them,
  anchored here; take their first match and continue at `next` from its end, with the slots
  of `groups` as that match left them. -/
  | delegate (entry : Nat) (groups : List Nat) (next : Nat)
  /-- The whole expression matched. -/
  | matched
deriving Inhabited

/-- A compiled expression: its instructions, the first one, and how many registers and
capture groups it uses. -/
structure Program where
  insts : Array Inst
  start : Nat
  registers : Nat
  groups : Nat
deriving Inhabited

/-- A program under construction. -/
structure Builder where
  insts : Array Inst := #[]
  registers : Nat := 0

namespace Builder

/-- Appends an instruction and gives its address. The address is read before the push, so
that the array is not shared when it grows and is extended in place. -/
def emit (b : Builder) (i : Inst) : Builder × Nat :=
  let pc := b.insts.size
  ({ b with insts := b.insts.push i }, pc)

/-- Replaces the instruction at an address. -/
def patch (b : Builder) (pc : Nat) (i : Inst) : Builder :=
  { b with insts := b.insts.set! pc i }

/-- Allocates a fresh register. -/
def register (b : Builder) : Builder × Nat :=
  ({ b with registers := b.registers + 1 }, b.registers)

/-- A choice between `body` and `exit`, the body first when greedy. -/
def choice (greedy : Bool) (body exit : Nat) : Inst :=
  if greedy then .split body exit else .split exit body

end Builder

mutual

/-- Compiles an expression so that it continues at `next`; gives its entry address. -/
def compileNode (linear : Bool) : Node → Nat → Builder → Builder × Nat
  | .empty, next, b => (b, next)
  | .char c, next, b => b.emit (.char c next)
  | .set s, next, b => b.emit (.set s next)
  | .look l, next, b => b.emit (.look l next)
  | .capture i body, next, b =>
    let (b, close) := b.emit (.save (2 * i + 1) next)
    let (b, entry) := compileNode linear body close b
    b.emit (.save (2 * i) entry)
  | .cat x y, next, b =>
    let (b, ey) := compileNode linear y next b
    compileNode linear x ey b
  | .alt x y, next, b =>
    let (b, ex) := compileNode linear x next b
    let (b, ey) := compileNode linear y next b
    b.emit (.split ex ey)
  | .rep body lo hi greedy, next, b =>
    match hi with
    | some h =>
      let (b, tail) := compileOptional linear body greedy (h - lo) next next b
      compileCopies linear body lo tail b
    | none =>
      if linear then
        if lo = 0 then
          -- `x*` as a loop; `(x+)?` when `x` can match the empty string
          let (b, loop) := b.emit (.jump 0)
          let (b, entry) := compileNode linear body loop b
          let b := b.patch loop (Builder.choice greedy entry next)
          if body.nullable then b.emit (Builder.choice greedy entry next) else (b, loop)
        else
          -- `x{n,}` as `x{n-1}` followed by `x+`
          let (b, loop) := b.emit (.jump 0)
          let (b, entry) := compileNode linear body loop b
          let b := b.patch loop (Builder.choice greedy entry next)
          compileCopies linear body (lo - 1) entry b
      else
        let (b, loop) := b.emit (.jump 0)
        let (b, entry) :=
          if body.nullable then
            let (b, reg) := b.register
            let (b, check) := b.emit (.progress reg loop)
            let (b, inner) := compileNode linear body check b
            b.emit (.mark reg inner)
          else compileNode linear body loop b
        let b := b.patch loop (Builder.choice greedy entry next)
        compileCopies linear body lo loop b
  | .backref i, next, b => b.emit (.backref i next)
  | .defined i, next, b => b.emit (.defined i next)
  | .lookahead negated body, next, b =>
    if negated then
      let (b, fail) := b.emit .refute
      let (b, entry) := compileNode linear body fail b
      b.emit (.guard entry next)
    else
      let (b, reg) := b.register
      let (b, back) := b.emit (.seek reg next)
      let (b, entry) := compileNode linear body back b
      b.emit (.mark reg entry)
  | .lookbehind negated width body, next, b =>
    if negated then
      let (b, fail) := b.emit .refute
      let (b, entry) := compileNode linear body fail b
      let (b, step) := b.emit (.back width entry)
      b.emit (.guard step next)
    else
      let (b, reg) := b.register
      let (b, back) := b.emit (.seek reg next)
      let (b, entry) := compileNode linear body back b
      let (b, step) := b.emit (.back width entry)
      b.emit (.mark reg step)
  | .atomic body, next, b =>
    let (b, reg) := b.register
    let (b, close) := b.emit (.atomicEnd reg next)
    let (b, entry) := compileNode linear body close b
    b.emit (.atomicStart reg entry)
  | .commit body, next, b =>
    let (b, done) := b.emit .matched
    let (b, entry) := compileNode true body done b
    b.emit (.delegate entry body.groups next)
  | .conditional test yes no, next, b =>
    let (b, reg) := b.register
    let (b, other) := compileNode linear no next b
    let (b, branch) := compileNode linear yes next b
    let (b, close) := b.emit (.atomicEnd reg branch)
    let (b, entry) := compileNode linear test close b
    let (b, split) := b.emit (.split entry other)
    b.emit (.atomicStart reg split)
termination_by node _ _ => (sizeOf node, 0, 0)

/-- Compiles `count` copies of the body in a row, continuing at `next`. -/
def compileCopies (linear : Bool) (body : Node) : Nat → Nat → Builder → Builder × Nat
  | 0, next, b => (b, next)
  | n + 1, next, b =>
    let (b, entry) := compileCopies linear body n next b
    compileNode linear body entry b
termination_by n _ _ => (sizeOf body, 1, n)

/-- Compiles `count` nested optional copies of the body, `(x(x)?)?`; every exit goes to
`exit`, the innermost copy continues at `next`. -/
def compileOptional (linear : Bool) (body : Node) (greedy : Bool) :
    Nat → Nat → Nat → Builder → Builder × Nat
  | 0, next, _, b => (b, next)
  | n + 1, next, exit, b =>
    let (b, inner) := compileOptional linear body greedy n next exit b
    let (b, entry) := compileNode linear body inner b
    b.emit (Builder.choice greedy entry exit)
termination_by n _ _ _ => (sizeOf body, 1, n)

end

/-- Compiles an expression with the given number of capture groups, for the linear engine
or for the backtracking engine. -/
def Program.ofNode (node : Node) (groups : Nat) (linear : Bool) : Program :=
  let (b, done) := ({} : Builder).emit .matched
  let (b, start) := compileNode linear node done b
  { insts := b.insts, start, registers := b.registers, groups }

end Conformance.Regex
