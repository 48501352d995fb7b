import Conformance.Regex.Program
import Std.Data.HashSet

/-!
The matching machine: a backtracking interpreter of compiled programs.

One explicit stack holds the alternatives still to try (`resume`), the undoing of every slot or
register written, and a `barrier` per negative look-around. The linear engine never runs a pair of
instruction and position twice, which bounds its work by the size of the program times the length
of the subject; the backtracking engine instead counts the alternatives it resumes and the depth of
its stack against limits. A committed part runs as a separate linear run whose first match alone
comes back, and every run takes fuel that `Program.search` makes large enough never to run out.
-/

set_option autoImplicit false

namespace Conformance.Regex

open Conformance.Text

/-- Entries of the backtracking stack. -/
inductive Frame where
  /-- An alternative: continue at instruction `pc` and position `pos`. -/
  | resume (pc pos : Nat)
  /-- Undo a write of a capture slot. -/
  | slot (index : Nat) (old : Option Nat)
  /-- Undo a write of a register. -/
  | register (index : Nat) (old : Nat)
  /-- The body of a negative look-around failed: continue at `pc` and `pos`. -/
  | barrier (pc pos : Nat)
deriving Inhabited

/-- Whether a frame undoes a write rather than offering an alternative. -/
def Frame.isUndo : Frame → Bool
  | .slot _ _ | .register _ _ => true
  | _ => false

/-- The state of a run: capture slots, registers, the stack and how many of its frames are
alternatives or barriers, the visited pairs (a table with a byte per pair for the linear
engine, a set for a committed part) and the number of alternatives resumed so far. -/
structure Machine where
  slots : Array (Option Nat)
  registers : Array Nat
  stack : Array Frame
  branches : Nat
  visited : ByteArray
  seen : Std.HashSet Nat
  backtracks : Nat

/-- How a run treats pairs of instruction and position, and resumed alternatives. -/
inductive Mode where
  /-- The linear engine: a pair already visited, as the table records, fails at once. -/
  | linear
  /-- A committed part, run by the linear engine: a pair already visited, as the set
  records, fails at once. -/
  | committed
  /-- The backtracking engine: resumed alternatives count against the limit. -/
  | backtracking

/-- What the machine does next: run an instruction at a position, back up, enter a
committed part, or stop with a match ending at a position. -/
inductive Thread where
  | run (pc pos : Nat)
  | fail
  | enter (entry : Nat) (groups : List Nat) (next pos : Nat)
  | accept (pos : Nat)

/-- How a run ends. -/
inductive Outcome where
  /-- The program reached `matched` at the position; the slots hold the captures. -/
  | matched (pos : Nat)
  /-- Every alternative failed. -/
  | failed
  /-- The limit on backtracking, or the fuel, ran out. -/
  | exhausted
deriving BEq, Inhabited

/-- Whether an optional character is a word character, Unicode-aware or ASCII-only. -/
def wordAt (ascii : Bool) : Option Char → Bool
  | some c => if ascii then c.isAlphanum || c == '_' else isWordChar c
  | none => false

/-- Whether the assertion holds at a position of the subject. -/
def Look.holds (l : Look) (s : Array Char) (pos : Nat) : Bool :=
  let before : Option Char := if pos = 0 then none else s[pos - 1]?
  let after : Option Char := s[pos]?
  match l with
  | .textStart => pos == 0
  | .textEnd => pos == s.size
  | .lineStart => pos == 0 || before == some '\n'
  | .lineEnd => pos == s.size || after == some '\n'
  | .lineStartCrlf =>
    pos == 0 || before == some '\n' || (before == some '\r' && after != some '\n')
  | .lineEndCrlf =>
    pos == s.size || after == some '\r' || (after == some '\n' && before != some '\r')
  | .wordBoundary => wordAt false before != wordAt false after
  | .notWordBoundary => wordAt false before == wordAt false after
  | .wordStart => !wordAt false before && wordAt false after
  | .wordEnd => wordAt false before && !wordAt false after
  | .wordStartHalf => !wordAt false before
  | .wordEndHalf => !wordAt false after
  | .asciiWordBoundary => wordAt true before != wordAt true after
  | .asciiNotWordBoundary => wordAt true before == wordAt true after

/-- Whether the characters from `pos` on repeat those from `lo` to `hi`. -/
def repeatsAt (s : Array Char) (lo hi pos : Nat) : Bool :=
  hi ≤ s.size && pos + (hi - lo) ≤ s.size && go (hi - lo) 0
where
  /-- Compares the `n` characters after the first `k` of each run; both runs lie inside the
  subject, so reading with a default never uses it. -/
  go : Nat → Nat → Bool
    | 0, _ => true
    | n + 1, k => s.getD (lo + k) ' ' == s.getD (pos + k) ' ' && go n (k + 1)

/-- The most alternatives and barriers the backtracking engine keeps waiting at once, less
the one that tries the next start position, which is always waiting below them. -/
def stackLimit : Nat := 999999

namespace Machine

/-- Writes a capture slot, remembering the old value on the stack. -/
def setSlotTo (m : Machine) (i : Nat) (v : Option Nat) : Machine :=
  { m with stack := m.stack.push (.slot i (m.slots.getD i none)), slots := m.slots.set! i v }

/-- Records a position in a capture slot, remembering the old value on the stack. -/
def setSlot (m : Machine) (i : Nat) (v : Nat) : Machine := m.setSlotTo i (some v)

/-- Sets the slots of the groups to what a committed part left in `inner`, remembering the
old values on the stack. -/
def takeGroups (m : Machine) (inner : Array (Option Nat)) (groups : List Nat) : Machine :=
  groups.foldl (fun m g =>
    (m.setSlotTo (2 * g) (inner.getD (2 * g) none)).setSlotTo (2 * g + 1)
      (inner.getD (2 * g + 1) none)) m

/-- The machine that runs a committed part: the slots of its groups cleared, an empty stack
and no pair visited. -/
def committedRun (m : Machine) (groups : List Nat) : Machine :=
  { m with
    slots := groups.foldl (fun sl g => (sl.set! (2 * g) none).set! (2 * g + 1) none) m.slots
    stack := #[], branches := 0, seen := {} }

/-- Writes a register, remembering the old value on the stack. -/
def setRegister (m : Machine) (i : Nat) (v : Nat) : Machine :=
  { m with stack := m.stack.push (.register i (m.registers.getD i 0)),
           registers := m.registers.set! i v }

/-- Pops frames down to the nearest barrier, which is popped too, undoing the writes they
record; alternatives on the way are dropped. -/
def unwind : Nat → Machine → Machine
  | 0, m => m
  | n + 1, m =>
    match m.stack.back? with
    | none => m
    | some f =>
      let m := { m with stack := m.stack.pop }
      match f with
      | .barrier _ _ => { m with branches := m.branches - 1 }
      | .slot i v => unwind n { m with slots := m.slots.set! i v }
      | .register i v => unwind n { m with registers := m.registers.set! i v }
      | .resume _ _ => unwind n { m with branches := m.branches - 1 }

/-- Drops the alternatives above the given stack depth and keeps the undo frames. The
frames below the depth stay in place, so the work is that of the frames above it. -/
def cut (m : Machine) (depth : Nat) : Machine :=
  let above := m.stack.extract depth m.stack.size
  let kept := above.filter Frame.isUndo
  { m with stack := m.stack.shrink depth ++ kept, branches := m.branches - (above.size - kept.size) }

end Machine

/-- One instruction at a position: the next thread and the machine. -/
def Inst.step (s : Array Char) (pos : Nat) (m : Machine) : Inst → Thread × Machine
  | .char c next => if s[pos]? == some c then (.run next (pos + 1), m) else (.fail, m)
  | .set cs next =>
    match s[pos]? with
    | some c => if cs.contains c then (.run next (pos + 1), m) else (.fail, m)
    | none => (.fail, m)
  | .look l next => if l.holds s pos then (.run next pos, m) else (.fail, m)
  | .split first second =>
    (.run first pos, { m with stack := m.stack.push (.resume second pos), branches := m.branches + 1 })
  | .jump target => (.run target pos, m)
  | .save i next => (.run next pos, m.setSlot i pos)
  | .backref g next =>
    match m.slots.getD (2 * g) none, m.slots.getD (2 * g + 1) none with
    | some lo, some hi =>
      if lo ≤ hi && repeatsAt s lo hi pos then (.run next (pos + (hi - lo)), m) else (.fail, m)
    | _, _ => (.fail, m)
  | .defined g next =>
    if (m.slots.getD (2 * g) none).isSome then (.run next pos, m) else (.fail, m)
  | .mark r next => (.run next pos, m.setRegister r pos)
  | .progress r next => if m.registers.getD r 0 == pos then (.fail, m) else (.run next pos, m)
  | .seek r next => (.run next (m.registers.getD r 0), m)
  | .back n next => if n ≤ pos then (.run next (pos - n), m) else (.fail, m)
  | .guard body after =>
    (.run body pos, { m with stack := m.stack.push (.barrier after pos), branches := m.branches + 1 })
  | .refute => (.fail, m.unwind m.stack.size)
  | .atomicStart r next => (.run next pos, m.setRegister r m.stack.size)
  | .atomicEnd r next => (.run next pos, m.cut (m.registers.getD r 0))
  | .delegate entry groups next => (.enter entry groups next pos, m)
  | .matched => (.accept pos, m)

namespace Program

/-- Runs the program for at most `fuel` steps. The linear engine and a committed part fail
at once on a pair of instruction and position already visited; the backtracking engine is
exhausted once it resumes more than `limit` alternatives, or once more than `stackLimit`
alternatives and barriers wait on its stack. A committed part runs as a separate run of its
own. -/
def exec (p : Program) (s : Array Char) (mode : Mode) (limit : Nat) :
    Nat → Thread → Machine → Outcome × Machine
  | 0, _, m => (.exhausted, m)
  | _ + 1, .accept pos, m => (.matched pos, m)
  | fuel + 1, .fail, m =>
    match m.stack.back? with
    | none => (.failed, m)
    | some f =>
      let m := { m with stack := m.stack.pop }
      match f with
      | .resume pc pos | .barrier pc pos =>
        let m := { m with backtracks := m.backtracks + 1, branches := m.branches - 1 }
        match mode with
        | .backtracking =>
          if m.backtracks > limit then (.exhausted, m)
          else exec p s mode limit fuel (.run pc pos) m
        | _ => exec p s mode limit fuel (.run pc pos) m
      | .slot i v => exec p s mode limit fuel .fail { m with slots := m.slots.set! i v }
      | .register i v =>
        exec p s mode limit fuel .fail { m with registers := m.registers.set! i v }
  | fuel + 1, .enter entry groups next pos, m =>
    match exec p s .committed limit fuel (.run entry pos) (m.committedRun groups) with
    | (.matched stop, inner) =>
      exec p s mode limit fuel (.run next stop) (m.takeGroups inner.slots groups)
    | (.failed, _) => exec p s mode limit fuel .fail m
    | (.exhausted, _) => (.exhausted, m)
  | fuel + 1, .run pc pos, m =>
    let key := pc * (s.size + 1) + pos
    let step := fun (m : Machine) =>
      let (t, m) := (p.insts.getD pc .refute).step s pos m
      exec p s mode limit fuel t m
    match mode with
    | .linear =>
      if m.visited.get! key != 0 then exec p s mode limit fuel .fail m
      else step { m with visited := m.visited.set! key 1 }
    | .committed =>
      if m.seen.contains key then exec p s mode limit fuel .fail m
      else step { m with seen := m.seen.insert key }
    | .backtracking =>
      let (t, m) := (p.insts.getD pc .refute).step s pos m
      if m.branches > stackLimit then (.exhausted, m) else exec p s mode limit fuel t m

/-- A byte array of `n` zeros. -/
def zeros (n : Nat) : ByteArray :=
  go n (ByteArray.emptyWithCapacity n)
where
  /-- Appends `k` zeros. -/
  go : Nat → ByteArray → ByteArray
    | 0, b => b
    | k + 1, b => go k (b.push 0)

/-- Tries each start position in turn, from `start` on, for at most `count` positions, and
gives the capture slots of the first match. The visited pairs and the backtracking count
carry over from one start position to the next. The backtracking engine moves on from a
start position by resuming an alternative, one step of a lazy `.*` before the expression,
so each start position that fails counts as one resumed alternative. -/
def searchFrom (p : Program) (s : Array Char) (linear : Bool) (limit fuel : Nat) :
    Nat → Nat → Machine → Except Unit (Option (Array (Option Nat)))
  | 0, _, _ => .ok none
  | count + 1, start, m =>
    let fresh : Machine :=
      { m with slots := Array.replicate (2 * (p.groups + 1)) none,
               registers := Array.replicate p.registers 0, stack := #[], branches := 0 }
    match exec p s (if linear then .linear else .backtracking) limit fuel (.run p.start start)
        fresh with
    | (.matched _, m) => .ok (some m.slots)
    | (.exhausted, _) => .error ()
    | (.failed, m) =>
      if linear then searchFrom p s linear limit fuel count (start + 1) m
      else
        let m := { m with backtracks := m.backtracks + 1 }
        if m.backtracks > limit then .error ()
        else searchFrom p s linear limit fuel count (start + 1) m

/-- Searches the subject for the leftmost match, trying start positions from the first on;
gives the capture slots of the first match found, or an error when the backtracking limit
runs out. -/
def search (p : Program) (linear : Bool) (limit : Nat) (s : Array Char) :
    Except Unit (Option (Array (Option Nat))) :=
  let states := (p.insts.size + 1) * (s.size + 2)
  let fuel := if linear then 4 * states else (limit + 2) * 4 * states
  let m : Machine :=
    { slots := #[], registers := #[], stack := #[], branches := 0,
      visited := if linear then zeros (p.insts.size * (s.size + 1)) else ByteArray.empty,
      seen := {}, backtracks := 0 }
  searchFrom p s linear limit fuel (s.size + 1) 0 m

end Program

end Conformance.Regex
