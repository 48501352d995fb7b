/-!
Counting the memory of an automaton while it is built.

Every state takes 32 bytes, 8 more per byte transition and 4 more per alternative of a union. The
build fails as soon as the memory exceeds 10 MiB; memory never shrinks, so failing at the first
excess is failing at the end. Only the number of states and the memory are kept, the states still
numbered in the order they are added, since the class compilers hash those numbers.
-/

set_option autoImplicit false

namespace Conformance.Regex.Automaton

/-- The running totals of an automaton under construction. -/
structure Tally where
  /-- The number of states added so far, which is also the number of the next one. -/
  states : Nat := 0
  /-- The bytes held by the lists of transitions and alternatives of the states. -/
  lists : Nat := 0
deriving Inhabited

/-- The bytes of one state without its lists. -/
def stateBytes : Nat := 32

/-- The memory of the states so far. -/
def Tally.memory (t : Tally) : Nat := stateBytes * t.states + t.lists

/-- The most memory an automaton may take: 10 MiB. -/
def sizeLimit : Nat := 10 * 1024 * 1024

/-- A build step: it updates the totals, or fails once the memory is over the limit. -/
abbrev Build := StateT Tally (Except Unit)

/-- Fails when the memory is over the limit. -/
def checkLimit : Build Unit := do
  if (← get).memory > sizeLimit then throw ()

/-- Adds a state whose lists hold `lists` bytes; gives its number. -/
def addState (lists : Nat) : Build Nat := do
  let t ← get
  set ({ states := t.states + 1, lists := t.lists + lists } : Tally)
  checkLimit
  pure t.states

/-- Adds `n` states without lists. -/
def addStates : Nat → Build Unit
  | 0 => pure ()
  | n + 1 => do
    let _ ← addState 0
    addStates n

/-- Adds an alternative to a union: 4 bytes. -/
def addAlternative : Build Unit := do
  modify fun t => { t with lists := t.lists + 4 }
  checkLimit

/-- How a fragment of the automaton ends. -/
inductive Exit where
  /-- At a state with one successor, which linking sets. -/
  | plain
  /-- At a union, which linking gives one more alternative. -/
  | union
deriving BEq, Inhabited

/-- Links the end of a fragment to its successor. -/
def link : Exit → Build Unit
  | .plain => pure ()
  | .union => addAlternative

/-- Runs a build from no states; whether it stays within the limit. -/
def Build.fits (b : Build Unit) : Bool :=
  match b.run {} with
  | .ok _ => true
  | .error _ => false

end Conformance.Regex.Automaton
