import Conformance.Regex.CharSet
import Conformance.Regex.Automaton.Builder
import Conformance.Regex.Automaton.Utf8

/-!
The states of a character class.

A class of ASCII characters is one state with a transition per range. Any other class is matched
through the byte sequences of its ranges (see `Utf8`): forward they are merged into a trie whose
finished nodes are shared through a table of 10000 slots, and in reverse each becomes a chain of
byte-range states whose links are shared through a table of 1000 slots. Both tables hash state
numbers with FNV-1a, so the number of states a class gets depends on where it is built.
-/

set_option autoImplicit false

namespace Conformance.Regex.Automaton

/-- A transition: the first and last byte it reads, and the state it goes to. -/
abbrev Transition := Nat × Nat × Nat

/-- The prime of 64-bit FNV-1a. -/
def fnvPrime : UInt64 := 1099511628211

/-- The offset basis of 64-bit FNV-1a. -/
def fnvBasis : UInt64 := 14695981039346656037

/-- Mixes one number into an FNV-1a hash. -/
def fnvMix (h : UInt64) (x : Nat) : UInt64 := (h ^^^ x.toUInt64) * fnvPrime

/-- The slots of the forward table. -/
def forwardSlots : Nat := 10000

/-- The slots of the reverse table. -/
def reverseSlots : Nat := 1000

/-- The slot of a list of transitions in the forward table. -/
def transitionsSlot (key : Array Transition) : Nat :=
  (key.foldl (fun h (t : Transition) => fnvMix (fnvMix (fnvMix h t.1) t.2.1) t.2.2)
    fnvBasis).toNat % forwardSlots

/-- The slot of a link to a byte range in the reverse table. -/
def linkSlot (target lo hi : Nat) : Nat :=
  (fnvMix (fnvMix (fnvMix fnvBasis target) lo) hi).toNat % reverseSlots

/-- A node of the forward trie that is not yet a state: its transitions, and the range of its
last transition while the node it leads to is still open. -/
structure Pending where
  transitions : Array Transition := #[]
  last : Option (Nat × Nat) := none
deriving Inhabited

/-- Closes the last transition of a node, leading to state `next`. -/
def Pending.close (p : Pending) (next : Nat) : Pending :=
  match p.last with
  | some (lo, hi) => { transitions := p.transitions.push (lo, hi, next), last := none }
  | none => p

/-- The forward compiler of one class: the state every sequence ends at, the table of states
made so far, and the open nodes of the trie, the deepest first. -/
structure Forward where
  target : Nat
  table : Array (Option (Array Transition × Nat))
  pending : List Pending

/-- The state of a node with the given transitions: the one in the table if it has the same
transitions, otherwise a new one, which takes the slot. -/
def Forward.stateOf (f : Forward) (key : Array Transition) : Build (Forward × Nat) := do
  let slot := transitionsSlot key
  match f.table.getD slot none with
  | some (k, id) => if k == key then return (f, id)
  | none => pure ()
  let id ← addState (8 * key.size)
  pure ({ f with table := f.table.setIfInBounds slot (some (key, id)) }, id)

/-- Turns the open nodes below the first `keep + 1` (counting from the root) into states,
deepest first, each leading to the one before; the node left on top then leads to the last
state made. -/
def Forward.closeFrom (f : Forward) (keep : Nat) : Build Forward :=
  go f f.pending f.target
where
  /-- Closes `nodes`, the deepest first, with `next` the state the deepest one leads to. -/
  go (f : Forward) : List Pending → Nat → Build Forward
    | top :: below, next =>
      if below.length > keep then do
        let (f, id) ← f.stateOf (top.close next).transitions
        go f below id
      else pure { f with pending := top.close next :: below }
    | [], _ => pure { f with pending := [] }

/-- The number of leading ranges of a sequence that the open nodes, from the root, already
have as their last transitions. -/
def sharedRanges : List Pending → List (Nat × Nat) → Nat
  | p :: ps, r :: rs => if p.last == some r then sharedRanges ps rs + 1 else 0
  | _, _ => 0

/-- Adds a sequence, which comes after every sequence added before it. -/
def Forward.add (f : Forward) (seq : List (Nat × Nat)) : Build Forward := do
  let shared := sharedRanges f.pending.reverse seq
  let f ← f.closeFrom shared
  match seq.drop shared, f.pending with
  | r :: rest, top :: below =>
    let fresh := rest.reverse.map fun r => ({ last := some r } : Pending)
    pure { f with pending := fresh ++ { top with last := some r } :: below }
  | _, _ => pure f

/-- Closes every node, the root last. -/
def Forward.finish (f : Forward) : Build Unit := do
  let f ← f.closeFrom 0
  match f.pending with
  | root :: _ =>
    let _ ← f.stateOf root.transitions
    pure ()
  | [] => pure ()

/-- The states of a class read forward. -/
def forwardClass (s : CharSet) : Build Exit := do
  let target ← addState 0
  let start : Forward := { target, table := Array.replicate forwardSlots none, pending := [{}] }
  let f ← s.ranges.foldlM (fun f (r : Nat × Nat) => (sequences r.1 r.2).foldlM Forward.add f)
    start
  f.finish
  pure .plain

/-- The reverse table: links from a state to a byte range, with the state of the range. -/
abbrev Links := Array (Option ((Nat × Nat × Nat) × Nat))

/-- The state that reads `lo`–`hi` and then goes to `target`: the one in the table, otherwise
a new one, which takes the slot. -/
def rangeTo (table : Links) (target lo hi : Nat) : Build (Links × Nat) := do
  let slot := linkSlot target lo hi
  match table.getD slot none with
  | some (k, id) => if k == (target, lo, hi) then return (table, id)
  | none => pure ()
  let id ← addState 0
  pure (table.setIfInBounds slot (some ((target, lo, hi), id)), id)

/-- Adds the chain of a sequence, from its first byte range back, and its alternative in the
union. -/
def chainOf (stop : Nat) (table : Links) (seq : List (Nat × Nat)) : Build Links := do
  let (table, _) ← seq.foldlM (fun (acc : Links × Nat) (r : Nat × Nat) =>
    rangeTo acc.1 acc.2 r.1 r.2) (table, stop)
  addAlternative
  pure table

/-- The states of a class read in reverse. -/
def reverseClass (s : CharSet) : Build Exit := do
  let _ ← addState 0
  let stop ← addState 0
  let _ ← s.ranges.foldlM (fun table (r : Nat × Nat) =>
    (sequences r.1 r.2).foldlM (chainOf stop) table) (Array.replicate reverseSlots none : Links)
  pure .plain

/-- The states of a class: one state of ranges for ASCII, otherwise by its byte sequences in
the direction of reading. -/
def classStates (reverse : Bool) (s : CharSet) : Build Exit :=
  if s.ranges.all (·.2 ≤ 0x7F) then do
    let _ ← addState 0
    let _ ← addState (8 * s.ranges.size)
    pure .plain
  else if reverse then reverseClass s
  else forwardClass s

end Conformance.Regex.Automaton
