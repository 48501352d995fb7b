import Conformance.Regex.Automaton.Builder

/-!
The states of an alternation of literals.

An alternation whose branches are all literals is compiled as a trie of their bytes, read
from the front forward and from the back in reverse, rather than as a union of chains. The
transitions of a trie node are kept in the order of their bytes, in chunks. A literal that
ends at a node closes the node's current chunk, and later transitions open a new one. This
keeps the priority of the branches: what was added before a match stays before it.

Every node with transitions becomes a union, entered first. Each of the node's non-empty
chunks becomes a byte-range state (one transition) or a state of transitions (several),
which is an alternative of the union. Each chunk after the first also adds the match as an
alternative. A transition to a node without transitions leads straight to the one final state.
-/

set_option autoImplicit false

namespace Conformance.Regex.Automaton

/-- A node of the trie: its transitions (byte, next node) in chunks, and where each closed
chunk starts and ends. -/
structure TrieNode where
  transitions : Array (Nat × Nat) := #[]
  chunks : Array (Nat × Nat) := #[]
deriving Inhabited

/-- Where the open chunk of a node starts: at the end of its last closed chunk. -/
def TrieNode.openStart (n : TrieNode) : Nat := (n.chunks.back?.map (·.2)).getD 0

/-- Records that a literal ends at the node by closing its open chunk; a node without
transitions that already ends a literal is left as it is. -/
def TrieNode.markEnd (n : TrieNode) : TrieNode :=
  if n.transitions.isEmpty && !n.chunks.isEmpty then n
  else { n with chunks := n.chunks.push (n.openStart, n.transitions.size) }

/-- The chunks of a node: the closed ones, then the open one. -/
def TrieNode.chunkSizes (n : TrieNode) : List Nat :=
  (n.chunks.toList.map fun (a, b) => b - a) ++ [n.transitions.size - n.openStart]

/-- The number of states and the bytes of lists that a node with transitions becomes: a
state per non-empty chunk and a union of them, with the final state as one more alternative
per chunk after the first. -/
def TrieNode.cost (n : TrieNode) : Nat × Nat :=
  let sizes := n.chunkSizes
  let filled := sizes.filter (· > 0)
  let lists := filled.foldl (fun n k => n + if k = 1 then 0 else 8 * k) 0
  (filled.length + 1, lists + 4 * (filled.length + (sizes.length - 1)))

/-- A trie of literals; node 0 is the root. -/
structure Trie where
  nodes : Array TrieNode := #[{}]
deriving Inhabited

/-- Follows the byte `b` from node `src` in its open chunk, adding a node when it has no such
transition; the transitions of the chunk stay in the order of their bytes. -/
def Trie.step (t : Trie) (src b : Nat) : Trie × Nat :=
  let node := t.nodes.getD src {}
  let start := node.openStart
  let chunk := node.transitions.extract start node.transitions.size
  match chunk.find? (·.1 == b) with
  | some (_, next) => (t, next)
  | none =>
    let pos := start + (chunk.filter (·.1 < b)).size
    let next := t.nodes.size
    let transitions := node.transitions.extract 0 pos ++ #[(b, next)] ++
      node.transitions.extract pos node.transitions.size
    ({ nodes := (t.nodes.setIfInBounds src { node with transitions }).push {} }, next)

/-- Adds a literal given by its bytes in the order of reading. -/
def Trie.add (t : Trie) (bytes : List Nat) : Trie :=
  let (t, last) := bytes.foldl (fun (acc : Trie × Nat) b => acc.1.step acc.2 b) (t, 0)
  { nodes := t.nodes.modify last TrieNode.markEnd }

/-- The trie of literals given by their bytes in the order of reading. -/
def Trie.ofLiterals (literals : List (List Nat)) : Trie :=
  literals.foldl Trie.add {}

/-- The states of the trie: the final state, then the states of every node with transitions. -/
def Trie.states (t : Trie) : Build Exit := do
  let _ ← addState 0
  let _ ← t.nodes.foldlM (fun (_ : Unit) (n : TrieNode) =>
    if n.transitions.isEmpty then pure () else do
      let (states, lists) := n.cost
      let _ ← addState lists
      addStates (states - 1)) ()
  pure .plain

end Conformance.Regex.Automaton
