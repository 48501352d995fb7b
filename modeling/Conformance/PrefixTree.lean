/-!
Radix trees keyed by text.

Every node has an edge label, an optional value and children indexed by the first
character of their edge. The path of a node is the concatenation of the edges from the
root down to it; a key is stored at the node whose path is the key. Inserting a key that
leaves an edge part-way splits that edge at the last common character. Edges are lists of
characters, so a split never falls inside a character.

`findLongestPrefix` walks down from the root while whole edges match the query and gives
the value of the deepest node passed that holds one: the value of the longest stored key
that is a prefix of the query. Children are kept sorted by their first character, which
fixes the order in which `values` lists the values: a node before its children, children
in character order.
-/

set_option autoImplicit false

namespace Conformance

/-- A node of a radix tree. -/
inductive RadixNode (α : Type) where
  | node (edge : List Char) (value : Option α) (children : List (Char × RadixNode α))
deriving Inhabited

/-- A radix tree with the number of keys it holds. -/
structure PrefixTree (α : Type) where
  root : RadixNode α := .node [] none []
  size : Nat := 0
deriving Inhabited

namespace RadixNode

variable {α : Type}

/-- The edge label of a node. -/
def edge : RadixNode α → List Char
  | .node e _ _ => e

/-- The value of a node. -/
def value : RadixNode α → Option α
  | .node _ v _ => v

/-- The children of a node. -/
def children : RadixNode α → List (Char × RadixNode α)
  | .node _ _ cs => cs

/-- A node without children. -/
def leaf (edge : List Char) (v : α) : RadixNode α := .node edge (some v) []

/-- The number of leading characters two lists share. -/
def commonPrefix : List Char → List Char → Nat
  | a :: as, b :: bs => if a == b then commonPrefix as bs + 1 else 0
  | _, _ => 0

/-- Adds a child, keeping the children sorted by their first character. -/
def addChild (c : Char) (n : RadixNode α) :
    List (Char × RadixNode α) → List (Char × RadixNode α)
  | [] => [(c, n)]
  | (d, m) :: rest => if c < d then (c, n) :: (d, m) :: rest else (d, m) :: addChild c n rest

/-- Replaces the child under a character. -/
def setChild (c : Char) (n : RadixNode α) (cs : List (Char × RadixNode α)) :
    List (Char × RadixNode α) :=
  cs.map fun (d, m) => if d == c then (c, n) else (d, m)

/-- Inserts a value under the rest of a key below this node; gives the new node and the
value the key held before. -/
def insert (n : RadixNode α) (key : List Char) (v : α) : RadixNode α × Option α :=
  match key with
  | [] => (.node n.edge (some v) n.children, n.value)
  | c :: tail =>
    match n.children.lookup c with
    | none => (.node n.edge n.value (addChild c (leaf (c :: tail) v) n.children), none)
    | some child =>
      let common := commonPrefix (c :: tail) child.edge
      if _h : 0 < common then
        if common = child.edge.length then
          let (child', old) := child.insert ((c :: tail).drop common) v
          (.node n.edge n.value (setChild c child' n.children), old)
        else
          -- split the child's edge after the common characters
          let lower : RadixNode α := .node (child.edge.drop common) child.value child.children
          let rest := (c :: tail).drop common
          let lowerChildren := match lower.edge with
            | d :: _ => [(d, lower)]
            | [] => []
          let upper : RadixNode α := match rest with
            | [] => .node ((c :: tail).take common) (some v) lowerChildren
            | d :: _ =>
              .node ((c :: tail).take common) none (addChild d (leaf rest v) lowerChildren)
          (.node n.edge n.value (setChild c upper n.children), none)
      else (.node n.edge n.value (setChild c (leaf (c :: tail) v) n.children), none)
termination_by key.length
decreasing_by
  simp_wf
  omega

/-- The value stored under the rest of a key below this node. -/
def get? (n : RadixNode α) (key : List Char) : Option α :=
  match key with
  | [] => n.value
  | c :: tail =>
    match n.children.lookup c with
    | none => none
    | some child =>
      if _h : child.edge ≠ [] ∧ child.edge.isPrefixOf (c :: tail) then
        child.get? ((c :: tail).drop child.edge.length)
      else none
termination_by key.length
decreasing_by
  simp_wf
  have : child.edge.length ≠ 0 := by simp [_h.1]
  omega

/-- The value of the deepest node on the path of the query that holds one, starting from
`best`, the deepest such value above this node. -/
def longest (n : RadixNode α) (key : List Char) (best : Option α) : Option α :=
  match key with
  | [] => best
  | c :: tail =>
    match n.children.lookup c with
    | none => best
    | some child =>
      if _h : child.edge ≠ [] ∧ child.edge.isPrefixOf (c :: tail) then
        child.longest ((c :: tail).drop child.edge.length) (child.value.or best)
      else best
termination_by key.length
decreasing_by
  simp_wf
  have : child.edge.length ≠ 0 := by simp [_h.1]
  omega

mutual

/-- The values of a node and its descendants, the node first, children in order. -/
def values : RadixNode α → List α
  | .node _ v cs => v.toList ++ valuesOf cs

/-- The values below a list of children, in order. -/
def valuesOf : List (Char × RadixNode α) → List α
  | [] => []
  | (_, n) :: rest => values n ++ valuesOf rest

end

end RadixNode

namespace PrefixTree

variable {α : Type}

/-- The empty tree. -/
def empty : PrefixTree α := {}

/-- Stores a value under a key; gives the new tree and the value the key held before. -/
def insert (t : PrefixTree α) (key : String) (v : α) : PrefixTree α × Option α :=
  let (root, old) := t.root.insert key.toList v
  ({ root, size := if old.isSome then t.size else t.size + 1 }, old)

/-- The value stored under a key. -/
def get? (t : PrefixTree α) (key : String) : Option α := t.root.get? key.toList

/-- The value of the longest stored key that is a prefix of the query. -/
def findLongestPrefix (t : PrefixTree α) (key : String) : Option α :=
  t.root.longest key.toList t.root.value

/-- Every stored value once. -/
def values (t : PrefixTree α) : List α := t.root.values

/-- The number of stored keys. -/
def len (t : PrefixTree α) : Nat := t.size

/-- Whether no key is stored. -/
def isEmpty (t : PrefixTree α) : Bool := t.size == 0

end PrefixTree

end Conformance
