import Conformance.Item.Basic

/-!
Dependencies: a using item, a used item, a set of marker names and three counters.

The counters are 64-bit unsigned counts: how often the dependency occurs (`ct`, one by
default), how often questionably, and how often badly.
-/

set_option autoImplicit false

namespace Conformance

/-- A dependency of one item on another. -/
structure Dependency where
  usingItem : Item
  usedItem : Item
  /-- Marker names; only membership matters. -/
  markers : List String := []
  ct : Nat := 1
  questionableCt : Nat := 0
  badCt : Nat := 0
deriving Repr, Inhabited

/-- The using item, an arrow, and the used item. -/
def Dependency.display (d : Dependency) : String :=
  d.usingItem.display ++ " -> " ++ d.usedItem.display

end Conformance
