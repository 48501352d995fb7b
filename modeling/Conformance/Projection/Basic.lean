import Conformance.Item.Pattern
import Conformance.Projection.Template

/-!
Projections: an item pattern and a target template, for one side of dependencies or both.

A projection applies to an item on a side it serves when its pattern matches the item; it
then gives the template instantiated with the groups of the match.
-/

set_option autoImplicit false

namespace Conformance

open Conformance.Text

/-- The two ends of a dependency. -/
inductive Side where
  /-- The using end. -/
  | left
  /-- The used end. -/
  | right
deriving Repr, BEq, DecidableEq, Inhabited

/-- Reads a side: `left` or `using`, `right` or `used`, trimmed, in any ASCII case. -/
def Side.parse (s : String) : Except Error Side :=
  match asciiLower (trimWhite s) with
  | "left" | "using" => .ok .left
  | "right" | "used" => .ok .right
  | _ => .error (.invalidConfig ("unknown side \"" ++ s ++ "\", expected left or right"))

/-- The name of a side. -/
def Side.name : Side → String
  | .left => "left"
  | .right => "right"

/-- The sides a projection serves. -/
inductive ProjectionSide where
  | left | right | both
deriving Repr, BEq, DecidableEq, Inhabited

/-- Whether a projection serving these sides serves the given one. -/
def ProjectionSide.appliesTo : ProjectionSide → Side → Bool
  | .both, _ => true
  | .left, .left => true
  | .right, .right => true
  | _, _ => false

/-- A rule mapping matching items to target items. -/
structure Projection where
  pattern : ItemPattern
  target : TargetTemplate
  side : ProjectionSide := .both
deriving Inhabited

namespace Projection

/-- The target item for an item on a side, when the projection applies. -/
def apply (p : Projection) (x : Item) (s : Side) : Option Item :=
  if !p.side.appliesTo s then none
  else
    let r := p.pattern.test x false []
    if r.success then some (p.target.instantiate r.groups) else none

/-- The pattern text, an arrow, and the template text. -/
def display (p : Projection) : String := p.pattern.text ++ " ---> " ++ p.target.text

end Projection

end Conformance
