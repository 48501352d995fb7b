import Conformance.Projection.Basic

/-!
The simple projector: the first of its candidate projections that applies wins.

Candidates are indices into a shared list of projections, in increasing order. The cost of
a candidate list estimates the work of a scan: the candidate at rank `r` (from 1) costs
`r / (1 + hits)`, where `hits` counts how often it was the projection that applied.
-/

set_option autoImplicit false

namespace Conformance

/-- A first-match scan over some projections of a shared list. -/
structure SimpleProjector where
  projections : Array Projection
  /-- Indices of the projections scanned, in increasing order. -/
  candidates : List Nat
deriving Inhabited

namespace SimpleProjector

/-- The scan over every projection of the list. -/
def ofProjections (ps : Array Projection) : SimpleProjector := ⟨ps, List.range ps.size⟩

/-- The first candidate that applies to the item on the side, with its target item. -/
def find (s : SimpleProjector) (x : Item) (side : Side) : Option (Nat × Item) :=
  s.candidates.findSome? fun i =>
    match s.projections[i]? with
    | some p => (p.apply x side).map fun y => (i, y)
    | none => none

/-- The target item of the first candidate that applies. -/
def project (s : SimpleProjector) (x : Item) (side : Side) : Option Item :=
  (s.find x side).map (·.2)

/-- The expected work of a scan, given how often each projection applied. -/
def cost (s : SimpleProjector) (hits : Array Float) : Float :=
  ((List.range s.candidates.length).zip s.candidates).foldl
    (fun acc (rank, i) => acc + (rank + 1).toFloat / (1 + hits.getD i 0)) 0

end SimpleProjector

end Conformance
