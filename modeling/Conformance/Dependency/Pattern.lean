import Conformance.Dependency.Count
import Conformance.Dependency.Marker
import Conformance.Item.Pattern

/-!
Dependency patterns: an item pattern for each end of a dependency, a marker pattern and
count constraints.

The used pattern is compiled after the using pattern, with room for the using pattern's
groups after the external ones: its back-references can refer to what the using side
captured. A dependency matches when every count constraint holds, the markers match, the
using item matches, and the used item matches given the external groups followed by the
using groups. The groups of a match are the using groups followed by the used groups.
-/

set_option autoImplicit false

namespace Conformance

/-- A compiled dependency pattern. -/
structure DependencyPattern where
  usingPattern : ItemPattern
  usedPattern : ItemPattern
  markers : MarkerPattern := {}
  counts : List CountConstraint := []
  external : Nat
deriving Inhabited

namespace DependencyPattern

/-- Compiles the two item patterns of a dependency pattern. -/
def compile (usingText usedText : String) (o : PatternOptions) : Build DependencyPattern := do
  let u ← ItemPattern.compile usingText o
  let v ← ItemPattern.compile usedText { o with external := o.external + u.groupCount }
  pure { usingPattern := u, usedPattern := v, external := o.external }

/-- Matches a dependency, given the captures of an earlier match. -/
def test (p : DependencyPattern) (d : Dependency) (ext : List String) : MatchResult :=
  if !(p.counts.all fun c => c.holds d) || !p.markers.test d.markers then .miss
  else
    let u := p.usingPattern.test d.usingItem false ext
    if !u.success then .miss
    else
      let visible := ItemPattern.visibleGroups p.external ext ++ u.groups
      let v := p.usedPattern.test d.usedItem false visible
      if !v.success then .miss else .hit (u.groups ++ v.groups)

end DependencyPattern

end Conformance
