import Conformance.Error
import Conformance.Text.WhiteSpace

/-!
Marker patterns: names a dependency must carry, and names it must not.

A marker pattern is written as terms separated by white space or commas. A term `+name` or
`name` requires the marker, `-name` forbids it. A sign alone, or a name that starts with a
second sign, is malformed.
-/

set_option autoImplicit false

namespace Conformance

open Conformance.Text

/-- Required and forbidden marker names. -/
structure MarkerPattern where
  present : List String := []
  absent : List String := []
deriving Repr, BEq, Inhabited

/-- Splits a text at every character satisfying `sep`, dropping empty pieces. -/
def splitWords (sep : Char → Bool) (s : String) : List String :=
  ((s.toList.splitBy fun a b => !sep a && !sep b).map fun w => w.filter (!sep ·)).filterMap
    fun w => if w.isEmpty then none else some (String.ofList w)

namespace MarkerPattern

/-- Reads one term into the pattern. -/
def addTerm (p : MarkerPattern) (term : String) : Except Error MarkerPattern :=
  let (required, name) := match term.toList with
    | '+' :: rest => (true, rest)
    | '-' :: rest => (false, rest)
    | cs => (true, cs)
  match name with
  | [] | '+' :: _ | '-' :: _ => .error (.invalidMarker term)
  | _ =>
    if required then .ok { p with present := p.present ++ [String.ofList name] }
    else .ok { p with absent := p.absent ++ [String.ofList name] }

/-- Reads a marker pattern. -/
def parse (text : String) : Except Error MarkerPattern :=
  (splitWords (fun c => isWhiteSpace c || c == ',') text).foldlM addTerm {}

/-- Whether a set of markers holds every required name and no forbidden one. -/
def test (p : MarkerPattern) (markers : List String) : Bool :=
  p.present.all markers.contains && !p.absent.any markers.contains

/-- Whether the pattern requires and forbids nothing. -/
def isEmpty (p : MarkerPattern) : Bool := p.present.isEmpty && p.absent.isEmpty

end MarkerPattern

end Conformance
