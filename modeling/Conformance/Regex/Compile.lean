import Conformance.Regex.Parse.Standard
import Conformance.Regex.Parse.Linear
import Conformance.Regex.Machine

/-!
Compiled regular expressions and their captures.

A pattern is read in the standard dialect first and runs on the linear engine. A pattern
the standard dialect rejects is read in the extended dialect, which adds back-references,
look-around, atomic groups and a few relaxed spellings. What it reads that needs none of
these still runs on the linear engine; the rest runs on the backtracking engine, under a
limit of a million resumed alternatives. A pattern both dialects reject does not compile.

Whatever runs on the linear engine must also compile into automata within the size limit
(see `Automaton.Size`). A pattern of the standard dialect whose automata are too large is
read again in the extended dialect, and fails there too unless that dialect hands the linear
engine smaller parts.
-/

set_option autoImplicit false

namespace Conformance.Regex

/-- A compiled regular expression. -/
structure Compiled where
  /-- The pattern text. -/
  source : String
  /-- The compiled program. -/
  program : Program
  /-- The number of capture groups, the whole match not counted. -/
  groups : Nat
  /-- Whether the backtracking engine runs the program. -/
  backtracking : Bool
deriving Inhabited

/-- The number of alternatives the backtracking engine may resume in one search. -/
def backtrackLimit : Nat := 1000000

/-- Compiles a pattern, or gives the reason the extended dialect rejects it. -/
def compile (pattern : String) : Except String Compiled :=
  match Standard.parse pattern with
  | .ok r =>
    if Automaton.fits r.shape then
      .ok ⟨pattern, Program.ofNode r.node r.groups true, r.groups, false⟩
    else extended
  | .error _ => extended
where
  /-- Compiles the pattern in the extended dialect. -/
  extended : Except String Compiled :=
    match Extended.parse pattern with
    | .ok r =>
      if r.linearAccepts then
        .ok ⟨pattern, Program.ofNode r.node r.groups !r.hard, r.groups, r.hard⟩
      else .error "the linear engine rejects a part of the pattern"
    | .error e => .error e

/-- The text between two positions of a subject. -/
def slice (s : Array Char) (lo hi : Nat) : String :=
  String.ofList (s.extract lo hi).toList

namespace Compiled

/-- The captures of the leftmost match in the subject: for each group from 1 on, the text it
matched, or `none` if it took no part. `none` when nothing matches; an error when the
backtracking limit runs out. -/
def captures (r : Compiled) (subject : String) : Except Unit (Option (Array (Option String))) :=
  let s := subject.toList.toArray
  match r.program.search (!r.backtracking) backtrackLimit s with
  | .error () => .error ()
  | .ok none => .ok none
  | .ok (some slots) =>
    .ok (some ((Array.range r.groups).map fun i =>
      match slots.getD (2 * (i + 1)) none, slots.getD (2 * (i + 1) + 1) none with
      | some lo, some hi => some (slice s lo hi)
      | _, _ => none))

end Compiled

end Conformance.Regex
