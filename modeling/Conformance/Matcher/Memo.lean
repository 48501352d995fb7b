import Conformance.Matcher.Basic

/-!
Remembered outcomes of regular-expression matchers.

A memo keeps two containers: a hash map from subjects to outcomes, and the same subjects in the
order they were first remembered. It holds at most `capacity` subjects (and room for one at
least): when a new subject finds it full, the oldest quarter of the capacity (at least one, at
most all) is dropped from both first. A subject already remembered gets its new outcome in place
and keeps its age. A memo only saves work; the result of a match is the same with or without it.
-/

set_option autoImplicit false

namespace Conformance

/-- The number of subjects a memo holds by default. -/
def memoCapacity : Nat := 1000

/-- Outcomes remembered per subject, and the remembered subjects oldest first. -/
structure Memo where
  capacity : Nat := memoCapacity
  entries : Std.HashMap String Outcome := ∅
  order : List String := []
deriving Inhabited

namespace Memo

/-- The most subjects a memo holds: its capacity, and at least one. -/
def bound (m : Memo) : Nat := Nat.max m.capacity 1

/-- How many of the oldest subjects a full memo drops for a new one: a quarter of its bound,
and at least one. -/
def batch (m : Memo) : Nat := Nat.max (m.bound / 4) 1

/-- The number of remembered subjects. -/
def size (m : Memo) : Nat := m.entries.size

/-- The remembered outcome of a subject. -/
def find? (m : Memo) (subject : String) : Option Outcome := m.entries[subject]?

/-- Drops the oldest `batch` subjects, or all of them when there are fewer, from both
containers. -/
def evictOldest (m : Memo) : Memo :=
  let n := Nat.min m.batch m.order.length
  { m with entries := (m.order.take n).foldl (fun e s => e.erase s) m.entries,
           order := m.order.drop n }

/-- Remembers an outcome. A subject already present gets the new outcome in place;
otherwise a full memo first drops its oldest subjects, and the new one goes last. -/
def insert (m : Memo) (subject : String) (o : Outcome) : Memo :=
  if m.entries.contains subject then
    { m with entries := m.entries.insert subject o }
  else
    let m := if m.entries.size ≥ m.bound then m.evictOldest else m
    { m with entries := m.entries.insert subject o, order := m.order ++ [subject] }

end Memo

namespace Matcher

/-- Matches a value through the memo: a remembered subject gives its outcome, a new one is
evaluated and remembered. A failed evaluation is a miss and is not remembered. Only
memoized regular-expression matchers use the memo. -/
def testMemo (m : Matcher) (memo : Memo) (value : String) (ext : List String) :
    MatchResult × Memo :=
  match m with
  | .regex r =>
    if r.memoized then
      let subject := r.subject value ext
      match memo.find? subject with
      | some o => (o.toResult, memo)
      | none =>
        match r.evaluate subject with
        | .ok o => (o.toResult, memo.insert subject o)
        | .error () => (.miss, memo)
    else (r.test value ext, memo)
  | _ => (m.test value ext, memo)

end Matcher

end Conformance
