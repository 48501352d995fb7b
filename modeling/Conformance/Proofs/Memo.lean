import Conformance.Matcher.Memo

/-!
A memo only saves work: a memoised matcher answers every call as the same matcher without its
memo, whatever calls came before. An insertion gives its subject the new outcome and leaves every
other subject its old one, or none when it was evicted (`Memo.find?_insert`), so one invariant
carries the argument, `Memo.Faithful`: every remembered outcome is the one the expression gives
its subject afresh.
-/

set_option autoImplicit false
set_option relaxedAutoImplicit false

namespace Conformance

namespace Memo

variable {m : Memo} {s x : String} {o : Outcome}

theorem getElem?_insert_eq (e : Std.HashMap String Outcome) :
    (e.insert s o)[x]? = if x = s then some o else e[x]? := by
  rw [Std.HashMap.getElem?_insert]
  by_cases h : x = s
  · simp [h]
  · simp [h, Ne.symm h]

theorem getElem?_foldl_erase (ks : List String) (e : Std.HashMap String Outcome) (x : String) :
    (ks.foldl (fun e k => e.erase k) e)[x]? = if x ∈ ks then none else e[x]? := by
  induction ks generalizing e with
  | nil => simp
  | cons k ks ih =>
    rw [List.foldl_cons, ih, Std.HashMap.getElem?_erase]
    by_cases hk : k = x
    · simp [hk]
    · simp [hk, Ne.symm hk]

theorem find?_evictOldest :
    m.evictOldest.find? x =
      if x ∈ m.order.take (min m.batch m.order.length) then none else m.find? x :=
  getElem?_foldl_erase _ _ x

@[simp] theorem find?_fresh (capacity : Nat) : ({ capacity } : Memo).find? x = none :=
  Std.HashMap.getElem?_empty

theorem contains_eq_false (hs : s ∉ m.entries) : m.entries.contains s = false := by
  simpa [Std.HashMap.contains_iff_mem] using hs

theorem insert_of_mem (hs : s ∈ m.entries) :
    m.insert s o = { m with entries := m.entries.insert s o } := by
  simp [insert, Std.HashMap.contains_iff_mem.mpr hs]

theorem insert_of_full (hs : s ∉ m.entries) (hfull : m.bound ≤ m.size) :
    m.insert s o =
      { m.evictOldest with
        entries := m.evictOldest.entries.insert s o
        order := m.evictOldest.order ++ [s] } := by
  have hfull' : m.entries.size ≥ m.bound := hfull
  simp only [insert, contains_eq_false hs, Bool.false_eq_true, if_false, if_pos hfull']

theorem insert_of_room (hs : s ∉ m.entries) (hroom : ¬m.bound ≤ m.size) :
    m.insert s o = { m with entries := m.entries.insert s o, order := m.order ++ [s] } := by
  have hroom' : ¬m.entries.size ≥ m.bound := hroom
  simp only [insert, contains_eq_false hs, Bool.false_eq_true, if_false, if_neg hroom']

@[simp] theorem capacity_insert : (m.insert s o).capacity = m.capacity := by
  by_cases hs : s ∈ m.entries
  · rw [insert_of_mem hs]
  · by_cases hfull : m.bound ≤ m.size
    · rw [insert_of_full hs hfull]
      rfl
    · rw [insert_of_room hs hfull]

theorem order_insert : (m.insert s o).order =
    if s ∈ m.entries then m.order
    else (if m.bound ≤ m.size then m.order.drop (min m.batch m.order.length) else m.order) ++
      [s] := by
  by_cases hs : s ∈ m.entries
  · rw [insert_of_mem hs, if_pos hs]
  · rw [if_neg hs]
    by_cases hfull : m.bound ≤ m.size
    · rw [insert_of_full hs hfull, if_pos hfull]
      rfl
    · rw [insert_of_room hs hfull, if_neg hfull]

/-- An insertion gives its subject the new outcome; every other subject keeps its outcome, unless
it was among the oldest subjects a full memo dropped for a new one. -/
theorem find?_insert : (m.insert s o).find? x =
    if x = s then some o
    else if s ∉ m.entries ∧ m.bound ≤ m.size ∧ x ∈ m.order.take (min m.batch m.order.length)
      then none
    else m.find? x := by
  by_cases hs : s ∈ m.entries
  · rw [insert_of_mem hs]
    simp [find?, getElem?_insert_eq, hs]
  · by_cases hfull : m.bound ≤ m.size
    · have hev := find?_evictOldest (m := m) (x := x)
      rw [insert_of_full hs hfull]
      simp only [find?] at hev ⊢
      rw [getElem?_insert_eq, hev]
      simp [hs, hfull]
    · rw [insert_of_room hs hfull]
      simp [find?, getElem?_insert_eq, hs, hfull]

/-- Every remembered outcome is the one the expression gives its subject afresh. -/
def Faithful (r : RegexMatcher) (memo : Memo) : Prop :=
  ∀ s o, memo.find? s = some o → r.evaluate s = .ok o

variable {r : RegexMatcher} {memo : Memo} {subject : String}

theorem faithful_fresh (capacity : Nat) : Faithful r { capacity } := by
  intro s o h
  simp at h

theorem Faithful.insert (h : Faithful r memo) (ho : r.evaluate subject = .ok o) :
    Faithful r (memo.insert subject o) := by
  intro x v hx
  rw [find?_insert] at hx
  split at hx
  · rename_i hxs
    cases hx
    rw [hxs]
    exact ho
  · split at hx
    · cases hx
    · exact h x v hx

end Memo

namespace Matcher

/-- Matches values one after another through one memo; gives the answers in order and the
memo left behind. -/
def testAll (m : Matcher) (memo : Memo) : List (String × List String) → List MatchResult × Memo
  | [] => ([], memo)
  | (value, ext) :: rest =>
    let (r, memo) := m.testMemo memo value ext
    let (rs, memo) := m.testAll memo rest
    (r :: rs, memo)

/-- The memos a matcher can be left with: for a regular-expression matcher a faithful one;
the other matchers never read their memo. -/
def MemoFaithful : Matcher → Memo → Prop
  | .regex r, memo => memo.Faithful r
  | _, _ => True

theorem memoFaithful_fresh (m : Matcher) (capacity : Nat) : m.MemoFaithful { capacity } := by
  cases m with
  | regex r => exact Memo.faithful_fresh capacity
  | _ => trivial

/-- Dropping the memo changes no answer of the memo-free path. -/
@[simp] theorem test_withoutMemo (m : Matcher) (value : String) (ext : List String) :
    m.withoutMemo.test value ext = m.test value ext := by
  cases m <;> rfl

theorem RegexMatcher.testMemo_faithful (r : RegexMatcher) (memo : Memo) (value : String)
    (ext : List String) (h : memo.Faithful r) :
    ((Matcher.regex r).testMemo memo value ext).1 = r.test value ext ∧
      ((Matcher.regex r).testMemo memo value ext).2.Faithful r := by
  simp only [testMemo]
  split
  · split
    · rename_i o hfind
      have he := h _ _ hfind
      refine ⟨?_, h⟩
      simp only [RegexMatcher.test, he]
    · cases he : r.evaluate (r.subject value ext) with
      | error e =>
        refine ⟨?_, h⟩
        simp only [RegexMatcher.test, he]
      | ok o =>
        refine ⟨?_, h.insert he⟩
        simp only [RegexMatcher.test, he]
  · exact ⟨rfl, h⟩

theorem testMemo_faithful (m : Matcher) (memo : Memo) (value : String) (ext : List String)
    (h : m.MemoFaithful memo) :
    (m.testMemo memo value ext).1 = m.test value ext ∧
      m.MemoFaithful (m.testMemo memo value ext).2 := by
  cases m with
  | regex r => exact RegexMatcher.testMemo_faithful r memo value ext h
  | _ => exact ⟨rfl, h⟩

/-- A run from a faithful memo answers every call as the memo-free path, and leaves a
faithful memo. -/
theorem testAll_faithful (m : Matcher) (calls : List (String × List String)) :
    ∀ memo : Memo, m.MemoFaithful memo →
      (m.testAll memo calls).1 = calls.map (fun c => m.test c.1 c.2) ∧
        m.MemoFaithful (m.testAll memo calls).2 := by
  induction calls with
  | nil => intro memo h; exact ⟨rfl, h⟩
  | cons c rest ih =>
    intro memo h
    obtain ⟨value, ext⟩ := c
    obtain ⟨hr, hmemo⟩ := testMemo_faithful m memo value ext h
    obtain ⟨hrest, hlast⟩ := ih _ hmemo
    simp only [testAll, List.map_cons]
    exact ⟨by rw [hr, hrest], hlast⟩

/-- The memo is invisible. Start a matcher with a fresh memo of any capacity, make any calls
at all; every later call, through the memo those calls left behind, answers exactly what
the same call answers on the matcher without its memo. -/
theorem testAll_eq_withoutMemo (m : Matcher) (capacity : Nat)
    (before calls : List (String × List String)) :
    (m.testAll (m.testAll { capacity } before).2 calls).1 =
      calls.map fun c => m.withoutMemo.test c.1 c.2 := by
  have hbefore := (testAll_faithful m before { capacity } (memoFaithful_fresh m capacity)).2
  rw [(testAll_faithful m calls _ hbefore).1]
  simp only [test_withoutMemo]

end Matcher

end Conformance
