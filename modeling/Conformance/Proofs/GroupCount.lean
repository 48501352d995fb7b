import Conformance.Proofs.PatternCompile

/-!
A match reports as many groups as its pattern declares. Matching an item field by field is the
list of calls `ItemPattern.fieldCalls` records, up to the first failure, each field's matcher
handed the groups the run started from followed by what the fields before it returned. A pattern
compiled in a reachable registry has aligned counts, so a regular expression is handed exactly
as many groups as its external block, and a dependency pattern's used side is handed the
external groups followed by the using groups.
-/

set_option autoImplicit false
set_option relaxedAutoImplicit false

namespace Conformance

namespace RegexMatcher

theorem test_miss_or_hit (r : RegexMatcher) (value : String) (ext : List String) :
    r.test value ext = .miss ∨ ∃ gs, r.test value ext = .hit gs ∧ gs.length = r.own := by
  unfold test evaluate
  split
  · rename_i o ho
    split at ho
    · cases ho
    · cases ho
      exact .inl rfl
    · cases ho
      exact .inr ⟨_, rfl, by simp⟩
  · exact .inl rfl

end RegexMatcher

namespace Matcher

theorem test_miss_or_hit (m : Matcher) (value : String) (ext : List String) :
    m.test value ext = .miss ∨ ∃ gs, m.test value ext = .hit gs ∧ gs.length = m.groupCount := by
  cases m with
  | regex r => exact r.test_miss_or_hit value ext
  | _ =>
    simp only [test]
    split
    · exact .inr ⟨_, rfl, List.length_replicate⟩
    · exact .inl rfl

theorem test_groups_length {m : Matcher} {value : String} {ext : List String}
    (h : (m.test value ext).success = true) : (m.test value ext).groups.length = m.groupCount := by
  rcases m.test_miss_or_hit value ext with hm | ⟨gs, hm, hlen⟩
  · rw [hm] at h
    cases h
  · rw [hm]
    exact hlen

theorem test_groups_of_miss {m : Matcher} {value : String} {ext : List String}
    (h : (m.test value ext).success = false) : (m.test value ext).groups = [] := by
  rcases m.test_miss_or_hit value ext with hm | ⟨gs, hm, -⟩
  · rw [hm]
    rfl
  · rw [hm] at h
    cases h

end Matcher

namespace ItemPattern

/-- The calls a field-by-field match makes, in field order and up to the first failure: the list
each field's matcher is handed, and what it returns. -/
def fieldCalls (x : Item) : List Matcher → Nat → List String → List (List String × MatchResult)
  | [], _, _ => []
  | m :: rest, i, groups =>
    (groups, m.test (x.value i) groups) ::
      if (m.test (x.value i) groups).success then
        fieldCalls x rest (i + 1) (groups ++ (m.test (x.value i) groups).groups)
      else []

/-- A field-by-field match is its calls: it succeeds when every call does, and gives the groups
it started from followed by what the calls returned. -/
theorem runFields_eq_fieldCalls (x : Item) (ms : List Matcher) (i : Nat) (groups : List String) :
    runFields x ms i groups =
      ((fieldCalls x ms i groups).all (·.2.success),
        groups ++ (fieldCalls x ms i groups).flatMap (·.2.groups)) := by
  induction ms generalizing i groups with
  | nil => simp [runFields, fieldCalls]
  | cons m rest ih =>
    simp only [runFields, fieldCalls]
    by_cases hm : (m.test (x.value i) groups).success = true
    · simp [hm, ih]
    · have hmiss := Matcher.test_groups_of_miss (Bool.eq_false_iff.mpr hm)
      simp [hm, hmiss]

theorem visibleGroups_length (n : Nat) (ext : List String) : (visibleGroups n ext).length = n := by
  simp [visibleGroups]

theorem runFields_length (x : Item) (ms : List Matcher) (i : Nat) (groups : List String)
    (h : (runFields x ms i groups).1 = true) :
    (runFields x ms i groups).2.length = groups.length + (ms.map Matcher.groupCount).sum := by
  induction ms generalizing i groups with
  | nil => simp [runFields]
  | cons m rest ih =>
    simp only [runFields] at h ⊢
    split at h
    · rename_i hm
      rw [if_pos hm, ih _ _ h, List.length_append, Matcher.test_groups_length hm]
      simp [Nat.add_assoc]
    · cases h

/-- Field by field, each matcher is handed the list the run started from followed by what the
fields before it returned; when the run started from `n` groups along aligned blocks, a regular
expression is handed exactly as many groups as its external block. -/
theorem fieldCalls_handed (x : Item) {ms : List Matcher} {n : Nat} (hb : Matcher.BlocksAligned n ms)
    {groups : List String} (hl : groups.length = n) (i j : Nat)
    (hj : j < (fieldCalls x ms i groups).length) :
    ∃ m, ms[j]? = some m ∧
      (fieldCalls x ms i groups)[j].1 =
        groups ++ ((fieldCalls x ms i groups).take j).flatMap (·.2.groups) ∧
      (fieldCalls x ms i groups)[j].2 = m.test (x.value (i + j)) (fieldCalls x ms i groups)[j].1 ∧
      ∀ r, m = .regex r → (fieldCalls x ms i groups)[j].1.length = r.external := by
  induction ms generalizing n groups i j with
  | nil => simp [fieldCalls] at hj
  | cons m rest ih =>
    obtain ⟨hhead, hrest⟩ := hb
    cases j with
    | zero =>
      refine ⟨m, rfl, ?_, ?_, ?_⟩
      · simp [fieldCalls]
      · simp [fieldCalls]
      · intro r hr
        simp [fieldCalls, hl, hhead r hr]
    | succ j =>
      by_cases hm : (m.test (x.value i) groups).success = true
      · have hj' : j < (fieldCalls x rest (i + 1) (groups ++ (m.test (x.value i) groups).groups)).length := by
          simpa [fieldCalls, hm] using hj
        have hl' : (groups ++ (m.test (x.value i) groups).groups).length = n + m.groupCount := by
          rw [List.length_append, hl, Matcher.test_groups_length hm]
        obtain ⟨m', hm', hin, hout, hreg⟩ := ih hrest hl' (i + 1) j hj'
        refine ⟨m', by simpa using hm', ?_, ?_, ?_⟩
        · simp [fieldCalls, hm, hin]
        · simpa [fieldCalls, hm, Nat.add_assoc, Nat.add_comm 1 j] using hout
        · simpa [fieldCalls, hm] using hreg
      · simp [fieldCalls, hm] at hj

theorem firstHit_eq_some {m : Matcher} {x : Item} {ext : List String} :
    ∀ {n i : Nat} {r : MatchResult}, firstHit m x ext n i = some r →
      ∃ j, r = m.test (x.value j) ext ∧ r.success = true := by
  intro n
  induction n with
  | zero => intro i r h; cases h
  | succ n ih =>
    intro i r h
    simp only [firstHit] at h
    split at h
    · cases h
      exact ⟨i, rfl, by assumption⟩
    · exact ih h

theorem CountsAligned.test_groups_length {p : ItemPattern} (hp : p.CountsAligned) {x : Item}
    {ext : List String} (h : (p.test x false ext).success = true) :
    (p.test x false ext).groups.length = p.groupCount := by
  unfold test at h ⊢
  split
  · rw [if_pos ‹_›] at h
    cases h
  · rw [if_neg ‹_›] at h
    unfold CountsAligned at hp
    split at h
    · rename_i m hf
      rw [hf] at hp
      simp only [MatchResult.inverted] at hp h ⊢
      cases hhit : firstHit m x ext (x.values.length.max x.type.len) 0 with
      | none =>
        rw [hhit] at h
        cases h
      | some r =>
        obtain ⟨j, rfl, hs⟩ := firstHit_eq_some hhit
        rw [Option.getD_some, Matcher.test_groups_length hs, hp]
    · rename_i ms hf
      rw [hf] at hp
      obtain ⟨hcount, -⟩ : p.groupCount = (ms.map Matcher.groupCount).sum ∧ _ := hp
      generalize hrun : runFields x ms 0 (visibleGroups p.external ext) = res at h ⊢
      obtain ⟨ok, out⟩ := res
      simp only [MatchResult.inverted] at h ⊢
      obtain rfl : ok = true := by simpa using h
      have hlen := runFields_length x ms 0 _ (by rw [hrun])
      rw [hrun, visibleGroups_length] at hlen
      simp only [List.length_drop, hlen, hcount]
      omega

/-- The calls matching an item field by field makes, from the caller's groups; an any-field
pattern makes none of them. -/
def calls (p : ItemPattern) (x : Item) (ext : List String) : List (List String × MatchResult) :=
  match p.fields with
  | .anyField _ => []
  | .perField ms => fieldCalls x ms 0 (visibleGroups p.external ext)

/-- How a pattern counts the groups of a match. A successful match reports as many groups as
the pattern declares. Matching field by field, an item of a compatible type matches exactly when
every call succeeds, with the groups the calls returned, in order; the matcher of each field is
handed the caller's groups cut or padded to the pattern's external groups, then the groups the
fields before it returned; and a regular expression is handed exactly as many groups as its
external block. -/
structure GroupsCounted (p : ItemPattern) : Prop where
  groups_length : ∀ x ext, (p.test x false ext).success = true →
    (p.test x false ext).groups.length = p.groupCount
  test_calls : ∀ ms, p.fields = .perField ms → ∀ x ext, p.type.compatible x.type = true →
    p.test x false ext =
      ⟨(p.calls x ext).all (·.2.success), (p.calls x ext).flatMap (·.2.groups)⟩
  handed : ∀ ms, p.fields = .perField ms → ∀ x ext j (hj : j < (p.calls x ext).length),
    ∃ m, ms[j]? = some m ∧
      (p.calls x ext)[j].1 = visibleGroups p.external ext ++ ((p.calls x ext).take j).flatMap (·.2.groups) ∧
      (p.calls x ext)[j].2 = m.test (x.value j) (p.calls x ext)[j].1 ∧
      ∀ r, m = .regex r → (p.calls x ext)[j].1.length = r.external

/-- A compatible item matches field by field exactly when every call does, with the groups the
calls returned. -/
theorem test_eq_calls {p : ItemPattern} {ms : List Matcher} (hf : p.fields = .perField ms)
    (x : Item) (ext : List String) (hcompat : p.type.compatible x.type = true) :
    p.test x false ext =
      ⟨(p.calls x ext).all (·.2.success), (p.calls x ext).flatMap (·.2.groups)⟩ := by
  have hcalls : p.calls x ext = fieldCalls x ms 0 (visibleGroups p.external ext) := by
    simp [calls, hf]
  simp only [test, hcompat, Bool.not_true, Bool.false_eq_true, if_false, hf,
    runFields_eq_fieldCalls, hcalls, MatchResult.inverted, Bool.bne_false]
  rw [List.drop_left' (visibleGroups_length p.external ext)]

theorem CountsAligned.groupsCounted {p : ItemPattern} (hp : p.CountsAligned) : p.GroupsCounted where
  groups_length _ _ h := hp.test_groups_length h
  test_calls _ hf x ext hcompat := test_eq_calls hf x ext hcompat
  handed ms hf x ext j hj := by
    have hcalls : p.calls x ext = fieldCalls x ms 0 (visibleGroups p.external ext) := by
      simp [calls, hf]
    have hb : Matcher.BlocksAligned p.external ms := by
      unfold CountsAligned at hp
      rw [hf] at hp
      exact hp.2
    obtain ⟨m, hm, hin, hout, hreg⟩ :=
      fieldCalls_handed x hb (visibleGroups_length p.external ext) 0 j (hcalls ▸ hj)
    rw [Nat.zero_add] at hout
    refine ⟨m, hm, ?_⟩
    simp only [hcalls]
    exact ⟨hin, hout, hreg⟩

end ItemPattern

namespace DependencyPattern

theorem test_success {d : DependencyPattern} {dep : Dependency} {ext : List String}
    (h : (d.test dep ext).success = true) :
    (d.usingPattern.test dep.usingItem false ext).success = true ∧
      (d.usedPattern.test dep.usedItem false (ItemPattern.visibleGroups d.external ext ++
        (d.usingPattern.test dep.usingItem false ext).groups)).success = true ∧
      (d.test dep ext).groups = (d.usingPattern.test dep.usingItem false ext).groups ++
        (d.usedPattern.test dep.usedItem false (ItemPattern.visibleGroups d.external ext ++
          (d.usingPattern.test dep.usingItem false ext).groups)).groups := by
  unfold test at h ⊢
  split at h
  · cases h
  · rename_i hpre
    simp only [if_neg hpre] at h ⊢
    split at h
    · cases h
    · rename_i hu
      simp only [if_neg hu] at h ⊢
      split at h
      · cases h
      · rename_i hv
        simp only [if_neg hv]
        simp only [Bool.not_eq_true', Bool.not_eq_false] at hu hv
        exact ⟨hu, hv, rfl⟩

/-- How a dependency pattern counts groups. Once the using item matched, the used pattern is
handed the external groups followed by the using groups: as many as the used pattern was compiled
for, which is the external groups and the using pattern's groups. A successful match gives the
using groups, as many as the using pattern declares, followed by the used ones, as many as the
used pattern declares. -/
structure GroupsCounted (d : DependencyPattern) : Prop where
  used_external : d.usedPattern.external = d.external + d.usingPattern.groupCount
  handed_length : ∀ (dep : Dependency) ext, (d.usingPattern.test dep.usingItem false ext).success = true →
    (ItemPattern.visibleGroups d.external ext ++
      (d.usingPattern.test dep.usingItem false ext).groups).length = d.usedPattern.external
  groups_split : ∀ (dep : Dependency) ext, (d.test dep ext).success = true →
    ∃ gu gv, (d.test dep ext).groups = gu ++ gv ∧
      gu = (d.usingPattern.test dep.usingItem false ext).groups ∧
      gu.length = d.usingPattern.groupCount ∧ gv.length = d.usedPattern.groupCount

theorem CountsAligned.groupsCounted {d : DependencyPattern} (hd : d.CountsAligned) :
    d.GroupsCounted where
  used_external := hd.used_external
  handed_length _ _ hu := by
    rw [List.length_append, ItemPattern.visibleGroups_length,
      hd.using_aligned.test_groups_length hu, hd.used_external]
  groups_split _ _ h := by
    obtain ⟨hu, hv, hgroups⟩ := test_success h
    exact ⟨_, _, hgroups, rfl, hd.using_aligned.test_groups_length hu,
      hd.used_aligned.test_groups_length hv⟩

end DependencyPattern

/-- In every registry calls can lead to, compiled patterns count their groups as they declare:
an item pattern keeps the caller's number of external groups and counts its groups along its
fields, and a dependency pattern hands its used side the external groups followed by the using
groups. -/
theorem Registry.Reachable.pattern_groups_counted {r : Registry} (hr : r.Reachable) :
    (∀ text o p, (ItemPattern.compile text o).outcome r = .ok p →
      p.external = o.external ∧ p.GroupsCounted) ∧
    (∀ u v o d, (DependencyPattern.compile u v o).outcome r = .ok d →
      d.external = o.external ∧ d.GroupsCounted) := by
  have hs := hr.cacheSound
  refine ⟨fun text o p hp => ?_, fun u v o d hd => ?_⟩
  · obtain ⟨hext, haligned⟩ := (ItemPattern.cacheBlind_compile text o).of_outcome_ok hs hp
    exact ⟨hext, haligned.groupsCounted⟩
  · obtain ⟨hext, haligned⟩ := (DependencyPattern.cacheBlind_compile u v o).of_outcome_ok hs hd
    exact ⟨hext, haligned.groupsCounted⟩

theorem Registry.Reachable.pattern_groups_counted_empty :
    Registry.Reachable {} ∧
      (∀ text o p, (ItemPattern.compile text o).outcome {} = .ok p →
        p.external = o.external ∧ p.GroupsCounted) ∧
      (∀ u v o d, (DependencyPattern.compile u v o).outcome {} = .ok d →
        d.external = o.external ∧ d.GroupsCounted) :=
  ⟨.empty, Registry.Reachable.pattern_groups_counted .empty⟩

end Conformance
