import Conformance.Projection.Basic

/-!
The prefixes a matcher knows every accepted value starts with. An exact or starts-with test that
respects case knows its text as a prefix, every other literal test knows nothing, and the
report holds of every value the matcher accepts. When all the field matchers of an item pattern
test literals, the known prefixes of its fields hold of every item it matches.
-/

set_option autoImplicit false
set_option relaxedAutoImplicit false

namespace Conformance

namespace Matcher

/-- A matcher that tests a literal rather than running a regular expression. -/
def IsLiteral : Matcher → Prop
  | .regex _ => False
  | _ => True

theorem IsLiteral.success_test {m : Matcher} (hm : m.IsLiteral) (value : String)
    (ext : List String) : (m.test value ext).success = m.accepts value := by
  cases m with
  | regex r => exact hm.elim
  | _ =>
    simp only [test]
    split <;> simp_all [MatchResult.hit, MatchResult.miss]

theorem fixedPrefix_starts_accepted {m : Matcher} {value : String} (h : m.accepts value = true) :
    m.fixedPrefix.toList <+: value.toList := by
  cases m with
  | equals v ic g =>
    cases ic with
    | false =>
      simp only [accepts, Bool.false_eq_true, ite_false, beq_iff_eq] at h
      subst h
      exact List.prefix_refl _
    | true => exact List.nil_prefix
  | startsWith p ic g =>
    cases ic with
    | false =>
      simp only [accepts, Bool.false_eq_true, ite_false, List.isPrefixOf_iff_prefix] at h
      exact h
    | true => exact List.nil_prefix
  | regex r => simp [accepts] at h
  | _ => exact List.nil_prefix

end Matcher

namespace ItemPattern

/-- The prefixes the pattern knows hold of an item: the item's value of every field starts
with the prefix the pattern knows for that field. -/
def PrefixesHold (p : ItemPattern) (x : Item) : Prop :=
  ∀ field, (p.fixedPrefix field).toList <+: (x.value field).toList

/-- Every field matcher of the pattern tests a literal; an any-field pattern knows no prefix,
so any matcher will do there. -/
def LiteralFields (p : ItemPattern) : Prop :=
  match p.fields with
  | .anyField _ => True
  | .perField ms => ∀ m ∈ ms, m.IsLiteral

theorem runFields_success (x : Item) :
    ∀ (ms : List Matcher) (i : Nat) (groups out : List String),
      runFields x ms i groups = (true, out) →
        ∀ (j : Nat) (m : Matcher), ms[j]? = some m →
          ∃ ext, (m.test (x.value (i + j)) ext).success = true := by
  intro ms
  induction ms with
  | nil => intro i groups out _ j m hm; simp at hm
  | cons m0 rest ih =>
    intro i groups out h j m hm
    simp only [runFields] at h
    split at h
    · rename_i hsuccess
      cases j with
      | zero =>
        simp only [List.getElem?_cons_zero, Option.some.injEq] at hm
        subst hm
        exact ⟨groups, by simpa using hsuccess⟩
      | succ j =>
        simp only [List.getElem?_cons_succ] at hm
        obtain ⟨ext, hext⟩ := ih (i + 1) _ out h j m hm
        exact ⟨ext, by simpa [Nat.add_assoc, Nat.add_comm 1 j] using hext⟩
    · cases h

theorem test_field_success {p : ItemPattern} {x : Item} {ext : List String}
    (h : (p.test x false ext).success = true) {ms : List Matcher} (hf : p.fields = .perField ms)
    {field : Nat} {m : Matcher} (hm : ms[field]? = some m) :
    ∃ ext', (m.test (x.value field) ext').success = true := by
  unfold test at h
  split at h
  · simp [MatchResult.miss] at h
  · rw [hf] at h
    have hrun : (runFields x ms 0 (visibleGroups p.external ext)).1 = true := by
      simpa [MatchResult.inverted] using h
    simpa using runFields_success x ms 0 _ _ (Prod.ext hrun rfl) field m hm

theorem literal_field_starts {p : ItemPattern} {x : Item} {ext : List String}
    (h : (p.test x false ext).success = true) {ms : List Matcher} (hf : p.fields = .perField ms)
    {field : Nat} {m : Matcher} (hm : ms[field]? = some m) (hlit : m.IsLiteral) :
    m.fixedPrefix.toList <+: (x.value field).toList := by
  obtain ⟨ext', hsuccess⟩ := test_field_success h hf hm
  rw [hlit.success_test] at hsuccess
  exact Matcher.fixedPrefix_starts_accepted hsuccess

/-- A pattern whose field matchers all test literals has its known prefixes holding of every
item it matches. -/
theorem prefixesHold_of_test {p : ItemPattern} (hlit : p.LiteralFields) {x : Item}
    {ext : List String} (h : (p.test x false ext).success = true) : p.PrefixesHold x := by
  intro field
  unfold fixedPrefix
  split
  · exact List.nil_prefix
  · rename_i ms hfields
    simp only [LiteralFields, hfields] at hlit
    cases hm : ms[field]? with
    | none => exact List.nil_prefix
    | some m => exact literal_field_starts h hfields hm (hlit m (List.mem_of_getElem? hm))

end ItemPattern

theorem Projection.success_of_apply {p : Projection} {x : Item} {side : Side} {y : Item}
    (h : p.apply x side = some y) : (p.pattern.test x false []).success = true := by
  unfold Projection.apply at h
  split at h
  · cases h
  · dsimp only at h
    split at h
    · assumption
    · cases h

end Conformance
