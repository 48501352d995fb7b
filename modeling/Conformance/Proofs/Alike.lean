import Conformance.Proofs.GroupCount
import Conformance.Proofs.KnownPrefix
import Conformance.Proofs.Memo

/-!
Alike matchers and patterns answer alike. Alikeness compares representations (the kind, the
literal or the expression's text, the case or dots rule, the groups or the external block), so it
is equality of that data and an equivalence. It is sound because a regular-expression matcher is
only built by compiling its text (`RegexMatcher.Wf`), and what that takes from the engine is
named: compiling is a function of the text, and a compiled expression gives back its text
(`Regex.KeepsSource`, which the lemmas on compiled matchers assume and the engine here has).
Compiled patterns are `ItemPattern.Wf`, so two alike ones either share their external groups or
have only literal fields, which never read the groups they are handed.
-/

set_option autoImplicit false
set_option relaxedAutoImplicit false

namespace Conformance

theorem FieldKey.beq_eq (a b : FieldKey) : (a == b) = (a.key == b.key && a.subkey == b.subkey) := by
  cases a
  cases b
  rfl

instance : LawfulBEq FieldKey where
  eq_of_beq {a b} h := by
    rw [FieldKey.beq_eq, Bool.and_eq_true, beq_iff_eq, beq_iff_eq] at h
    cases a
    cases b
    simp_all
  rfl {a} := by simp [FieldKey.beq_eq]

theorem ItemType.beq_eq (a b : ItemType) : (a == b) = (a.name == b.name && a.fields == b.fields) := by
  cases a
  cases b
  rfl

instance : LawfulBEq ItemType where
  eq_of_beq {a b} h := by
    rw [ItemType.beq_eq, Bool.and_eq_true, beq_iff_eq, beq_iff_eq] at h
    cases a
    cases b
    simp_all
  rfl {a} := by simp [ItemType.beq_eq]

/-- What the proofs about regular-expression matchers take from the engine beyond its being a
function of the text: a compiled expression gives back the text it was compiled from. -/
def Regex.KeepsSource : Prop :=
  ∀ pattern re, Regex.compile pattern = .ok re → re.source = pattern

theorem Regex.compile_keepsSource : Regex.KeepsSource := by
  intro pattern re h
  have hextended : ∀ re', Regex.compile.extended pattern = .ok re' → re'.source = pattern := by
    intro re' h'
    unfold Regex.compile.extended at h'
    split at h'
    · split at h'
      · cases h'
        rfl
      · cases h'
    · cases h'
  unfold Regex.compile at h
  split at h
  · split at h
    · cases h
      rfl
    · exact hextended re h
  · exact hextended re h

namespace RegexMatcher

/-- A regular-expression matcher as compiling builds it: its program is the compilation of its
text, and its own groups are the expression's groups after the external block. -/
structure Wf (r : RegexMatcher) : Prop where
  compiled : Regex.compile r.regex.source = .ok r.regex
  own_eq : r.own = r.regex.groups - r.external

theorem test_congr {r₁ r₂ : RegexMatcher} (hre : r₁.regex = r₂.regex)
    (hext : r₁.external = r₂.external) (hown : r₁.own = r₂.own) (value : String)
    (ext : List String) : r₁.test value ext = r₂.test value ext := by
  simp only [test, evaluate, subject, hre, hext, hown]

theorem Wf.same {r₁ r₂ : RegexMatcher} (h₁ : r₁.Wf) (h₂ : r₂.Wf)
    (hsrc : r₁.regex.source = r₂.regex.source) (hext : r₁.external = r₂.external) :
    r₁.regex = r₂.regex ∧ r₁.own = r₂.own := by
  have hre : r₁.regex = r₂.regex := by
    have h := h₁.compiled
    rw [hsrc, h₂.compiled] at h
    exact (Except.ok.inj h).symm
  exact ⟨hre, by rw [h₁.own_eq, h₂.own_eq, hre, hext]⟩

end RegexMatcher

namespace Matcher

/-- A matcher as it can be built: literal matchers with any data, regular-expression matchers
only by compiling. -/
def Wf : Matcher → Prop
  | .regex r => r.Wf
  | _ => True

/-- The data alikeness compares: the kind, the literal or the expression's text, the case or
dots rule, and the groups or the external block. -/
def likeness : Matcher → MatcherKind × String × Bool × Nat
  | .always dots g => (.always, "", dots, g)
  | .empty g => (.empty, "", false, g)
  | .equals v ic g => (.equals, v, ic, g)
  | .startsWith v ic g => (.startsWith, v, ic, g)
  | .endsWith v ic g => (.endsWith, v, ic, g)
  | .contains v ic g => (.contains, v, ic, g)
  | .regex r => (.regex, r.regex.source, false, r.external)

theorem alike_iff_likeness {a b : Matcher} : a.alike b = true ↔ a.likeness = b.likeness := by
  cases a <;> cases b <;> simp [alike, likeness, and_assoc]

theorem alike_equivalence : Equivalence fun a b : Matcher => a.alike b = true where
  refl _ := alike_iff_likeness.mpr rfl
  symm h := alike_iff_likeness.mpr (alike_iff_likeness.mp h).symm
  trans h₁ h₂ := alike_iff_likeness.mpr ((alike_iff_likeness.mp h₁).trans (alike_iff_likeness.mp h₂))

theorem eq_of_alike {a b : Matcher} (h : a.alike b = true) (ha : a.IsLiteral) : a = b := by
  rw [alike_iff_likeness] at h
  cases a <;> cases b <;> simp_all [likeness, IsLiteral]

/-- Alike well-formed matchers give the same answer to every call, and report as many groups. -/
theorem Wf.alike {a b : Matcher} (ha : a.Wf) (hb : b.Wf) (h : a.alike b = true) :
    (∀ value ext, a.test value ext = b.test value ext) ∧ a.groupCount = b.groupCount := by
  cases a with
  | regex r₁ =>
    cases b with
    | regex r₂ =>
      simp only [Matcher.alike, Bool.and_eq_true, beq_iff_eq] at h
      obtain ⟨hre, hown⟩ := RegexMatcher.Wf.same ha hb h.1 h.2
      exact ⟨fun value ext => RegexMatcher.test_congr hre h.2 hown value ext, hown⟩
    | _ => simp [Matcher.alike] at h
  | _ =>
    rw [← eq_of_alike h trivial]
    exact ⟨fun _ _ => rfl, rfl⟩

theorem IsLiteral.test_eq {m : Matcher} (hm : m.IsLiteral) (value : String) (ext : List String) :
    m.test value ext = m.test value [] := by
  cases m with
  | regex r => exact hm.elim
  | _ => rfl

end Matcher

namespace Segment

variable {segment text pre suf : String} {o : Options} {m : Matcher}

theorem compileRegex_wf (hkeeps : Regex.KeepsSource)
    (h : compileRegex segment text o pre suf = .ok m) : m.Wf := by
  obtain ⟨re, hre, rfl⟩ := compileRegex_eq_ok h
  exact ⟨by rw [hkeeps _ _ hre]; exact hre, rfl⟩

theorem classify_wf (hkeeps : Regex.KeepsSource) {t : String} (h : classify t o = .ok m) :
    m.Wf := by
  rcases classify_cases h with ⟨_, _, _, hc⟩ | hlit
  · exact compileRegex_wf hkeeps hc
  · cases m with
    | regex r => exact absurd rfl (hlit r)
    | _ => trivial

/-- With an engine that keeps its source, every compiled matcher is well formed. -/
theorem compile_wf (hkeeps : Regex.KeepsSource) (h : compile segment o = .ok m) : m.Wf := by
  unfold compile at h
  split at h
  · cases h
  · exact classify_wf hkeeps h

end Segment

theorem wfFields_invariant (hkeeps : Regex.KeepsSource) (E : Nat) :
    FieldInvariant E fun acc => ∀ m ∈ acc.1, m.Wf where
  nil := by simp
  field h hm := by
    intro m' hm'
    rcases List.mem_append.mp hm' with hm' | hm'
    · exact h m' hm'
    · rw [List.mem_singleton.mp hm']
      exact Segment.compile_wf hkeeps hm
  pad count h := by
    intro m' hm'
    rcases List.mem_append.mp hm' with hm' | hm'
    · exact h m' hm'
    · rw [List.eq_of_mem_replicate hm']
      trivial

namespace ItemPattern

/-- The matchers of a pattern: the one tried on every value, or one per field. -/
def matchers (p : ItemPattern) : List Matcher :=
  match p.fields with
  | .anyField m => [m]
  | .perField ms => ms

/-- A pattern as compiling leaves it: aligned counts and well-formed matchers. -/
structure Wf (p : ItemPattern) : Prop where
  aligned : p.CountsAligned
  matchers_wf : ∀ m ∈ p.matchers, m.Wf

theorem wf_of_compile (hkeeps : Regex.KeepsSource) {r : Registry} (hr : r.Reachable)
    {text : String} {o : PatternOptions} {p : ItemPattern}
    (h : (compile text o).outcome r = .ok p) : p.Wf := by
  have hyields := (((countedFields_invariant o.external).and
    (wfFields_invariant hkeeps o.external)).cacheBlind_compile text).of_outcome_ok hr.cacheSound h
  refine ⟨hyields.countsAligned fun _ hacc => hacc.1, ?_⟩
  obtain ⟨-, hp⟩ := hyields
  unfold matchers
  cases hf : p.fields with
  | anyField m =>
    simp only [hf] at hp
    obtain ⟨⟨s, hs⟩, -⟩ := hp
    intro m' hm'
    rw [List.mem_singleton.mp hm']
    exact Segment.compile_wf hkeeps hs
  | perField ms =>
    simp only [hf] at hp
    exact hp.2

/-- The data alikeness of patterns compares: the item type, and the likeness of the one matcher
or of the matchers field by field. -/
def likeness (p : ItemPattern) :
    ItemType × ((MatcherKind × String × Bool × Nat) ⊕ List (MatcherKind × String × Bool × Nat)) :=
  (p.type, match p.fields with
    | .anyField m => .inl m.likeness
    | .perField ms => .inr (ms.map Matcher.likeness))

theorem fields_alike_iff (as bs : List Matcher) :
    (as.length == bs.length && (as.zip bs).all fun (x, y) => x.alike y) = true ↔
      as.map Matcher.likeness = bs.map Matcher.likeness := by
  induction as generalizing bs with
  | nil => cases bs <;> simp
  | cons a as ih =>
    cases bs with
    | nil => simp
    | cons b bs =>
      have h := ih bs
      simp only [Bool.and_eq_true, beq_iff_eq] at h
      simp only [List.length_cons, List.zip_cons_cons, List.all_cons, Bool.and_eq_true, beq_iff_eq,
        Nat.add_right_cancel_iff, List.map_cons, List.cons.injEq, Matcher.alike_iff_likeness, ← h]
      tauto

theorem alike_iff_likeness {p q : ItemPattern} : p.alike q = true ↔ p.likeness = q.likeness := by
  unfold alike likeness
  cases hp : p.fields <;> cases hq : q.fields <;>
    simp [Matcher.alike_iff_likeness, ← fields_alike_iff]

theorem alike_equivalence : Equivalence fun p q : ItemPattern => p.alike q = true where
  refl _ := alike_iff_likeness.mpr rfl
  symm h := alike_iff_likeness.mpr (alike_iff_likeness.mp h).symm
  trans h₁ h₂ := alike_iff_likeness.mpr ((alike_iff_likeness.mp h₁).trans (alike_iff_likeness.mp h₂))

theorem firstHit_congr {a b : Matcher} {x : Item} {ext : List String}
    (h : ∀ value, a.test value ext = b.test value ext) (n i : Nat) :
    firstHit a x ext n i = firstHit b x ext n i := by
  induction n generalizing i with
  | zero => rfl
  | succ n ih => simp only [firstHit, h, ih]

theorem forall₂_of_likeness {as bs : List Matcher}
    (hl : as.map Matcher.likeness = bs.map Matcher.likeness)
    (ha : ∀ a ∈ as, a.Wf) (hb : ∀ b ∈ bs, b.Wf) :
    List.Forall₂ (fun a b => a.Wf ∧ b.Wf ∧ a.alike b = true) as bs := by
  induction as generalizing bs with
  | nil => cases bs <;> simp_all
  | cons a as ih =>
    cases bs with
    | nil => simp at hl
    | cons b bs =>
      simp only [List.map_cons, List.cons.injEq] at hl
      exact .cons ⟨ha a List.mem_cons_self, hb b List.mem_cons_self,
          Matcher.alike_iff_likeness.mpr hl.1⟩
        (ih hl.2 (fun a h => ha a (List.mem_cons_of_mem _ h)) (fun b h => hb b (List.mem_cons_of_mem _ h)))

section Paired

variable {as bs : List Matcher} (h : List.Forall₂ (fun a b => a.Wf ∧ b.Wf ∧ a.alike b = true) as bs)
include h

theorem runFields_congr (x : Item) (i : Nat) (groups : List String) :
    runFields x as i groups = runFields x bs i groups := by
  induction h generalizing i groups with
  | nil => rfl
  | cons hab _ ih =>
    obtain ⟨ha, hb, halike⟩ := hab
    have htest := (ha.alike hb halike).1
    simp only [runFields, htest, ih]

theorem isLiteral_of_external_ne :
    ∀ {E₁ E₂ : Nat}, Matcher.BlocksAligned E₁ as → Matcher.BlocksAligned E₂ bs → E₁ ≠ E₂ →
      ∀ m ∈ as, m.IsLiteral := by
  induction h with
  | nil => simp
  | @cons a b as bs hab _ ih =>
    intro E₁ E₂ hba hbb hne
    obtain ⟨ha, hb, halike⟩ := hab
    obtain ⟨hhead₁, hrest₁⟩ := hba
    obtain ⟨hhead₂, hrest₂⟩ := hbb
    have hgroups := (ha.alike hb halike).2
    have hhead : a.IsLiteral := by
      cases a with
      | regex r =>
        cases b with
        | regex r' =>
          simp only [Matcher.alike, Bool.and_eq_true, beq_iff_eq] at halike
          exact hne ((hhead₁ r rfl).symm.trans (halike.2.trans (hhead₂ r' rfl)))
        | _ => simp [Matcher.alike] at halike
      | _ => trivial
    have htail := ih hrest₁ hrest₂ (by omega)
    intro m hm
    rcases List.mem_cons.mp hm with rfl | hm
    · exact hhead
    · exact htail m hm

theorem eq_of_literal (hlit : ∀ m ∈ as, m.IsLiteral) : as = bs := by
  induction h with
  | nil => rfl
  | cons hab _ ih =>
    rw [Matcher.eq_of_alike hab.2.2 (hlit _ List.mem_cons_self),
      ih fun m hm => hlit m (List.mem_cons_of_mem _ hm)]

end Paired

theorem runFields_literal {x : Item} {ms : List Matcher} (hms : ∀ m ∈ ms, m.IsLiteral)
    (i : Nat) (groups : List String) :
    runFields x ms i groups = ((runFields x ms i []).1, groups ++ (runFields x ms i []).2) := by
  induction ms generalizing i groups with
  | nil => simp [runFields]
  | cons m rest ih =>
    have hm := hms m List.mem_cons_self
    have hrest : ∀ m ∈ rest, m.IsLiteral := fun m h => hms m (List.mem_cons_of_mem _ h)
    simp only [runFields, hm.test_eq _ groups, List.nil_append]
    split
    · rw [ih hrest _ (groups ++ _), ih hrest _ (m.test _ []).groups, List.append_assoc]
    · simp

theorem runFields_drop_eq {E₁ E₂ : Nat} {as bs : List Matcher}
    (h : List.Forall₂ (fun a b => a.Wf ∧ b.Wf ∧ a.alike b = true) as bs)
    (hba : Matcher.BlocksAligned E₁ as) (hbb : Matcher.BlocksAligned E₂ bs) (x : Item)
    (ext : List String) :
    (runFields x as 0 (visibleGroups E₁ ext)).1 = (runFields x bs 0 (visibleGroups E₂ ext)).1 ∧
      (runFields x as 0 (visibleGroups E₁ ext)).2.drop E₁ =
        (runFields x bs 0 (visibleGroups E₂ ext)).2.drop E₂ := by
  by_cases hext : E₁ = E₂
  · subst hext
    rw [runFields_congr h]
    exact ⟨rfl, rfl⟩
  · have hlit := isLiteral_of_external_ne h hba hbb hext
    obtain rfl := eq_of_literal h hlit
    rw [runFields_literal hlit 0 (visibleGroups E₁ ext), runFields_literal hlit 0 (visibleGroups E₂ ext)]
    simp [List.drop_left', visibleGroups_length]

theorem Wf.anyField {p : ItemPattern} {m : Matcher} (hp : p.Wf) (hf : p.fields = .anyField m) :
    m.Wf :=
  hp.matchers_wf m (by simp [matchers, hf])

theorem Wf.perField {p : ItemPattern} {ms : List Matcher} (hp : p.Wf)
    (hf : p.fields = .perField ms) : (∀ m ∈ ms, m.Wf) ∧ Matcher.BlocksAligned p.external ms := by
  have ha := hp.aligned
  simp only [CountsAligned, hf] at ha
  exact ⟨fun m hm => hp.matchers_wf m (by simp [matchers, hf, hm]), ha.2⟩

theorem test_anyField {p : ItemPattern} {m : Matcher} (hf : p.fields = .anyField m) (x : Item)
    (invert : Bool) (ext : List String) :
    p.test x invert ext =
      if !p.type.compatible x.type then .miss
      else ((firstHit m x ext (Nat.max x.values.length x.type.len) 0).getD .miss).inverted invert := by
  simp only [test, hf]

theorem test_perField {p : ItemPattern} {ms : List Matcher} (hf : p.fields = .perField ms)
    (x : Item) (invert : Bool) (ext : List String) :
    p.test x invert ext =
      if !p.type.compatible x.type then .miss
      else (MatchResult.mk (runFields x ms 0 (visibleGroups p.external ext)).1
        ((runFields x ms 0 (visibleGroups p.external ext)).2.drop p.external)).inverted invert := by
  unfold test
  rw [hf]

/-- Alike well-formed patterns match every item alike, whatever their external groups. -/
theorem Wf.test_eq_of_alike {p q : ItemPattern} (hp : p.Wf) (hq : q.Wf) (h : p.alike q = true)
    (x : Item) (invert : Bool) (ext : List String) : p.test x invert ext = q.test x invert ext := by
  have hl := alike_iff_likeness.mp h
  have htype : p.type = q.type := congrArg Prod.fst hl
  cases hpf : p.fields with
  | anyField a =>
    cases hqf : q.fields with
    | anyField b =>
      have hab : a.likeness = b.likeness := by
        simp only [likeness, hpf, hqf, Prod.mk.injEq, Sum.inl.injEq] at hl
        exact hl.2
      have htest := ((hp.anyField hpf).alike (hq.anyField hqf) (Matcher.alike_iff_likeness.mpr hab)).1
      rw [test_anyField hpf, test_anyField hqf, htype, firstHit_congr fun v => htest v ext]
    | perField bs => simp [likeness, hpf, hqf] at hl
  | perField as =>
    cases hqf : q.fields with
    | anyField b => simp [likeness, hpf, hqf] at hl
    | perField bs =>
      have hab : as.map Matcher.likeness = bs.map Matcher.likeness := by
        simp only [likeness, hpf, hqf, Prod.mk.injEq, Sum.inr.injEq] at hl
        exact hl.2
      obtain ⟨hpm, hpb⟩ := hp.perField hpf
      obtain ⟨hqm, hqb⟩ := hq.perField hqf
      obtain ⟨hok, hgroups⟩ := runFields_drop_eq (forall₂_of_likeness hab hpm hqm) hpb hqb x ext
      rw [test_perField hpf, test_perField hqf, htype, hok, hgroups]

end ItemPattern

/-- Alikeness is an equivalence on matchers and on item patterns, and it is sound for what
compiling builds. Compiled matchers are well formed, and alike well-formed matchers answer
every call alike, on the memo-free path and through any faithful memos. Patterns compiled in
any reachable registry are well formed, and alike well-formed patterns match every item alike,
whatever external groups each was compiled with. -/
theorem alike_sound_equivalence :
    Equivalence (fun a b : Matcher => a.alike b = true) ∧
    Equivalence (fun p q : ItemPattern => p.alike q = true) ∧
    (∀ segment o m, Segment.compile segment o = .ok m → m.Wf) ∧
    (∀ a b : Matcher, a.Wf → b.Wf → a.alike b = true → ∀ value ext,
      a.test value ext = b.test value ext ∧
      ∀ memoA memoB, a.MemoFaithful memoA → b.MemoFaithful memoB →
        (a.testMemo memoA value ext).1 = (b.testMemo memoB value ext).1) ∧
    (∀ p q : ItemPattern, p.Wf → q.Wf → p.alike q = true →
      ∀ x invert ext, p.test x invert ext = q.test x invert ext) ∧
    (∀ r : Registry, r.Reachable → ∀ text o p,
      (ItemPattern.compile text o).outcome r = .ok p → p.Wf) := by
  refine ⟨Matcher.alike_equivalence, ItemPattern.alike_equivalence,
    fun _ _ _ h => Segment.compile_wf Regex.compile_keepsSource h, ?_,
    fun _ _ hp hq h => hp.test_eq_of_alike hq h,
    fun _ hr _ _ _ h => ItemPattern.wf_of_compile Regex.compile_keepsSource hr h⟩
  intro a b ha hb h value ext
  have htest := (ha.alike hb h).1 value ext
  refine ⟨htest, fun memoA memoB hmA hmB => ?_⟩
  rw [(a.testMemo_faithful memoA value ext hmA).1, (b.testMemo_faithful memoB value ext hmB).1, htest]

/-- Two patterns with one literal field that captures, compiled behind no external group and
behind two. -/
theorem alike_sound_equivalence_external :
    (∀ value ext, (Matcher.contains "ab" true 0).test value ext =
      (Matcher.contains "ab" true 0).test value ext) ∧
    (∀ x invert ext,
      (⟨"a", ⟨"T", []⟩, .perField [.equals "a" false 1], 0, 1⟩ : ItemPattern).test x invert ext =
        (⟨"a", ⟨"T", []⟩, .perField [.equals "a" false 1], 2, 1⟩ : ItemPattern).test x invert ext) ∧
    (∀ text o p, (ItemPattern.compile text o).outcome {} = .ok p → p.Wf) := by
  have hsound := alike_sound_equivalence
  have hwf : ∀ E : Nat,
      (⟨"a", ⟨"T", []⟩, .perField [.equals "a" false 1], E, 1⟩ : ItemPattern).Wf := by
    intro E
    refine ⟨⟨rfl, by simp [Matcher.BlocksAligned]⟩, fun m hm => ?_⟩
    simp only [ItemPattern.matchers, List.mem_singleton] at hm
    rw [hm]
    trivial
  exact ⟨fun value ext => (hsound.2.2.2.1 (.contains "ab" true 0) (.contains "ab" true 0)
      trivial trivial (by decide) value ext).1,
    hsound.2.2.2.2.1 _ _ (hwf 0) (hwf 2) (by decide), hsound.2.2.2.2.2 {} .empty⟩

end Conformance
