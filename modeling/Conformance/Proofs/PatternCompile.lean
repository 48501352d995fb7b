import Conformance.Dependency.Pattern
import Conformance.Proofs.SegmentCache

/-!
Patterns compile through the cache as they would afresh, with their groups counted right. Every
step of compiling an item pattern is cache-blind and says what it yields; a property of the
matchers so far that survives both kinds of step is a `FieldInvariant`, and `CountedFields` is
one: the number of groups is the sum of the matchers' groups, and every regular expression has an
external block of exactly the groups before its field. No call a registry serves breaks the
soundness of its cache.
-/

set_option autoImplicit false
set_option relaxedAutoImplicit false

namespace Conformance.Segment

variable {segment : String} {o : Options} {r : RegexMatcher}

theorem compileRegex_eq_ok {text pre suf : String} {m : Matcher}
    (h : compileRegex segment text o pre suf = .ok m) :
    ∃ re, Regex.compile text = .ok re ∧
      m = .regex { source := segment, regex := re, external := o.external,
                   own := re.groups - o.external, fixedPrefix := pre, fixedSuffix := suf } := by
  unfold compileRegex at h
  split at h
  · cases h
  · split at h
    · cases h
    · rename_i re hre
      cases h
      exact ⟨re, hre, rfl⟩

theorem compileRegex_external {text pre suf : String}
    (h : compileRegex segment text o pre suf = .ok (.regex r)) : r.external = o.external := by
  obtain ⟨re, -, hm⟩ := compileRegex_eq_ok h
  cases hm
  rfl

theorem literalRule_tail_ne_regex {inner : String} {n : Nat} {ic : Bool} :
    literalRule.tail inner n ic ≠ some (.regex r) := by
  unfold literalRule.tail
  intro h
  simp only at h
  split at h
  · cases h
  · split at h <;> cases h

theorem literalRule_ne_regex {inner : String} {n : Nat} : literalRule o inner n ≠ some (.regex r) := by
  unfold literalRule
  intro h
  simp only at h
  split at h
  · cases h
  · split at h
    · split at h
      · cases h
      · exact literalRule_tail_ne_regex h
    · exact literalRule_tail_ne_regex h

/-- Classifying a segment builds a regular expression only by compiling generated text; every
other rule builds a matcher that tests a literal. -/
theorem classify_cases {t : String} {m : Matcher} (h : classify t o = .ok m) :
    (∃ text pre suf, compileRegex t text o pre suf = .ok m) ∨ ∀ r, m ≠ .regex r := by
  unfold classify at h
  simp only at h
  split at h
  · cases h
    exact .inr fun _ => Matcher.noConfusion
  · split at h
    · cases h
      exact .inr fun _ => Matcher.noConfusion
    · split at h
      · exact .inl ⟨_, _, _, h⟩
      · split at h
        · exact .inl ⟨_, _, _, h⟩
        · split at h
          · rename_i hm
            cases h
            obtain ⟨⟨inner, n⟩, -, hl⟩ := Option.bind_eq_some_iff.mp hm
            exact .inr fun _ hr => literalRule_ne_regex (hr ▸ hl)
          · exact .inl ⟨_, _, _, h⟩

theorem classify_regex_external {t : String} (h : classify t o = .ok (.regex r)) :
    r.external = o.external := by
  rcases classify_cases h with ⟨_, _, _, hc⟩ | hlit
  · exact compileRegex_external hc
  · exact absurd rfl (hlit r)

theorem compile_regex_external (h : compile segment o = .ok (.regex r)) :
    r.external = o.external := by
  unfold compile at h
  split at h
  · cases h
  · exact classify_regex_external h

end Conformance.Segment

namespace Conformance

open Build

namespace Matcher

/-- Field matchers after `n` groups: each regular expression's external block holds exactly
the groups before it. -/
def BlocksAligned : Nat → List Matcher → Prop
  | _, [] => True
  | n, m :: ms => (∀ r, m = .regex r → r.external = n) ∧ BlocksAligned (n + m.groupCount) ms

theorem blocksAligned_append_singleton {n : Nat} {ms : List Matcher} {m : Matcher} :
    BlocksAligned n (ms ++ [m]) ↔
      BlocksAligned n ms ∧ ∀ r, m = .regex r → r.external = n + (ms.map groupCount).sum := by
  induction ms generalizing n with
  | nil => simp [BlocksAligned]
  | cons m' ms ih => simp [BlocksAligned, ih, Nat.add_assoc, and_assoc]

end Matcher

/-- Field matchers compiled so far with their number of groups: the number is the sum of the
matchers' groups, and the blocks line up after `external` groups. -/
def CountedFields (external : Nat) (acc : List Matcher × Nat) : Prop :=
  acc.2 = (acc.1.map Matcher.groupCount).sum ∧ Matcher.BlocksAligned external acc.1

theorem compile_empty_segment : Segment.compile "" {} = .ok (.always true 0) := rfl

namespace CountedFields

variable {E : Nat} {acc : List Matcher} {groups : Nat}

theorem nil : CountedFields E ([], 0) := ⟨rfl, trivial⟩

theorem field (h : CountedFields E (acc, groups)) {s : String} {ic : Bool} {m : Matcher}
    (hm : Segment.compile s ⟨E + groups, ic⟩ = .ok m) :
    CountedFields E (acc ++ [m], groups + m.groupCount) := by
  obtain ⟨hg, hb⟩ : groups = (acc.map Matcher.groupCount).sum ∧ Matcher.BlocksAligned E acc := h
  refine ⟨by simp [hg], Matcher.blocksAligned_append_singleton.mpr ⟨hb, ?_⟩⟩
  rintro r rfl
  simpa [← hg] using Segment.compile_regex_external hm

theorem pad (h : CountedFields E (acc, groups)) (count : Nat) :
    CountedFields E (acc ++ List.replicate count (.always true 0), groups) := by
  induction count generalizing acc with
  | zero => simpa using h
  | succ n ih =>
    have hstep : CountedFields E (acc ++ [.always true 0], groups) := by
      obtain ⟨hg, hb⟩ : groups = (acc.map Matcher.groupCount).sum ∧ Matcher.BlocksAligned E acc := h
      exact ⟨by simp [hg, Matcher.groupCount],
        Matcher.blocksAligned_append_singleton.mpr ⟨hb, fun _ h => by cases h⟩⟩
    simpa [List.replicate_succ] using ih hstep

end CountedFields

/-- A property of the field matchers compiled so far, with their number of groups, that every
step compiling a pattern's fields after `E` external groups keeps: it holds of no field, of the
fields followed by a segment compiled after the external groups and the groups so far, and of
the fields padded with matchers that accept anything. -/
structure FieldInvariant (E : Nat) (F : List Matcher × Nat → Prop) : Prop where
  nil : F ([], 0)
  field : ∀ {ms : List Matcher} {groups : Nat} {s : String} {ic : Bool} {m : Matcher},
    F (ms, groups) → Segment.compile s ⟨E + groups, ic⟩ = .ok m →
      F (ms ++ [m], groups + m.groupCount)
  pad : ∀ {ms : List Matcher} {groups : Nat} (count : Nat),
    F (ms, groups) → F (ms ++ List.replicate count (.always true 0), groups)

theorem FieldInvariant.and {E : Nat} {F G : List Matcher × Nat → Prop}
    (hF : FieldInvariant E F) (hG : FieldInvariant E G) :
    FieldInvariant E fun acc => F acc ∧ G acc where
  nil := ⟨hF.nil, hG.nil⟩
  field h hm := ⟨hF.field h.1 hm, hG.field h.2 hm⟩
  pad count h := ⟨hF.pad count h.1, hG.pad count h.2⟩

theorem countedFields_invariant (E : Nat) : FieldInvariant E (CountedFields E) where
  nil := CountedFields.nil
  field h hm := h.field hm
  pad count h := h.pad count

section Builders

variable (o : PatternOptions) {F : List Matcher × Nat → Prop}

theorem cacheBlind_fieldSegment (groups : Nat) (segment : String) :
    CacheBlind (fun p : Matcher × Nat =>
        Segment.compile segment ⟨o.external + groups, o.ignoreCase⟩ = .ok p.1 ∧
          p.2 = groups + p.1.groupCount)
      (fieldSegment o groups segment) := by
  show CacheBlind _ (compileSegment _ _ >>= fun p => pure (p.1, groups + p.1.groupCount))
  exact CacheBlind.compileSegment_bind (k := fun m => pure (m, groups + m.groupCount))
    fun _ hm => .pure ⟨hm, rfl⟩

theorem FieldInvariant.fieldSegment_bind (hF : FieldInvariant o.external F) {α : Type}
    {Q : α → Prop} {ms : List Matcher} {groups : Nat} (h : F (ms, groups)) (segment : String)
    {k : Matcher × Nat → Build α}
    (hk : ∀ m, F (ms ++ [m], groups + m.groupCount) →
      CacheBlind Q (k (m, groups + m.groupCount))) :
    CacheBlind Q (fieldSegment o groups segment >>= k) := by
  refine (cacheBlind_fieldSegment o groups segment).bind ?_
  rintro ⟨m, g⟩ ⟨hm, hg⟩
  dsimp only at hm hg
  subst hg
  exact hk m (hF.field h hm)

theorem cacheBlind_anyMatcher : CacheBlind (· = .always true 0) anyMatcher :=
  CacheBlind.compileSegment_bind fun _ hm =>
    .pure (Except.ok.inj (hm.symm.trans compile_empty_segment))

theorem cacheBlind_padAny (acc : List Matcher) (count : Nat) :
    CacheBlind (· = acc ++ List.replicate count (.always true 0)) (padAny acc count) := by
  unfold padAny
  split
  · exact .pure (by simp [*])
  · exact cacheBlind_anyMatcher.bind fun m hm => .pure (by rw [hm])

theorem FieldInvariant.cacheBlind_positionalPieces (hF : FieldInvariant o.external F)
    (t : ItemType) (tooMany : Error) (pieces : List String) (acc : List Matcher × Nat)
    (h : F acc) : CacheBlind F (positionalPieces o t tooMany pieces acc) := by
  induction pieces generalizing acc with
  | nil =>
    unfold positionalPieces
    exact .pure h
  | cons piece rest ih =>
    obtain ⟨ms, groups⟩ := acc
    unfold positionalPieces
    simp only
    split
    · exact .throw_bind
    · exact hF.fieldSegment_bind o h piece fun _ hm => ih _ hm

theorem FieldInvariant.cacheBlind_positionalParts (hF : FieldInvariant o.external F)
    (t : ItemType) (tooMany : Error) (parts : List String) (acc : List Matcher × Nat)
    (h : F acc) : CacheBlind F (positionalParts o t tooMany parts acc) := by
  induction parts generalizing acc with
  | nil =>
    unfold positionalParts
    exact .pure h
  | cons part rest ih =>
    unfold positionalParts
    refine (hF.cacheBlind_positionalPieces o t tooMany _ acc h).bind ?_
    rintro ⟨ms, groups⟩ hpieces
    refine (cacheBlind_padAny ms _).bind ?_
    rintro _ rfl
    exact ih _ (hF.pad _ hpieces)

theorem FieldInvariant.cacheBlind_positional (hF : FieldInvariant o.external F) (text : String)
    (t : ItemType) (parts : List String) : CacheBlind F (positional o text t parts) := by
  unfold positional
  refine (hF.cacheBlind_positionalParts o t _ parts _ hF.nil).bind ?_
  rintro ⟨ms, groups⟩ hparts
  refine (cacheBlind_padAny ms _).bind ?_
  rintro _ rfl
  exact .pure (hF.pad _ hparts)

theorem FieldInvariant.cacheBlind_namedSegments (hF : FieldInvariant o.external F)
    (assigned : List (Option String)) (acc : List Matcher × Nat) (h : F acc) :
    CacheBlind F (namedSegments o assigned acc) := by
  induction assigned generalizing acc with
  | nil =>
    unfold namedSegments
    exact .pure h
  | cons entry rest ih =>
    obtain ⟨ms, groups⟩ := acc
    cases entry with
    | some segment =>
      unfold namedSegments
      exact hF.fieldSegment_bind o h segment fun _ hm => ih _ hm
    | none =>
      unfold namedSegments
      refine cacheBlind_anyMatcher.bind ?_
      rintro _ rfl
      exact ih _ (hF.pad 1 h)

theorem FieldInvariant.cacheBlind_named (hF : FieldInvariant o.external F) (text : String)
    (t : ItemType) (parts : List String) : CacheBlind F (named o text t parts) := by
  unfold named
  split
  · exact .throw _
  · exact hF.cacheBlind_namedSegments o _ _ hF.nil

theorem cacheBlind_resolveType (parts : List String) :
    CacheBlind (fun _ => True) (resolveType o parts) := by
  unfold resolveType
  refine CacheBlind.get_bind ?_ ?_
  · intro r₁ r₂ h
    simp only [Registry.typeNames, Registry.itemType?, h]
  · intro r
    simp only
    split
    · split
      · exact .pure trivial
      · split
        · exact .pure trivial
        · exact .throw _
    · split
      · exact .pure trivial
      · exact .throw _

end Builders

namespace ItemPattern

/-- What compiling an item pattern with options `o` yields, for a field invariant `F`: the
caller's external groups, and either fields that keep `F`, or one segment compiled after the
external groups whose groups are the pattern's. -/
def Yields (o : PatternOptions) (F : List Matcher × Nat → Prop) (p : ItemPattern) : Prop :=
  p.external = o.external ∧
    match p.fields with
    | .anyField m =>
      (∃ s, Segment.compile s ⟨o.external, o.ignoreCase⟩ = .ok m) ∧ p.groupCount = m.groupCount
    | .perField ms => F (ms, p.groupCount)

/-- A pattern whose number of groups is what its matchers report: an any-field pattern's
matcher's, or the sum over its fields, whose regular expressions have their external blocks
lined up behind the pattern's external groups and the groups of the fields before them. -/
def CountsAligned (p : ItemPattern) : Prop :=
  match p.fields with
  | .anyField m => p.groupCount = m.groupCount
  | .perField ms => CountedFields p.external (ms, p.groupCount)

theorem Yields.countsAligned {o : PatternOptions} {F : List Matcher × Nat → Prop}
    {p : ItemPattern} (h : p.Yields o F) (hF : ∀ acc, F acc → CountedFields o.external acc) :
    p.CountsAligned := by
  obtain ⟨hext, hp⟩ := h
  unfold CountsAligned
  split at hp
  · exact hp.2
  · rw [hext]
    exact hF _ hp

end ItemPattern

theorem FieldInvariant.cacheBlind_compile {o : PatternOptions} {F : List Matcher × Nat → Prop}
    (hF : FieldInvariant o.external F) (text : String) :
    CacheBlind (ItemPattern.Yields o F) (ItemPattern.compile text o) := by
  unfold ItemPattern.compile
  refine (cacheBlind_resolveType o _).bind ?_
  rintro ⟨t, parts⟩ -
  dsimp only
  have perField : ∀ ms groups, F (ms, groups) →
      CacheBlind (ItemPattern.Yields o F) (pure ⟨text, t, .perField ms, o.external, groups⟩) :=
    fun _ _ h => .pure ⟨rfl, h⟩
  split
  · exact (hF.cacheBlind_named o text t parts).bind fun _ h => perField _ _ h
  · split
    · split
      · rename_i single _ _
        refine (cacheBlind_fieldSegment o 0 single).bind fun _ hm =>
          .pure ⟨rfl, ⟨single, by simpa using hm.1⟩, rfl⟩
      · exact (hF.cacheBlind_positional o text t _).bind fun _ h => perField _ _ h
    · exact (hF.cacheBlind_positional o text t _).bind fun _ h => perField _ _ h

namespace ItemPattern

/-- Compiling an item pattern does not see the cache, and gives a pattern with the caller's
external groups and aligned counts. -/
theorem cacheBlind_compile (text : String) (o : PatternOptions) :
    CacheBlind (fun p => p.external = o.external ∧ p.CountsAligned) (compile text o) :=
  ((countedFields_invariant o.external).cacheBlind_compile text).mono fun _ h =>
    ⟨h.1, h.countsAligned fun _ hacc => hacc⟩

end ItemPattern


namespace DependencyPattern

/-- A dependency pattern whose used side has room for the external groups followed by the
using side's groups. -/
structure CountsAligned (d : DependencyPattern) : Prop where
  using_external : d.usingPattern.external = d.external
  used_external : d.usedPattern.external = d.external + d.usingPattern.groupCount
  using_aligned : d.usingPattern.CountsAligned
  used_aligned : d.usedPattern.CountsAligned

theorem cacheBlind_compile (usingText usedText : String) (o : PatternOptions) :
    CacheBlind (fun d => d.external = o.external ∧ d.CountsAligned)
      (compile usingText usedText o) := by
  unfold compile
  refine (ItemPattern.cacheBlind_compile usingText o).bind ?_
  rintro u ⟨hu, hua⟩
  refine (ItemPattern.cacheBlind_compile usedText _).bind ?_
  rintro v ⟨hv, hva⟩
  exact .pure ⟨rfl, hu, hv, hua, hva⟩

end DependencyPattern

/-- The calls a registry serves, whatever they give back. -/
inductive RegistryCall where
  | compileSegment (segment : String) (o : Segment.Options)
  | compileItem (text : String) (o : PatternOptions)
  | compileDependency (usingText usedText : String) (o : PatternOptions)
  | registerType (t : ItemType)
  | clearCache

/-- The registry after a call. -/
def RegistryCall.apply : RegistryCall → Registry → Registry
  | .compileSegment s o, r => (Conformance.compileSegment s o).after r
  | .compileItem text o, r => (ItemPattern.compile text o).after r
  | .compileDependency u v o, r => (DependencyPattern.compile u v o).after r
  | .registerType t, r => (r.registerType t).2
  | .clearCache, r => r.clearCache

namespace Registry

/-- The registries a sequence of calls leads to from an empty one. -/
inductive Reachable : Registry → Prop
  | empty : Reachable {}
  | call {r : Registry} (c : RegistryCall) : Reachable r → Reachable (c.apply r)

theorem CacheSound.of_cache_eq {r r' : Registry} (h : r.CacheSound) (hc : r'.cache = r.cache) :
    r'.CacheSound := by
  obtain ⟨hcompile, hnodup⟩ := h
  exact ⟨hc ▸ hcompile, hc ▸ hnodup⟩

theorem registerType_cache (r : Registry) (t : ItemType) : (r.registerType t).2.cache = r.cache := by
  unfold registerType
  split <;> rfl

theorem CacheSound.compileSegment_after {r : Registry} (h : r.CacheSound) (s : String)
    (o : Segment.Options) : ((compileSegment s o).after r).CacheSound := by
  unfold Build.after
  cases hc : Segment.compile s o with
  | error e => rw [h.compileSegment_error hc]; exact h
  | ok m =>
    obtain ⟨_, r', hr', -, hs', -⟩ := h.compileSegment_ok hc
    rw [hr']
    exact hs'

/-- Every call keeps the cache sound. -/
theorem CacheSound.apply {r : Registry} (h : r.CacheSound) (c : RegistryCall) :
    (c.apply r).CacheSound := by
  cases c with
  | compileSegment s o => exact h.compileSegment_after s o
  | compileItem text o => exact (ItemPattern.cacheBlind_compile text o).sound_after h
  | compileDependency u v o => exact (DependencyPattern.cacheBlind_compile u v o).sound_after h
  | registerType t => exact h.of_cache_eq (registerType_cache r t)
  | clearCache => exact .of_cache_nil rfl

theorem Reachable.cacheSound {r : Registry} (hr : r.Reachable) : r.CacheSound := by
  induction hr with
  | empty => exact .of_cache_nil rfl
  | call c _ ih => exact ih.apply c

end Registry

end Conformance
