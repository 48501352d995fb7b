import Mathlib
import Conformance.Registry

/-!
The segment cache cannot be observed. `Registry.CacheSound` (every entry holds what its key
compiles to afresh, no key twice) makes a segment compiled through the cache give its fresh
matcher or error, and `Build.CacheBlind` builds give the same value or error in registries with
the same types and sound caches; binding, reading only the types and using only a segment's
matcher keep it, and everything that compiles patterns is built from these.
-/

set_option autoImplicit false
set_option relaxedAutoImplicit false

namespace Conformance

instance : LawfulBEq SegmentKey where
  eq_of_beq {a b} h := by
    cases a; cases b
    simp_all [BEq.beq, instBEqSegmentKey.beq]
  rfl {a} := by
    cases a
    simp [BEq.beq, instBEqSegmentKey.beq]

namespace Registry

/-- Every cache entry holds what its key compiles to, and no key is cached twice. -/
structure CacheSound (r : Registry) : Prop where
  compile_eq : ∀ e ∈ r.cache,
    Segment.compile e.key.segment ⟨e.key.external, e.key.ignoreCase⟩ = .ok e.matcher
  keys_nodup : (r.cache.map (·.key)).Nodup

/-- Registries no compilation tells apart: the same types and sound caches. -/
structure Similar (r₁ r₂ : Registry) : Prop where
  types_eq : r₁.types = r₂.types
  sound_left : r₁.CacheSound
  sound_right : r₂.CacheSound

theorem CacheSound.of_cache_nil {r : Registry} (h : r.cache = []) : r.CacheSound where
  compile_eq := by simp [h]
  keys_nodup := by simp [h]

theorem CacheSound.similar {r : Registry} (h : r.CacheSound) : r.Similar r := ⟨rfl, h, h⟩

end Registry

section CompileSegment

variable {s : String} {o : Segment.Options} {r : Registry}

theorem compileSegment_cached {e : CacheEntry}
    (hfind : r.cache.find? (·.key == ⟨s, o.external, o.ignoreCase⟩) = some e) :
    compileSegment s o r = .ok (e.matcher, e.serial) r := by
  simp only [compileSegment, bind, EStateM.bind, get, getThe, MonadStateOf.get, EStateM.get,
    hfind, pure, EStateM.pure]

theorem compileSegment_new {m : Matcher}
    (hfind : r.cache.find? (·.key == ⟨s, o.external, o.ignoreCase⟩) = none)
    (hm : Segment.compile s o = .ok m) :
    compileSegment s o r = .ok (m, r.serial)
      { r with cache := r.cache ++ [⟨⟨s, o.external, o.ignoreCase⟩, r.serial, m⟩],
               serial := r.serial + 1 } := by
  simp only [compileSegment, bind, EStateM.bind, get, getThe, MonadStateOf.get, EStateM.get,
    hfind, hm, pure, EStateM.pure, set, EStateM.set, MonadStateOf.set]

theorem compileSegment_failed {e : Error}
    (hfind : r.cache.find? (·.key == ⟨s, o.external, o.ignoreCase⟩) = none)
    (he : Segment.compile s o = .error e) :
    compileSegment s o r = .error e r := by
  simp only [compileSegment, bind, EStateM.bind, get, getThe, MonadStateOf.get, EStateM.get,
    hfind, he, throw, throwThe, MonadExceptOf.throw, EStateM.throw]

theorem Registry.CacheSound.compile_of_find? (h : r.CacheSound) {e : CacheEntry}
    (hfind : r.cache.find? (·.key == ⟨s, o.external, o.ignoreCase⟩) = some e) :
    Segment.compile s o = .ok e.matcher := by
  have hkey : e.key = ⟨s, o.external, o.ignoreCase⟩ := by simpa using List.find?_some hfind
  simpa [hkey] using h.compile_eq e (List.mem_of_find?_eq_some hfind)

theorem find?_key_eq_none_iff {k : SegmentKey} :
    r.cache.find? (·.key == k) = none ↔ k ∉ r.cache.map (·.key) := by
  simp [List.find?_eq_none]

/-- Through a sound cache, a segment that compiles gives its fresh matcher; the cache gains its
key unless it held it already, and stays sound. -/
theorem Registry.CacheSound.compileSegment_ok (h : r.CacheSound) {m : Matcher}
    (hm : Segment.compile s o = .ok m) :
    ∃ n r', compileSegment s o r = .ok (m, n) r' ∧ r'.types = r.types ∧ r'.CacheSound ∧
      r'.cache.map (·.key) = if ⟨s, o.external, o.ignoreCase⟩ ∈ r.cache.map (·.key)
        then r.cache.map (·.key) else r.cache.map (·.key) ++ [⟨s, o.external, o.ignoreCase⟩] := by
  cases hfind : r.cache.find? (·.key == ⟨s, o.external, o.ignoreCase⟩) with
  | some e =>
    have hkey : ⟨s, o.external, o.ignoreCase⟩ ∈ r.cache.map (·.key) :=
      List.mem_map.mpr ⟨e, List.mem_of_find?_eq_some hfind, by simpa using List.find?_some hfind⟩
    have he : e.matcher = m := by
      simpa [hm] using (h.compile_of_find? hfind).symm
    exact ⟨e.serial, r, by rw [compileSegment_cached hfind, he], rfl, h, by simp [hkey]⟩
  | none =>
    have hkey := find?_key_eq_none_iff.mp hfind
    refine ⟨r.serial, _, compileSegment_new hfind hm, rfl, ⟨?_, ?_⟩, by simp [hkey]⟩
    · intro e he
      rcases List.mem_append.mp he with he | he
      · exact h.compile_eq e he
      · simp only [List.mem_singleton] at he
        subst he
        exact hm
    · simp only [List.map_append, List.map_singleton]
      exact List.nodup_append.mpr ⟨h.keys_nodup, by simp,
        fun a ha b hb => by rw [List.mem_singleton.mp hb]; rintro rfl; exact hkey ha⟩

/-- Through a sound cache, a segment that does not compile fails with the same error and leaves
the registry as it was. -/
theorem Registry.CacheSound.compileSegment_error (h : r.CacheSound) {e : Error}
    (he : Segment.compile s o = .error e) : compileSegment s o r = .error e r := by
  cases hfind : r.cache.find? (·.key == ⟨s, o.external, o.ignoreCase⟩) with
  | some c => simp [h.compile_of_find? hfind] at he
  | none => exact compileSegment_failed hfind he

theorem compileSegment_error_registry {e : Error} {r' : Registry}
    (h : compileSegment s o r = .error e r') : r' = r := by
  cases hfind : r.cache.find? (·.key == ⟨s, o.external, o.ignoreCase⟩) with
  | some c => simp [compileSegment_cached hfind] at h
  | none =>
    cases hm : Segment.compile s o with
    | ok m => simp [compileSegment_new hfind hm] at h
    | error e' =>
      rw [compileSegment_failed hfind hm] at h
      cases h
      rfl

end CompileSegment

namespace Build

variable {α β : Type}

/-- Two runs that agree: the same value, satisfying `Q`, or the same error, each ending in a
registry the other cannot be told from. -/
def Agree (Q : α → Prop) : EStateM.Result Error Registry α → EStateM.Result Error Registry α → Prop
  | .ok a r₁, .ok b r₂ => a = b ∧ Q a ∧ r₁.Similar r₂
  | .error e₁ r₁, .error e₂ r₂ => e₁ = e₂ ∧ r₁.Similar r₂
  | _, _ => False

/-- A build the cache cannot steer: similar registries give the same value or the same error
and stay similar, and every value satisfies `Q`. -/
def CacheBlind (Q : α → Prop) (x : Build α) : Prop :=
  ∀ ⦃r₁ r₂ : Registry⦄, r₁.Similar r₂ → Agree Q (x r₁) (x r₂)

variable {Q : α → Prop} {Q' : β → Prop}

theorem CacheBlind.pure {a : α} (h : Q a) : CacheBlind Q (pure a) :=
  fun _ _ hs => ⟨rfl, h, hs⟩

theorem CacheBlind.mono {R : α → Prop} {x : Build α} (hx : CacheBlind Q x)
    (h : ∀ a, Q a → R a) : CacheBlind R x := by
  intro r₁ r₂ hs
  have hq := hx hs
  cases h₁ : x r₁ <;> cases h₂ : x r₂ <;> rw [h₁, h₂] at hq <;> simp only [Agree] at hq ⊢
  · exact ⟨hq.1, h _ hq.2.1, hq.2.2⟩
  · exact hq

theorem CacheBlind.throw (e : Error) : CacheBlind Q (throw e) :=
  fun _ _ hs => ⟨rfl, hs⟩

theorem CacheBlind.bind {x : Build α} {k : α → Build β}
    (hx : CacheBlind Q x) (hk : ∀ a, Q a → CacheBlind Q' (k a)) : CacheBlind Q' (x >>= k) := by
  intro r₁ r₂ hs
  have h := hx hs
  show Agree Q' (EStateM.bind x k r₁) (EStateM.bind x k r₂)
  unfold EStateM.bind
  cases h₁ : x r₁ with
  | ok a s₁ =>
    cases h₂ : x r₂ with
    | ok b s₂ =>
      rw [h₁, h₂] at h
      obtain ⟨rfl, ha, hs'⟩ := h
      exact hk a ha hs'
    | error e s₂ => rw [h₁, h₂] at h; exact h.elim
  | error e s₁ =>
    cases h₂ : x r₂ with
    | ok b s₂ => rw [h₁, h₂] at h; exact h.elim
    | error e' s₂ => rw [h₁, h₂] at h; exact h

theorem CacheBlind.get_bind {k : Registry → Build α}
    (hk : ∀ r₁ r₂ : Registry, r₁.types = r₂.types → k r₁ = k r₂) (h : ∀ r, CacheBlind Q (k r)) :
    CacheBlind Q (get >>= k) := by
  intro r₁ r₂ hs
  show Agree Q (k r₁ r₁) (k r₂ r₂)
  rw [hk r₁ r₂ hs.types_eq]
  exact h r₂ hs

/-- The registry a build leaves, whether it succeeds or fails. -/
def after (x : Build α) (r : Registry) : Registry :=
  match x r with
  | .ok _ r' => r'
  | .error _ r' => r'

/-- What a build gives, the registry it leaves aside. -/
def outcome (x : Build α) (r : Registry) : Except Error α :=
  match x r with
  | .ok a _ => .ok a
  | .error e _ => .error e

theorem CacheBlind.outcome_eq {x : Build α} (h : CacheBlind Q x) {r₁ r₂ : Registry}
    (hs : r₁.Similar r₂) : x.outcome r₁ = x.outcome r₂ := by
  have h := h hs
  unfold outcome
  cases h₁ : x r₁ <;> cases h₂ : x r₂ <;> rw [h₁, h₂] at h <;> simp only [Agree] at h ⊢
  · rw [h.1]
  · rw [h.1]

theorem CacheBlind.sound_after {x : Build α} (h : CacheBlind Q x) {r : Registry}
    (hr : r.CacheSound) : (x.after r).CacheSound := by
  have h := h hr.similar
  unfold after
  cases h₁ : x r <;> rw [h₁] at h <;> simp only [Agree] at h ⊢
  · exact h.2.2.sound_left
  · exact h.2.sound_left

theorem CacheBlind.of_outcome_ok {x : Build α} (h : CacheBlind Q x) {r : Registry}
    (hr : r.CacheSound) {a : α} (hx : x.outcome r = .ok a) : Q a := by
  have h := h hr.similar
  unfold outcome at hx
  cases h₁ : x r <;> rw [h₁] at h hx <;> simp only [Agree] at h
  · cases hx
    exact h.2.1
  · cases hx

theorem CacheBlind.throw_bind {e : Error} {k : α → Build β} : CacheBlind Q' (MonadExcept.throw e >>= k) :=
  (CacheBlind.throw (Q := fun _ => False) e).bind fun _ => False.elim

theorem bind_ok {x : Build α} {k : α → Build β} {r r' : Registry} {a : α}
    (h : x r = .ok a r') : (x >>= k) r = k a r' := by
  show EStateM.bind x k r = _
  simp only [EStateM.bind, h]

theorem bind_error {x : Build α} {k : α → Build β} {r r' : Registry} {e : Error}
    (h : x r = .error e r') : (x >>= k) r = .error e r' := by
  show EStateM.bind x k r = _
  simp only [EStateM.bind, h]

/-- What is built from a segment's matcher, its cache serial aside, does not see the cache. -/
theorem CacheBlind.compileSegment_bind {s : String} {o : Segment.Options} {k : Matcher → Build α}
    (hk : ∀ m, Segment.compile s o = .ok m → CacheBlind Q (k m)) :
    CacheBlind Q (compileSegment s o >>= fun p => k p.1) := by
  intro r₁ r₂ hs
  cases hc : Segment.compile s o with
  | error e =>
    rw [bind_error (hs.sound_left.compileSegment_error hc),
      bind_error (hs.sound_right.compileSegment_error hc)]
    exact ⟨rfl, hs⟩
  | ok m =>
    obtain ⟨_, r₁', h₁, ht₁, hs₁, -⟩ := hs.sound_left.compileSegment_ok hc
    obtain ⟨_, r₂', h₂, ht₂, hs₂, -⟩ := hs.sound_right.compileSegment_ok hc
    rw [bind_ok h₁, bind_ok h₂]
    exact hk m hc ⟨by rw [ht₁, ht₂, hs.types_eq], hs₁, hs₂⟩

end Build

namespace Registry.CacheSound

variable {s : String} {o : Segment.Options} {r : Registry}

theorem compileSegment_outcome (h : r.CacheSound) :
    Prod.fst <$> (compileSegment s o).outcome r = Segment.compile s o := by
  unfold Build.outcome
  cases hc : Segment.compile s o with
  | error e => rw [h.compileSegment_error hc]; rfl
  | ok m =>
    obtain ⟨_, _, hr', -⟩ := h.compileSegment_ok hc
    rw [hr']
    rfl

theorem cachedSegments_after (h : r.CacheSound) :
    ((compileSegment s o).after r).cachedSegments = r.cachedSegments +
      if (Segment.compile s o).isOk ∧ ⟨s, o.external, o.ignoreCase⟩ ∉ r.cache.map (·.key)
      then 1 else 0 := by
  unfold Build.after Registry.cachedSegments
  cases hc : Segment.compile s o with
  | error e => simp [h.compileSegment_error hc, Except.isOk, Except.toBool]
  | ok m =>
    obtain ⟨_, r', hr', -, -, hkeys⟩ := h.compileSegment_ok hc
    have hlen := congrArg List.length hkeys
    rw [hr']
    by_cases hmem : (⟨s, o.external, o.ignoreCase⟩ : SegmentKey) ∈ r.cache.map (·.key) <;>
      simp [hmem] at hlen ⊢ <;> exact hlen

end Registry.CacheSound

end Conformance
