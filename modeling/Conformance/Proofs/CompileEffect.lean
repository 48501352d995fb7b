import Conformance.Proofs.PatternCompile

/-!
What compiling does to a registry's types and cache. A `Build.SegmentEffect` keeps the types,
cannot see the cache, and leaves cached the keys cached before together with those it caches
afresh, from the same types and an empty cache. Every build of an item or dependency pattern is
one, and a segment compiled directly caches its own key exactly when it compiles. Over calls that
do not clear the cache, the cached segments are therefore the distinct keys among those cached at
the start and those each call caches afresh; since the last clearing, the distinct keys that the
calls after it compile.
-/

set_option autoImplicit false
set_option relaxedAutoImplicit false

namespace Conformance

namespace Build

variable {α β : Type}

/-- A build that leaves the registered types as they were, whether it succeeds or fails. -/
def KeepsTypes (x : Build α) : Prop := ∀ r, (x.after r).types = r.types

theorem KeepsTypes.pure (a : α) : KeepsTypes (Pure.pure a : Build α) := fun _ => rfl

theorem KeepsTypes.throw (e : Error) : KeepsTypes (MonadExcept.throw e : Build α) := fun _ => rfl

theorem KeepsTypes.throw_bind {e : Error} {k : α → Build β} :
    KeepsTypes (MonadExcept.throw e >>= k) := fun _ => rfl

theorem after_bind_ok {x : Build α} {k : α → Build β} {r r' : Registry} {a : α}
    (h : x r = .ok a r') : (x >>= k).after r = (k a).after r' := by
  unfold after
  rw [bind_ok h]

theorem after_bind_error {x : Build α} {k : α → Build β} {r r' : Registry} {e : Error}
    (h : x r = .error e r') : (x >>= k).after r = r' := by
  unfold after
  rw [bind_error h]

theorem KeepsTypes.bind {x : Build α} {k : α → Build β} (hx : KeepsTypes x)
    (hk : ∀ a, KeepsTypes (k a)) : KeepsTypes (x >>= k) := by
  intro r
  have hr := hx r
  unfold after at hr
  cases h : x r with
  | ok a r' =>
    rw [h] at hr
    rw [after_bind_ok h, ← hr]
    exact hk a r'
  | error e r' =>
    rw [h] at hr
    rw [after_bind_error h]
    exact hr

theorem KeepsTypes.get_bind {k : Registry → Build α} (hk : ∀ r, KeepsTypes (k r)) :
    KeepsTypes (get >>= k) := fun r => hk r r

theorem KeepsTypes.types_after_fresh {x : Build α} (h : KeepsTypes x) (r : Registry) :
    (x.after r).types = (x.after { types := r.types }).types :=
  (h r).trans (h { types := r.types }).symm

/-- The keys a build leaves cached when it starts from the given types and an empty cache. -/
def freshKeys (x : Build α) (types : List ItemType) : List SegmentKey :=
  (x.after { types }).cache.map (·.key)

/-- A build that leaves in a sound cache the keys it held and those the build caches afresh. -/
def CachesFresh (x : Build α) : Prop :=
  ∀ r : Registry, r.CacheSound → ∀ k,
    k ∈ (x.after r).cache.map (·.key) ↔ k ∈ r.cache.map (·.key) ∨ k ∈ x.freshKeys r.types

theorem CachesFresh.of_after_eq {x : Build α} (h : ∀ r, x.after r = r) : CachesFresh x := by
  intro r _ k
  simp [freshKeys, h]

/-- What a step of compilation does to a registry: it keeps the types, gives what it gives in
any similar registry, and adds to the cache what it caches afresh. -/
structure SegmentEffect (x : Build α) : Prop where
  keepsTypes : KeepsTypes x
  blind : CacheBlind (fun _ => True) x
  caches : CachesFresh x

theorem SegmentEffect.pure (a : α) : SegmentEffect (Pure.pure a : Build α) :=
  ⟨.pure a, .pure trivial, .of_after_eq fun _ => rfl⟩

theorem SegmentEffect.throw (e : Error) : SegmentEffect (MonadExcept.throw e : Build α) :=
  ⟨.throw e, .throw e, .of_after_eq fun _ => rfl⟩

theorem SegmentEffect.throw_bind {e : Error} {k : α → Build β} :
    SegmentEffect (MonadExcept.throw e >>= k) :=
  ⟨.throw_bind, .throw_bind, .of_after_eq fun _ => rfl⟩

theorem CachesFresh.bind {x : Build α} {k : α → Build β} (hx : SegmentEffect x)
    (hk : ∀ a, SegmentEffect (k a)) : CachesFresh (x >>= k) := by
  intro r hr key
  have hfresh : r.Similar { types := r.types } := ⟨rfl, hr, .of_cache_nil rfl⟩
  have hagree := hx.blind hfresh
  have hkeys := hx.caches r hr key
  rw [freshKeys] at hkeys ⊢
  cases h₁ : x r with
  | ok a r₁ =>
    cases h₂ : x { types := r.types } with
    | ok b f₁ =>
      rw [h₁, h₂] at hagree
      obtain ⟨rfl, -, hsim⟩ := hagree
      have e₁ : x.after r = r₁ := by simp [after, h₁]
      have e₂ : x.after { types := r.types } = f₁ := by simp [after, h₂]
      have ht₁ : r₁.types = r.types := e₁ ▸ hx.keepsTypes r
      have hf₁ : f₁.types = r.types := e₂ ▸ hx.keepsTypes _
      rw [e₁, e₂] at hkeys
      rw [after_bind_ok h₁, after_bind_ok h₂, (hk a).caches r₁ hsim.sound_left key,
        (hk a).caches f₁ hsim.sound_right key, hkeys, ht₁, hf₁, or_assoc]
    | error e f₁ => rw [h₁, h₂] at hagree; exact hagree.elim
  | error e r₁ =>
    cases h₂ : x { types := r.types } with
    | ok b f₁ => rw [h₁, h₂] at hagree; exact hagree.elim
    | error e' f₁ =>
      rw [after_bind_error h₁, after_bind_error h₂]
      simpa [after, h₁, h₂] using hkeys

theorem SegmentEffect.bind {x : Build α} {k : α → Build β} (hx : SegmentEffect x)
    (hk : ∀ a, SegmentEffect (k a)) : SegmentEffect (x >>= k) :=
  ⟨hx.keepsTypes.bind fun a => (hk a).keepsTypes, hx.blind.bind fun a _ => (hk a).blind,
    .bind hx hk⟩

theorem SegmentEffect.get_bind {k : Registry → Build α}
    (hk : ∀ r₁ r₂ : Registry, r₁.types = r₂.types → k r₁ = k r₂)
    (h : ∀ r, SegmentEffect (k r)) : SegmentEffect (get >>= k) := by
  refine ⟨.get_bind fun r => (h r).keepsTypes, .get_bind hk fun r => (h r).blind, ?_⟩
  intro r hr key
  show key ∈ ((k r).after r).cache.map (·.key) ↔
    key ∈ r.cache.map (·.key) ∨
      key ∈ ((k { types := r.types }).after { types := r.types }).cache.map (·.key)
  rw [hk { types := r.types } r rfl]
  exact (h r).caches r hr key

end Build

open Build

section CompileSegment

variable {α : Type} {s : String} {o : Segment.Options}

theorem keepsTypes_compileSegment (s : String) (o : Segment.Options) :
    KeepsTypes (compileSegment s o) := by
  intro r
  unfold Build.after
  cases hfind : r.cache.find? (·.key == ⟨s, o.external, o.ignoreCase⟩) with
  | some e => rw [compileSegment_cached hfind]
  | none =>
    cases hm : Segment.compile s o with
    | ok m => rw [compileSegment_new hfind hm]
    | error e => rw [compileSegment_failed hfind hm]

theorem Registry.CacheSound.compileSegment_keys {r : Registry} (h : r.CacheSound) {m : Matcher}
    (hm : Segment.compile s o = .ok m) :
    ∃ n r', compileSegment s o r = .ok (m, n) r' ∧ r'.types = r.types ∧ r'.CacheSound ∧
      ∀ k, k ∈ r'.cache.map (·.key) ↔
        k ∈ r.cache.map (·.key) ∨ k = ⟨s, o.external, o.ignoreCase⟩ := by
  obtain ⟨n, r', hr', ht, hs, hkeys⟩ := h.compileSegment_ok hm
  refine ⟨n, r', hr', ht, hs, fun k => ?_⟩
  rw [hkeys]
  split_ifs with hmem
  · exact ⟨.inl, fun hk => hk.elim id fun h => h ▸ hmem⟩
  · simp

theorem Registry.CacheSound.mem_keys_compileSegment {r : Registry} (h : r.CacheSound)
    (k : SegmentKey) :
    k ∈ ((compileSegment s o).after r).cache.map (·.key) ↔
      k ∈ r.cache.map (·.key) ∨
        (Segment.compile s o).isOk ∧ k = ⟨s, o.external, o.ignoreCase⟩ := by
  cases hc : Segment.compile s o with
  | error e => simp [Build.after, h.compileSegment_error hc, Except.isOk, Except.toBool]
  | ok m =>
    obtain ⟨_, r', hr', -, -, hkeys⟩ := h.compileSegment_keys hc
    simp [Build.after, hr', hkeys, Except.isOk, Except.toBool]

theorem freshKeys_compileSegment (types : List ItemType) :
    (compileSegment s o).freshKeys types =
      if (Segment.compile s o).isOk then [⟨s, o.external, o.ignoreCase⟩] else [] := by
  have hfresh : ({ types } : Registry).CacheSound := .of_cache_nil rfl
  cases hc : Segment.compile s o with
  | error e => simp [freshKeys, Build.after, hfresh.compileSegment_error hc, Except.isOk,
      Except.toBool]
  | ok m =>
    obtain ⟨_, r', hr', -, -, hkeys⟩ := hfresh.compileSegment_ok hc
    simp [freshKeys, Build.after, hr', hkeys, Except.isOk, Except.toBool]

theorem cachesFresh_compileSegment : CachesFresh (compileSegment s o) := by
  intro r hr k
  rw [hr.mem_keys_compileSegment, freshKeys_compileSegment]
  split <;> simp_all

/-- What is built from a segment's matcher, its cache serial aside, has the effect of a step of
compilation when every build after it has. -/
theorem Build.SegmentEffect.compileSegment_bind {k : Matcher → Build α}
    (hk : ∀ m, SegmentEffect (k m)) : SegmentEffect (compileSegment s o >>= fun p => k p.1) := by
  refine ⟨(keepsTypes_compileSegment s o).bind fun p => (hk p.1).keepsTypes,
    CacheBlind.compileSegment_bind fun m _ => (hk m).blind, ?_⟩
  intro r hr key
  have hfresh : ({ types := r.types } : Registry).CacheSound := .of_cache_nil rfl
  rw [freshKeys]
  cases hc : Segment.compile s o with
  | error e =>
    rw [after_bind_error (hr.compileSegment_error hc),
      after_bind_error (hfresh.compileSegment_error hc)]
    simp
  | ok m =>
    obtain ⟨_, r₁, h₁, ht₁, hs₁, hk₁⟩ := hr.compileSegment_keys hc
    obtain ⟨_, f₁, h₂, hf₁, hs₂, hk₂⟩ := hfresh.compileSegment_keys hc
    rw [after_bind_ok h₁, after_bind_ok h₂, (hk m).caches r₁ hs₁ key, (hk m).caches f₁ hs₂ key,
      hk₁, hk₂, ht₁, hf₁]
    simp [or_assoc]

end CompileSegment

section Builders

variable (o : PatternOptions)

theorem segmentEffect_fieldSegment (groups : Nat) (segment : String) :
    SegmentEffect (fieldSegment o groups segment) := by
  show SegmentEffect (compileSegment _ _ >>= fun p => pure (p.1, groups + p.1.groupCount))
  exact .compileSegment_bind fun m => .pure (m, groups + m.groupCount)

theorem segmentEffect_anyMatcher : SegmentEffect anyMatcher :=
  .compileSegment_bind fun _ => .pure _

theorem segmentEffect_padAny (acc : List Matcher) (count : Nat) :
    SegmentEffect (padAny acc count) := by
  unfold padAny
  split
  · exact .pure _
  · exact segmentEffect_anyMatcher.bind fun _ => .pure _

theorem segmentEffect_positionalPieces (t : ItemType) (tooMany : Error) (pieces : List String)
    (acc : List Matcher × Nat) : SegmentEffect (positionalPieces o t tooMany pieces acc) := by
  induction pieces generalizing acc with
  | nil =>
    unfold positionalPieces
    exact .pure _
  | cons piece rest ih =>
    obtain ⟨ms, groups⟩ := acc
    unfold positionalPieces
    simp only
    split
    · exact .throw_bind
    · exact (segmentEffect_fieldSegment o groups piece).bind fun _ => ih _

theorem segmentEffect_positionalParts (t : ItemType) (tooMany : Error) (parts : List String)
    (acc : List Matcher × Nat) : SegmentEffect (positionalParts o t tooMany parts acc) := by
  induction parts generalizing acc with
  | nil =>
    unfold positionalParts
    exact .pure _
  | cons part rest ih =>
    unfold positionalParts
    exact (segmentEffect_positionalPieces o t tooMany _ acc).bind fun _ =>
      (segmentEffect_padAny _ _).bind fun _ => ih _

theorem segmentEffect_positional (text : String) (t : ItemType) (parts : List String) :
    SegmentEffect (positional o text t parts) := by
  unfold positional
  exact (segmentEffect_positionalParts o t _ parts _).bind fun _ =>
    (segmentEffect_padAny _ _).bind fun _ => .pure _

theorem segmentEffect_namedSegments (assigned : List (Option String)) (acc : List Matcher × Nat) :
    SegmentEffect (namedSegments o assigned acc) := by
  induction assigned generalizing acc with
  | nil =>
    unfold namedSegments
    exact .pure _
  | cons entry rest ih =>
    obtain ⟨ms, groups⟩ := acc
    cases entry with
    | some segment =>
      unfold namedSegments
      exact (segmentEffect_fieldSegment o groups segment).bind fun _ => ih _
    | none =>
      unfold namedSegments
      exact segmentEffect_anyMatcher.bind fun _ => ih _

theorem segmentEffect_named (text : String) (t : ItemType) (parts : List String) :
    SegmentEffect (named o text t parts) := by
  unfold named
  split
  · exact .throw _
  · exact segmentEffect_namedSegments o _ _

theorem segmentEffect_resolveType (parts : List String) : SegmentEffect (resolveType o parts) := by
  unfold resolveType
  refine SegmentEffect.get_bind ?_ fun r => ?_
  · intro r₁ r₂ h
    simp only [Registry.typeNames, Registry.itemType?, h]
  · simp only
    split
    · split
      · exact .pure _
      · split
        · exact .pure _
        · exact .throw _
    · split
      · exact .pure _
      · exact .throw _

theorem ItemPattern.segmentEffect_compile (text : String) :
    SegmentEffect (ItemPattern.compile text o) := by
  unfold ItemPattern.compile
  refine (segmentEffect_resolveType o _).bind fun _ => ?_
  dsimp only
  split
  · exact (segmentEffect_named o _ _ _).bind fun _ => .pure _
  · split
    · split
      · exact (segmentEffect_fieldSegment o 0 _).bind fun _ => .pure _
      · exact (segmentEffect_positional o _ _ _).bind fun _ => .pure _
    · exact (segmentEffect_positional o _ _ _).bind fun _ => .pure _

end Builders

theorem DependencyPattern.segmentEffect_compile (usingText usedText : String)
    (o : PatternOptions) : SegmentEffect (DependencyPattern.compile usingText usedText o) := by
  unfold DependencyPattern.compile
  exact (ItemPattern.segmentEffect_compile o usingText).bind fun _ =>
    (ItemPattern.segmentEffect_compile _ usedText).bind fun _ => .pure _

namespace RegistryCall

/-- The keys a call leaves cached when it starts from the given types and an empty cache. -/
def freshKeys (c : RegistryCall) (types : List ItemType) : List SegmentKey :=
  (c.apply { types }).cache.map (·.key)

/-- The keys each call of a sequence caches afresh, from the types the calls before it leave. -/
def runKeys : List ItemType → List RegistryCall → List SegmentKey
  | _, [] => []
  | types, c :: cs => c.freshKeys types ++ runKeys (c.apply { types }).types cs

theorem types_apply (c : RegistryCall) (r : Registry) :
    (c.apply r).types = (c.apply { types := r.types }).types := by
  cases c with
  | compileSegment s o =>
    simp only [apply]
    exact (keepsTypes_compileSegment s o).types_after_fresh r
  | compileItem text o =>
    simp only [apply]
    exact (ItemPattern.segmentEffect_compile o text).keepsTypes.types_after_fresh r
  | compileDependency u v o =>
    simp only [apply]
    exact (DependencyPattern.segmentEffect_compile u v o).keepsTypes.types_after_fresh r
  | registerType t =>
    cases hfind : r.types.find? fun u => Text.eqIgnoreAsciiCase u.name t.name <;>
      simp [apply, Registry.registerType, hfind]
  | clearCache => rfl

theorem mem_keys_apply {c : RegistryCall} (hc : c ≠ .clearCache) {r : Registry}
    (hr : r.CacheSound) (k : SegmentKey) :
    k ∈ (c.apply r).cache.map (·.key) ↔ k ∈ r.cache.map (·.key) ∨ k ∈ c.freshKeys r.types := by
  cases c with
  | compileSegment s o => exact cachesFresh_compileSegment r hr k
  | compileItem text o => exact (ItemPattern.segmentEffect_compile o text).caches r hr k
  | compileDependency u v o => exact (DependencyPattern.segmentEffect_compile u v o).caches r hr k
  | registerType t => simp [freshKeys, apply, Registry.registerType_cache]
  | clearCache => exact absurd rfl hc

theorem compiles_of_mem_freshKeys {c : RegistryCall} {types : List ItemType} {k : SegmentKey}
    (hk : k ∈ c.freshKeys types) :
    (Segment.compile k.segment ⟨k.external, k.ignoreCase⟩).isOk := by
  obtain ⟨e, he, rfl⟩ := List.mem_map.mp hk
  rw [((Registry.CacheSound.of_cache_nil rfl).apply c).compile_eq e he]
  rfl

theorem cacheSound_foldl (cs : List RegistryCall) {r : Registry} (hr : r.CacheSound) :
    (cs.foldl (fun r c => c.apply r) r).CacheSound := by
  induction cs generalizing r with
  | nil => exact hr
  | cons c cs ih => exact ih (hr.apply c)

theorem mem_keys_foldl {cs : List RegistryCall} (hcs : ∀ c ∈ cs, c ≠ .clearCache) {r : Registry}
    (hr : r.CacheSound) (k : SegmentKey) :
    k ∈ (cs.foldl (fun r c => c.apply r) r).cache.map (·.key) ↔
      k ∈ r.cache.map (·.key) ∨ k ∈ runKeys r.types cs := by
  induction cs generalizing r with
  | nil => simp [runKeys]
  | cons c cs ih =>
    have hc := hcs c List.mem_cons_self
    rw [List.foldl_cons, ih (fun c' h => hcs c' (List.mem_cons_of_mem c h)) (hr.apply c),
      mem_keys_apply hc hr, types_apply c r, runKeys, List.mem_append, or_assoc]

/-- Over calls that do not clear the cache, the cached segments are the distinct keys among those
cached at the start and those each call caches afresh. -/
theorem cachedSegments_foldl {cs : List RegistryCall} (hcs : ∀ c ∈ cs, c ≠ .clearCache)
    {r : Registry} (hr : r.CacheSound) :
    (cs.foldl (fun r c => c.apply r) r).cachedSegments =
      (r.cache.map (·.key) ++ runKeys r.types cs).toFinset.card := by
  have hnodup := (cacheSound_foldl cs hr).keys_nodup
  calc (cs.foldl (fun r c => c.apply r) r).cachedSegments
      = ((cs.foldl (fun r c => c.apply r) r).cache.map (·.key)).length := (List.length_map _).symm
    _ = ((cs.foldl (fun r c => c.apply r) r).cache.map (·.key)).toFinset.card :=
      (List.toFinset_card_of_nodup hnodup).symm
    _ = (r.cache.map (·.key) ++ runKeys r.types cs).toFinset.card := by
      congr 1
      ext k
      simpa using mem_keys_foldl hcs hr k

/-- Since the cache was last cleared, the cached segments are the distinct keys the calls after
it cache afresh. -/
theorem cachedSegments_since_clear (pre : List RegistryCall) {post : List RegistryCall}
    (hpost : ∀ c ∈ post, c ≠ .clearCache) (r : Registry) :
    ((pre ++ clearCache :: post).foldl (fun r c => c.apply r) r).cachedSegments =
      (runKeys (pre.foldl (fun r c => c.apply r) r).types post).toFinset.card := by
  rw [List.foldl_append, List.foldl_cons, cachedSegments_foldl hpost (.of_cache_nil rfl)]
  rfl

end RegistryCall

/-- What no caller of a registry can tell from a fresh compilation: the cache holds distinct keys,
each with the key's fresh compilation; a segment compiled through it gives its fresh matcher or
error, and a failure leaves the registry as it was; the cache grows by one entry exactly when a
key it lacks compiles; item and dependency patterns compile as they would in a fresh registry with
the same types; and after any calls, the cached segments are the distinct keys among those cached
before and those the calls compile, counted from the last clearing when there is one. -/
structure Registry.CacheTransparent (r : Registry) : Prop where
  sound : r.CacheSound
  compile_fresh : ∀ s o, Prod.fst <$> (compileSegment s o).outcome r = Segment.compile s o
  error_keeps : ∀ s o e r', compileSegment s o r = .error e r' → r' = r
  count_step : ∀ s o, ((compileSegment s o).after r).cachedSegments = r.cachedSegments +
    if (Segment.compile s o).isOk ∧ ⟨s, o.external, o.ignoreCase⟩ ∉ r.cache.map (·.key)
    then 1 else 0
  item_fresh : ∀ text o, (ItemPattern.compile text o).outcome r =
    (ItemPattern.compile text o).outcome { types := r.types }
  dependency_fresh : ∀ u v o, (DependencyPattern.compile u v o).outcome r =
    (DependencyPattern.compile u v o).outcome { types := r.types }
  count_run : ∀ cs : List RegistryCall, (∀ c ∈ cs, c ≠ .clearCache) →
    (cs.foldl (fun r c => c.apply r) r).cachedSegments =
      (r.cache.map (·.key) ++ RegistryCall.runKeys r.types cs).toFinset.card
  count_since_clear : ∀ pre post : List RegistryCall, (∀ c ∈ post, c ≠ .clearCache) →
    ((pre ++ .clearCache :: post).foldl (fun r c => c.apply r) r).cachedSegments =
      (RegistryCall.runKeys (pre.foldl (fun r c => c.apply r) r).types post).toFinset.card

theorem Registry.CacheSound.cacheTransparent {r : Registry} (hs : r.CacheSound) :
    r.CacheTransparent where
  sound := hs
  compile_fresh _ _ := hs.compileSegment_outcome
  error_keeps _ _ _ _ := compileSegment_error_registry
  count_step _ _ := hs.cachedSegments_after
  item_fresh text o :=
    (ItemPattern.cacheBlind_compile text o).outcome_eq ⟨rfl, hs, .of_cache_nil rfl⟩
  dependency_fresh u v o :=
    (DependencyPattern.cacheBlind_compile u v o).outcome_eq ⟨rfl, hs, .of_cache_nil rfl⟩
  count_run _ hcs := RegistryCall.cachedSegments_foldl hcs hs
  count_since_clear pre _ hpost := RegistryCall.cachedSegments_since_clear pre hpost r

/-- In every registry calls can lead to, the segment cache cannot be observed, and it counts the
distinct keys compiled since it was last cleared: a segment compiled directly caches its key
exactly when it compiles, and every key a call caches is that of a segment that compiles. -/
theorem Registry.Reachable.segment_cache_transparent {r : Registry} (hr : r.Reachable) :
    r.CacheTransparent ∧
      (∀ s o types, (compileSegment s o).freshKeys types =
        if (Segment.compile s o).isOk then [⟨s, o.external, o.ignoreCase⟩] else []) ∧
      ∀ (c : RegistryCall) types k, k ∈ c.freshKeys types →
        (Segment.compile k.segment ⟨k.external, k.ignoreCase⟩).isOk :=
  ⟨hr.cacheSound.cacheTransparent, fun _ _ types => freshKeys_compileSegment types,
    fun _ _ _ hk => RegistryCall.compiles_of_mem_freshKeys hk⟩

theorem Registry.Reachable.segment_cache_transparent_empty :
    Registry.Reachable {} ∧ ({} : Registry).CacheTransparent ∧
      (∀ s o types, (compileSegment s o).freshKeys types =
        if (Segment.compile s o).isOk then [⟨s, o.external, o.ignoreCase⟩] else []) ∧
      ∀ (c : RegistryCall) types k, k ∈ c.freshKeys types →
        (Segment.compile k.segment ⟨k.external, k.ignoreCase⟩).isOk :=
  ⟨.empty, Registry.Reachable.segment_cache_transparent .empty⟩

end Conformance
