import Conformance.Proofs.ProjectorStats

/-!
What the sub-projectors of an index hand back. A sub-projector built for a field narrows an
item to a filter of the whole projection list, so its candidates run strictly upward, and the
filter keeps every projection whose known prefix at that field starts the item's value. The
first-letter buckets of one field share the items out: exactly one of them selects each item.
-/

set_option autoImplicit false
set_option relaxedAutoImplicit false

namespace Conformance

theorem scanWhere_candidates (ps : Array Projection) (keep : Nat → Bool) :
    (scanWhere ps keep).candidates.Pairwise (· < ·) ∧
      ∀ j, j < ps.size → keep j = true → j ∈ (scanWhere ps keep).candidates :=
  ⟨List.pairwise_lt_range.filter keep,
    fun _ hj hkeep => List.mem_filter.mpr ⟨List.mem_range.mpr hj, hkeep⟩⟩

namespace SubProjector

/-- What a sub-projector that narrows soundly by a field selects: a scan of the same list, with
increasing candidates, holding every projection whose known prefix at the field starts the
item's value. -/
theorem NarrowsAt.select {ps : Array Projection} {field : Nat} {s : SubProjector}
    (h : s.NarrowsAt ps field) {x : Item} {scan : SimpleProjector}
    (hsel : s.select x = some scan) :
    scan.projections = ps ∧ scan.candidates.Pairwise (· < ·) ∧
      ∀ j p, ps[j]? = some p →
        (p.pattern.fixedPrefix field).toList <+: (x.value field).toList → j ∈ scan.candidates := by
  obtain ⟨keep, rfl, hkeep⟩ := h x scan hsel
  obtain ⟨hsorted, hmem⟩ := scanWhere_candidates ps keep
  refine ⟨rfl, hsorted, fun j p hp hpre => ?_⟩
  obtain ⟨hj, -⟩ := Array.getElem?_eq_some_iff.mp hp
  exact hmem j hj (hkeep j p hp hpre)

theorem field_of_mem_letterBuckets {ps : Array Projection} {f : Nat} {s : SubProjector}
    (hs : s ∈ letterBuckets ps f) : s.field = f := by
  simp only [letterBuckets] at hs
  split at hs
  · cases hs
  · rcases List.mem_append.mp hs with hs | hs
    · obtain ⟨c, -, rfl⟩ := List.mem_map.mp hs
      rfl
    · rw [List.mem_singleton.mp hs]
      rfl

theorem field_of_prefixTrie {ps : Array Projection} {f : Nat} {s : SubProjector}
    (h : prefixTrie ps f = some s) : s.field = f := by
  simp only [prefixTrie] at h
  split at h
  · cases h
  · cases h
    rfl

theorem narrowsAt_field_of_built {ps : Array Projection} {s : SubProjector}
    (hs : s ∈ buildLetterBuckets ps ++ buildPrefixTries ps) : s.NarrowsAt ps s.field := by
  rcases List.mem_append.mp hs with hs | hs
  · obtain ⟨f, -, hs⟩ := List.mem_flatMap.mp hs
    rw [field_of_mem_letterBuckets hs]
    exact narrowsAt_letterBuckets ps f s hs
  · obtain ⟨f, -, hs⟩ := List.mem_filterMap.mp hs
    rw [field_of_prefixTrie hs]
    exact narrowsAt_prefixTrie hs

@[simp] theorem isSome_select_letter_some (field : Nat) (c : Char) (known : List Char)
    (scan : SimpleProjector) (x : Item) :
    ((letter field (some c) known scan).select x).isSome =
      ((x.value field).toList.head? == some c) := by
  simp only [select]
  split <;> simp_all

@[simp] theorem isSome_select_letter_none (field : Nat) (known : List Char)
    (scan : SimpleProjector) (x : Item) :
    ((letter field none known scan).select x).isSome =
      !((x.value field).toList.head?.any known.contains) := by
  cases hhead : (x.value field).toList.head? with
  | none => simp [select, hhead]
  | some d => by_cases hd : d ∈ known <;> simp [select, hhead, hd]

theorem select_one_of_nodup {field : Nat} {known : List Char} (hknown : known.Nodup)
    (scanOf : Char → SimpleProjector) (other : SimpleProjector) (x : Item) :
    (((known.map fun c => letter field (some c) known (scanOf c)) ++
      [letter field none known other]).filter fun s => (s.select x).isSome).length = 1 := by
  rw [List.filter_append, List.length_append, List.filter_map, List.length_map]
  cases hhead : (x.value field).toList.head? with
  | none =>
    simp [Function.comp_def, hhead]
  | some d =>
    have hletters : (known.filter fun c => some d == some c).length = known.count d := by
      rw [List.count_eq_countP, List.countP_eq_length_filter]
      congr 1
      apply List.filter_congr
      intro c _
      simp [eq_comm]
    have hother : ((letter field none known other).select x).isSome = !known.contains d := by
      rw [isSome_select_letter_none, hhead, Option.any_some]
    simp only [Function.comp_def, isSome_select_letter_some, hhead, hletters,
      List.filter_singleton, hother]
    by_cases hd : d ∈ known
    · simp [List.count_eq_one_of_mem hknown hd, hd]
    · simp [List.count_eq_zero_of_not_mem hd, hd]

theorem letterBuckets_select_one {ps : Array Projection} {f : Nat}
    (hne : letterBuckets ps f ≠ []) (x : Item) :
    ((letterBuckets ps f).filter fun s => (s.select x).isSome).length = 1 := by
  simp only [letterBuckets] at hne ⊢
  split
  · rename_i hempty
    rw [if_pos hempty] at hne
    exact absurd rfl hne
  · exact select_one_of_nodup ((sortedDistinct_strict _).1.imp ne_of_lt) _ _ x

theorem filter_field_flatMap (ps : Array Projection) (f : Nat) {fields : List Nat}
    (hnodup : fields.Nodup) :
    (fields.flatMap (letterBuckets ps)).filter (fun s => s.field == f) =
      if f ∈ fields then letterBuckets ps f else [] := by
  induction fields with
  | nil => simp
  | cons a rest ih =>
    obtain ⟨ha, hrest⟩ := List.nodup_cons.mp hnodup
    rw [List.flatMap_cons, List.filter_append, ih hrest]
    by_cases haf : a = f
    · subst haf
      rw [List.filter_eq_self.mpr fun s hs => by simp [field_of_mem_letterBuckets hs],
        if_neg ha, if_pos List.mem_cons_self, List.append_nil]
    · rw [List.filter_eq_nil_iff.mpr fun s hs => by simp [field_of_mem_letterBuckets hs, haf]]
      simp [List.mem_cons, Ne.symm haf]

/-- Of the first-letter buckets built for a projection list, exactly one of each field that has
buckets selects any given item. -/
theorem buildLetterBuckets_select_one (ps : Array Projection) (f : Nat) (x : Item)
    (hf : ∃ s ∈ buildLetterBuckets ps, s.field = f) :
    ((buildLetterBuckets ps).filter fun s => s.field == f && (s.select x).isSome).length = 1 := by
  obtain ⟨s, hs, rfl⟩ := hf
  obtain ⟨g, hg, hsg⟩ := List.mem_flatMap.mp hs
  have hfield : s.field = g := field_of_mem_letterBuckets hsg
  have hsplit :
      ((buildLetterBuckets ps).filter fun s' => s'.field == s.field && (s'.select x).isSome) =
        ((buildLetterBuckets ps).filter fun s' => s'.field == s.field).filter
          fun s' => (s'.select x).isSome := by
    rw [List.filter_filter]
    apply List.filter_congr
    intro s' _
    exact Bool.and_comm _ _
  rw [hsplit, buildLetterBuckets, filter_field_flatMap ps _ List.nodup_range, hfield, if_pos hg]
  exact letterBuckets_select_one (List.ne_nil_of_mem hsg) x

end SubProjector

/-- Every sub-projector a first-letter or prefix-trie index builds over a projection list, when it
selects an item, hands back a scan of that list whose candidates are strictly increasing and
include every projection whose known prefix at the sub-projector's field starts the item's value
there; and of the first-letter buckets, exactly one of each field that has buckets selects any
given item. -/
theorem SubProjector.built_selection_sound (ps : Array Projection) :
    (∀ s ∈ buildLetterBuckets ps ++ buildPrefixTries ps, ∀ x scan, s.select x = some scan →
      scan.projections = ps ∧ scan.candidates.Pairwise (· < ·) ∧
        ∀ j p, ps[j]? = some p →
          (p.pattern.fixedPrefix s.field).toList <+: (x.value s.field).toList →
            j ∈ scan.candidates) ∧
    ∀ f x, (∃ s ∈ buildLetterBuckets ps, s.field = f) →
      ((buildLetterBuckets ps).filter fun s => s.field == f && (s.select x).isSome).length = 1 :=
  ⟨fun _ hs _ _ hsel => (SubProjector.narrowsAt_field_of_built hs).select hsel,
    fun f x hf => SubProjector.buildLetterBuckets_select_one ps f x hf⟩

end Conformance
