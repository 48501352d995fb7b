import Mathlib
import Conformance.Proofs.Projector

/-!
What a self-optimising projector counts and reports over a session. `Accounts` relates the
projector a session starts from to the one it leads to (the same sub-projectors and interval, a
permuted order, a call per projection, a reorganisation per forced step and per completed
interval) and holds after any session. The number of sub-projectors comes from how they are
built, which needs the letters `sortedDistinct` keeps to be strictly increasing.
-/

set_option autoImplicit false
set_option relaxedAutoImplicit false

namespace Conformance

namespace ProjectorStep

/-- Whether a step projects an item, rather than forcing a reorganisation. -/
def isProject : ProjectorStep → Bool
  | .project _ _ => true
  | .reorganize => false

@[simp] theorem isProject_project (x : Item) (side : Side) :
    (ProjectorStep.project x side).isProject = true := rfl

@[simp] theorem isProject_reorganize : ProjectorStep.reorganize.isProject = false := rfl

end ProjectorStep

theorem sortKey_iff (a b : Char) : (decide (a < b) || !decide (b < a)) = true ↔ a ≤ b := by
  simp only [Bool.or_eq_true, decide_eq_true_eq, Bool.not_eq_true', decide_eq_false_iff_not,
    not_lt]
  exact ⟨fun h => h.elim le_of_lt id, Or.inr⟩

/-- One step of the fold in `sortedDistinct`: an element goes in front of those kept, unless it
equals the first of them. -/
def keepDistinct {α : Type} [LT α] [DecidableLT α] (a : α) (acc : List α) : List α :=
  match acc with
  | b :: _ => if !decide (a < b) && !decide (b < a) then acc else a :: acc
  | [] => [a]

theorem sortedDistinct_eq_foldr {α : Type} [LT α] [DecidableLT α] (xs : List α) :
    sortedDistinct xs =
      (xs.mergeSort fun a b => decide (a < b) || !decide (b < a)).foldr keepDistinct [] := rfl

theorem keepDistinct_ne_nil {α : Type} [LT α] [DecidableLT α] (a : α) (acc : List α) :
    keepDistinct a acc ≠ [] := by
  cases acc with
  | nil => simp [keepDistinct]
  | cons b rest =>
    simp only [keepDistinct]
    split_ifs <;> simp

theorem mem_keepDistinct {a c : Char} {acc : List Char} :
    c ∈ keepDistinct a acc ↔ c = a ∨ c ∈ acc := by
  cases acc with
  | nil => simp [keepDistinct]
  | cons b rest =>
    simp only [keepDistinct]
    split_ifs with hab
    · simp only [Bool.and_eq_true, Bool.not_eq_true', decide_eq_false_iff_not, not_lt] at hab
      obtain rfl : a = b := le_antisymm hab.2 hab.1
      simp
    · simp

theorem pairwise_keepDistinct {a : Char} {acc : List Char} (hacc : acc.Pairwise (· < ·))
    (hle : ∀ b ∈ acc, a ≤ b) : (keepDistinct a acc).Pairwise (· < ·) := by
  cases acc with
  | nil => exact List.pairwise_singleton _ _
  | cons b rest =>
    simp only [keepDistinct]
    split_ifs with hab
    · exact hacc
    · have hab' : a < b := lt_of_le_of_ne (hle b List.mem_cons_self) (by rintro rfl; simp at hab)
      refine List.pairwise_cons.mpr ⟨List.forall_mem_cons.mpr ⟨hab', fun c hc => ?_⟩, hacc⟩
      exact hab'.trans (List.rel_of_pairwise_cons hacc hc)

theorem sortedDistinct_strict (xs : List Char) :
    (sortedDistinct xs).Pairwise (· < ·) ∧ ∀ c ∈ sortedDistinct xs, c ∈ xs := by
  have hsorted := @List.pairwise_mergeSort Char (fun a b => decide (a < b) || !decide (b < a))
    (fun a b c hab hbc => (sortKey_iff a c).mpr
      (((sortKey_iff a b).mp hab).trans ((sortKey_iff b c).mp hbc)))
    (fun a b => by
      rcases le_total a b with h | h
      · simp [(sortKey_iff a b).mpr h]
      · simp [(sortKey_iff b a).mpr h]) xs
  have hmem : ∀ c, c ∈ xs ↔
      c ∈ xs.mergeSort (fun a b => decide (a < b) || !decide (b < a)) := fun c =>
    (List.mergeSort_perm xs _).mem_iff.symm
  rw [sortedDistinct_eq_foldr]
  simp only [hmem]
  generalize xs.mergeSort (fun a b => decide (a < b) || !decide (b < a)) = l at hsorted ⊢
  induction l with
  | nil => simp
  | cons a l ih =>
    obtain ⟨hle, hrest⟩ := List.pairwise_cons.mp hsorted
    obtain ⟨hlt, hsub⟩ := ih hrest
    rw [List.foldr_cons]
    refine ⟨pairwise_keepDistinct hlt fun b hb => (sortKey_iff a b).mp (hle b (hsub b hb)),
      fun c hc => ?_⟩
    rcases mem_keepDistinct.mp hc with rfl | hc
    · exact List.mem_cons_self
    · exact List.mem_cons_of_mem a (hsub c hc)

theorem length_sortedDistinct (xs : List Char) :
    (sortedDistinct xs).length = xs.toFinset.card := by
  obtain ⟨hlt, hsub⟩ := sortedDistinct_strict xs
  rw [← List.toFinset_card_of_nodup (hlt.imp ne_of_lt)]
  congr 1
  ext c
  simp only [List.mem_toFinset]
  exact ⟨hsub c, mem_sortedDistinct⟩

theorem sortedDistinct_eq_nil_iff {α : Type} [LT α] [DecidableLT α] (xs : List α) :
    sortedDistinct xs = [] ↔ xs = [] := by
  rw [sortedDistinct_eq_foldr, ← @List.length_eq_zero_iff α xs,
    ← @List.length_mergeSort α (fun a b => decide (a < b) || !decide (b < a)) xs]
  generalize xs.mergeSort (fun a b => decide (a < b) || !decide (b < a)) = l
  cases l with
  | nil => simp
  | cons a l => simp [keepDistinct_ne_nil]

namespace AdaptiveProjector

/-- The projector after one step of a session. -/
def step (a : AdaptiveProjector) : ProjectorStep → AdaptiveProjector
  | .project x side => (a.project x side).2
  | .reorganize => a.reorganize

/-- The projector after a session, its steps taken in order. -/
def after (a : AdaptiveProjector) (steps : List ProjectorStep) : AdaptiveProjector :=
  steps.foldl step a

section Fields

variable (a : AdaptiveProjector) (x : Item) (side : Side)

@[simp] theorem reorganize_calls : a.reorganize.calls = a.calls := rfl
@[simp] theorem reorganize_interval : a.reorganize.interval = a.interval := rfl
@[simp] theorem reorganize_subs : a.reorganize.subs = a.subs := rfl
@[simp] theorem reorganize_reorganizations :
    a.reorganize.reorganizations = a.reorganizations + 1 := rfl

@[simp] theorem project_calls : (a.project x side).2.calls = a.calls + 1 := by
  simp only [AdaptiveProjector.project]
  split <;> split <;> rfl

@[simp] theorem project_interval : (a.project x side).2.interval = a.interval := by
  simp only [AdaptiveProjector.project]
  split <;> split <;> rfl

theorem project_reorganizations : (a.project x side).2.reorganizations =
    a.reorganizations + if a.interval ∣ a.calls + 1 then 1 else 0 := by
  simp only [AdaptiveProjector.project]
  split <;> split <;> simp_all [Nat.dvd_iff_mod_eq_zero]

end Fields

/-- What a session keeps and counts, from the projector `a₀` it starts with to the projector `a` it
leads to. -/
structure Accounts (a₀ : AdaptiveProjector) (steps : List ProjectorStep)
    (a : AdaptiveProjector) : Prop where
  subs : a.subs = a₀.subs
  interval : a.interval = a₀.interval
  order : a.order.Perm a₀.order
  calls : a.calls = a₀.calls + steps.countP ProjectorStep.isProject
  reorganizations : a.reorganizations + a₀.calls / a₀.interval =
    a₀.reorganizations + steps.countP (fun s => !s.isProject) + a.calls / a₀.interval

theorem accounts_nil (a₀ : AdaptiveProjector) : Accounts a₀ [] a₀ where
  subs := rfl
  interval := rfl
  order := List.Perm.refl _
  calls := rfl
  reorganizations := by simp

variable {a₀ a : AdaptiveProjector} {steps : List ProjectorStep}

theorem Accounts.step (h : Accounts a₀ steps a) (s : ProjectorStep) :
    Accounts a₀ (steps ++ [s]) (a.step s) := by
  cases s with
  | project x side =>
    refine ⟨?_, ?_, ?_, ?_, ?_⟩
    · rw [AdaptiveProjector.step, project_subs, h.subs]
    · rw [AdaptiveProjector.step, project_interval, h.interval]
    · exact (project_order_perm a x side).trans h.order
    · simp [AdaptiveProjector.step, h.calls, Nat.add_assoc]
    · have hreorg := h.reorganizations
      rw [AdaptiveProjector.step, project_reorganizations, project_calls, h.interval,
        List.countP_append, Nat.succ_div]
      simp only [List.countP_singleton, ProjectorStep.isProject_project, Bool.not_true,
        Bool.false_eq_true, ite_false, Nat.add_zero]
      split_ifs <;> omega
  | reorganize =>
    refine ⟨?_, ?_, ?_, ?_, ?_⟩
    · rw [AdaptiveProjector.step, reorganize_subs, h.subs]
    · rw [AdaptiveProjector.step, reorganize_interval, h.interval]
    · exact (List.mergeSort_perm _ _).trans h.order
    · simp [AdaptiveProjector.step, h.calls]
    · have hreorg := h.reorganizations
      simp only [AdaptiveProjector.step, reorganize_reorganizations, reorganize_calls,
        List.countP_append, List.countP_singleton, ProjectorStep.isProject_reorganize,
        Bool.not_false, ite_true]
      omega

theorem Accounts.foldl (more : List ProjectorStep) :
    ∀ (done : List ProjectorStep) (a : AdaptiveProjector), Accounts a₀ done a →
      Accounts a₀ (done ++ more) (more.foldl AdaptiveProjector.step a) := by
  induction more with
  | nil => intro done a h; simpa using h
  | cons s more ih =>
    intro done a h
    simpa using ih (done ++ [s]) _ (h.step s)

/-- Every session keeps the accounts. -/
theorem accounts_after (a₀ : AdaptiveProjector) (steps : List ProjectorStep) :
    Accounts a₀ steps (a₀.after steps) := by
  simpa [after] using Accounts.foldl steps [] a₀ (accounts_nil a₀)

theorem labels_in_order (subs : List SubProjector) :
    (List.range subs.length).map (fun i => (subs.toArray.getD i default).label) =
      subs.map SubProjector.label := by
  apply List.ext_getElem (by simp)
  intro i h₁ h₂
  have hi : i < subs.length := by simpa using h₂
  simp [Array.getD_eq_getD_getElem?, List.getElem?_eq_getElem hi]

/-- After any session, a projector built over some sub-projectors reports a call per projection, a
reorganisation per forced step and per completed interval (zero acting as one), and the labels of
its sub-projectors in some order; and it still has them all. -/
theorem stats_after_ofSubs (strategy : ProjectorStrategy) (ps : Array Projection)
    (subs : List SubProjector) (interval : Nat) (steps : List ProjectorStep) :
    let a := (ofSubs strategy ps subs interval).after steps
    a.stats.calls = steps.countP ProjectorStep.isProject ∧
      a.stats.reorganizations =
        steps.countP (fun s => !s.isProject) + a.stats.calls / Nat.max interval 1 ∧
      a.stats.order.Perm (subs.map SubProjector.label) ∧ a.subCount = subs.length := by
  dsimp only
  have h := accounts_after (ofSubs strategy ps subs interval) steps
  generalize (ofSubs strategy ps subs interval).after steps = a at h ⊢
  have hcalls : a.calls = steps.countP ProjectorStep.isProject := by
    simpa [ofSubs] using h.calls
  refine ⟨hcalls, ?_, ?_, ?_⟩
  · have hreorg := h.reorganizations
    simp only [ofSubs, Nat.zero_div, Nat.add_zero, Nat.zero_add] at hreorg
    simp only [stats]
    omega
  · simp only [stats, h.subs]
    rw [← labels_in_order]
    exact h.order.map _
  · simp [subCount, h.subs, ofSubs]

end AdaptiveProjector

theorem length_letterBuckets (ps : Array Projection) (field : Nat) :
    (letterBuckets ps field).length =
      if ∃ p ∈ ps.toList, p.pattern.fixedPrefix field ≠ "" then
        (ps.toList.filterMap fun p => (p.pattern.fixedPrefix field).toList.head?).toFinset.card + 1
      else 0 := by
  have hfirsts : ((fieldPrefixes ps field).map fun s => s.toList.head?).filterMap id =
      ps.toList.filterMap fun p => (p.pattern.fixedPrefix field).toList.head? := by
    simp [fieldPrefixes, List.filterMap_map]
  have hknown : (ps.toList.filterMap fun p => (p.pattern.fixedPrefix field).toList.head?) = [] ↔
      ¬ ∃ p ∈ ps.toList, p.pattern.fixedPrefix field ≠ "" := by
    simp [List.filterMap_eq_nil_iff]
  simp only [letterBuckets, hfirsts]
  by_cases hprefix : ∃ p ∈ ps.toList, p.pattern.fixedPrefix field ≠ ""
  · have hne : sortedDistinct
        (ps.toList.filterMap fun p => (p.pattern.fixedPrefix field).toList.head?) ≠ [] := by
      rw [Ne, sortedDistinct_eq_nil_iff, hknown, not_not]
      exact hprefix
    rw [if_pos hprefix]
    simp [hne, length_sortedDistinct]
  · have he : sortedDistinct
        (ps.toList.filterMap fun p => (p.pattern.fixedPrefix field).toList.head?) = [] :=
      (sortedDistinct_eq_nil_iff _).mpr (hknown.mpr hprefix)
    rw [if_neg hprefix]
    simp [he]

theorem prefixTrie_isSome (ps : Array Projection) (field : Nat) :
    (prefixTrie ps field).isSome = decide (∃ p ∈ ps.toList, p.pattern.fixedPrefix field ≠ "") := by
  have hkeys : (fieldPrefixes ps field).filter (fun s => !s.isEmpty) = [] ↔
      ¬ ∃ p ∈ ps.toList, p.pattern.fixedPrefix field ≠ "" := by
    simp [fieldPrefixes, List.filter_eq_nil_iff]
  simp only [prefixTrie]
  split
  · rename_i hempty
    have hunknown : ¬ ∃ p ∈ ps.toList, p.pattern.fixedPrefix field ≠ "" := by
      rw [← hkeys, ← sortedDistinct_eq_nil_iff]
      simpa using hempty
    simp only [Option.isSome_none, hunknown, decide_false]
  · rename_i hempty
    have hknown : ∃ p ∈ ps.toList, p.pattern.fixedPrefix field ≠ "" := by
      by_contra h
      rw [← hkeys, ← sortedDistinct_eq_nil_iff] at h
      simp [h] at hempty
    simp only [Option.isSome_some, hknown, decide_true]

theorem length_buildPrefixTries (ps : Array Projection) :
    (buildPrefixTries ps).length = ((Finset.range (addressedFields ps)).filter
      fun f => ∃ p ∈ ps.toList, p.pattern.fixedPrefix f ≠ "").card := by
  rw [buildPrefixTries, List.length_filterMap_eq_countP]
  simp only [prefixTrie_isSome]
  simp [Finset.card_def, Finset.filter_val, Finset.range_val, Multiset.range,
    List.countP_eq_length_filter]

theorem length_buildLetterBuckets (ps : Array Projection) :
    (buildLetterBuckets ps).length = ∑ f ∈ (Finset.range (addressedFields ps)).filter
      (fun f => ∃ p ∈ ps.toList, p.pattern.fixedPrefix f ≠ ""),
      ((ps.toList.filterMap fun p => (p.pattern.fixedPrefix f).toList.head?).toFinset.card + 1) := by
  rw [Finset.sum_filter, buildLetterBuckets, List.length_flatMap]
  simp only [length_letterBuckets]
  simp [Finset.sum_eq_multiset_sum, Finset.range_val, Multiset.range]

/-- Over every session of projections and forced reorganisations, a first-letter or prefix-trie
projector over any projection list, at any interval, reports one call per projection, one
reorganisation per forced step and per interval's worth of calls (zero acting as one), and the
labels of its sub-projectors in some permutation of the order they were built in. It has, over
the fields up to the largest field count whose known prefix is non-empty for some projection, one
bucket per distinct first letter plus one per field, or one trie per field. -/
theorem AdaptiveProjector.session_stats (ps : Array Projection) (interval : Nat)
    (steps : List ProjectorStep) :
    let letters := (firstLetter ps interval).after steps
    let tries := (prefixTrie ps interval).after steps
    (letters.stats.calls = steps.countP ProjectorStep.isProject ∧
      letters.stats.reorganizations =
        steps.countP (fun s => !s.isProject) + letters.stats.calls / Nat.max interval 1 ∧
      letters.stats.order.Perm ((buildLetterBuckets ps).map SubProjector.label) ∧
      letters.subCount = ∑ f ∈ (Finset.range (addressedFields ps)).filter
          (fun f => ∃ p ∈ ps.toList, p.pattern.fixedPrefix f ≠ ""),
        ((ps.toList.filterMap fun p => (p.pattern.fixedPrefix f).toList.head?).toFinset.card +
          1)) ∧
    (tries.stats.calls = steps.countP ProjectorStep.isProject ∧
      tries.stats.reorganizations =
        steps.countP (fun s => !s.isProject) + tries.stats.calls / Nat.max interval 1 ∧
      tries.stats.order.Perm ((buildPrefixTries ps).map SubProjector.label) ∧
      tries.subCount = ((Finset.range (addressedFields ps)).filter
        fun f => ∃ p ∈ ps.toList, p.pattern.fixedPrefix f ≠ "").card) := by
  obtain ⟨hcalls, hreorg, horder, hcount⟩ :=
    AdaptiveProjector.stats_after_ofSubs .firstLetter ps (buildLetterBuckets ps) interval steps
  obtain ⟨tcalls, treorg, torder, tcount⟩ :=
    AdaptiveProjector.stats_after_ofSubs .prefixTrie ps (buildPrefixTries ps) interval steps
  exact ⟨⟨hcalls, hreorg, horder, hcount.trans (length_buildLetterBuckets ps)⟩,
    ⟨tcalls, treorg, torder, tcount.trans (length_buildPrefixTries ps)⟩⟩

end Conformance
