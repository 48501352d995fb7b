import Conformance.Projector.Adaptive
import Conformance.Proofs.KnownPrefix
import Conformance.Proofs.PrefixTree

/-!
The adaptive projectors and the linear scan. A self-optimising projector answers an item from the
scan of the first sub-projector that selects it, and every such scan is a filter of the
projection list that keeps each projection whose known prefix at the sub-projector's field holds
of the item. Hits, reorganisations and the decay only reorder the sub-projectors, so a session
answers as the linear scan whenever the linear scan's pick has its known prefixes holding; a
regular expression behind a block of external groups can break that, and then the two part.
-/

set_option autoImplicit false
set_option relaxedAutoImplicit false

namespace Conformance

theorem findSome?_filter_of_keep {β : Type} {l : List Nat} {g : Nat → Option (Nat × β)}
    {keep : Nat → Bool} (hg : ∀ i b, g i = some b → b.1 = i)
    (hkeep : ∀ b, l.findSome? g = some b → keep b.1 = true) :
    (l.filter keep).findSome? g = l.findSome? g := by
  induction l with
  | nil => rfl
  | cons a l ih =>
    cases hga : g a with
    | some b =>
      have ha : keep a = true := by
        have hb := hkeep b (by rw [List.findSome?_cons, hga])
        rwa [hg a b hga] at hb
      rw [List.filter_cons_of_pos ha, List.findSome?_cons, List.findSome?_cons, hga]
    | none =>
      have hrest : ∀ b, l.findSome? g = some b → keep b.1 = true := fun b hb =>
        hkeep b (by rw [List.findSome?_cons, hga]; exact hb)
      rw [List.findSome?_cons, hga]
      by_cases ha : keep a = true
      · rw [List.filter_cons_of_pos ha, List.findSome?_cons, hga]
        exact ih hrest
      · rw [List.filter_cons_of_neg ha]
        exact ih hrest

namespace SimpleProjector

theorem find_some {s : SimpleProjector} {x : Item} {side : Side} {i : Nat} {y : Item}
    (h : s.find x side = some (i, y)) :
    ∃ p, s.projections[i]? = some p ∧ p.apply x side = some y := by
  obtain ⟨l₁, a, l₂, -, ha, -⟩ := List.findSome?_eq_some_iff.mp h
  revert ha
  split
  · rename_i p hp
    intro ha
    obtain ⟨y', hy', hi⟩ := Option.map_eq_some_iff.mp ha
    cases hi
    exact ⟨p, hp, hy'⟩
  · intro ha
    cases ha

theorem find_scanWhere (ps : Array Projection) (keep : Nat → Bool) (x : Item) (side : Side)
    (hkeep : ∀ i y, (ofProjections ps).find x side = some (i, y) → keep i = true) :
    (scanWhere ps keep).find x side = (ofProjections ps).find x side := by
  simp only [find, scanWhere, ofProjections]
  refine findSome?_filter_of_keep (fun i b hb => ?_) (fun b hb => hkeep b.1 b.2 hb)
  revert hb
  split
  · intro hb
    obtain ⟨y, -, rfl⟩ := Option.map_eq_some_iff.mp hb
    rfl
  · intro hb
    cases hb

end SimpleProjector

/-- The projection the linear scan picks for an item on a side, if it picks one, has its known
prefixes holding of the item. -/
def WinnerPrefixesHold (ps : Array Projection) (x : Item) (side : Side) : Prop :=
  ∀ i y, (SimpleProjector.ofProjections ps).find x side = some (i, y) →
    ∀ p, ps[i]? = some p → p.pattern.PrefixesHold x

namespace SubProjector

/-- Whatever scan the sub-projector narrows an item to is the scan of the projections that
pass a test, and the test keeps every projection whose known prefix at one field holds of
the item. -/
def Narrows (ps : Array Projection) (s : SubProjector) : Prop :=
  ∀ x scan, s.select x = some scan → ∃ field keep, scan = scanWhere ps keep ∧
    ∀ i p, ps[i]? = some p →
      (p.pattern.fixedPrefix field).toList <+: (x.value field).toList → keep i = true

/-- A sound narrowing finds what the linear scan finds, when the projection the linear scan
picks has its prefixes holding of the item. -/
theorem Narrows.find {ps : Array Projection} {s : SubProjector} (hs : s.Narrows ps)
    {x : Item} {scan : SimpleProjector} {side : Side} (hsel : s.select x = some scan)
    (hwin : WinnerPrefixesHold ps x side) :
    scan.find x side = (SimpleProjector.ofProjections ps).find x side := by
  obtain ⟨field, keep, rfl, hkeep⟩ := hs x scan hsel
  apply SimpleProjector.find_scanWhere
  intro i y hfind
  obtain ⟨p, hp, -⟩ := SimpleProjector.find_some hfind
  exact hkeep i p hp (hwin i y hfind p hp field)

/-- The field whose value a sub-projector reads. -/
def field : SubProjector → Nat
  | .letter field _ _ _ => field
  | .trie field _ => field

/-- Sound narrowing by the value of a given field: whatever scan the sub-projector narrows an
item to is the scan of the projections that pass a test, and the test keeps every projection
whose known prefix at that field starts the item's value. -/
def NarrowsAt (ps : Array Projection) (field : Nat) (s : SubProjector) : Prop :=
  ∀ x scan, s.select x = some scan → ∃ keep, scan = scanWhere ps keep ∧
    ∀ i p, ps[i]? = some p →
      (p.pattern.fixedPrefix field).toList <+: (x.value field).toList → keep i = true

theorem NarrowsAt.narrows {ps : Array Projection} {field : Nat} {s : SubProjector}
    (h : s.NarrowsAt ps field) : s.Narrows ps := by
  intro x scan hsel
  obtain ⟨keep, hscan, hkeep⟩ := h x scan hsel
  exact ⟨field, keep, hscan, hkeep⟩

end SubProjector

theorem fieldPrefixes_getD {ps : Array Projection} {i : Nat} {p : Projection}
    (hp : ps[i]? = some p) (field : Nat) :
    (fieldPrefixes ps field).getD i "" = p.pattern.fixedPrefix field := by
  simp [fieldPrefixes, List.getD_eq_getElem?_getD, hp]

theorem mem_sortedDistinct {c : Char} {xs : List Char} (h : c ∈ xs) : c ∈ sortedDistinct xs := by
  have hsorted : c ∈ xs.mergeSort (fun a b => decide (a < b) || !decide (b < a)) :=
    (List.mergeSort_perm xs _).mem_iff.mpr h
  unfold sortedDistinct
  generalize xs.mergeSort (fun a b => decide (a < b) || !decide (b < a)) = l at hsorted
  induction l with
  | nil => cases hsorted
  | cons a l ih =>
    simp only [List.foldr_cons]
    rcases List.mem_cons.mp hsorted with rfl | hl
    · split
      · rename_i b rest hacc
        split
        · rename_i hab
          simp only [Bool.and_eq_true, Bool.not_eq_true', decide_eq_false_iff_not] at hab
          have hcb : c = b := Char.le_antisymm (Char.not_lt.mp hab.2) (Char.not_lt.mp hab.1)
          rw [hacc, hcb]
          exact List.mem_cons_self
        · exact List.mem_cons_self
      · exact List.mem_singleton_self c
    · have hc := ih hl
      split
      · rename_i b rest hacc
        split
        · exact hc
        · exact List.mem_cons_of_mem a hc
      · rename_i hacc
        rw [hacc] at hc
        cases hc

theorem firstLetters_getD {ps : Array Projection} {i : Nat} {p : Projection}
    (hp : ps[i]? = some p) (field : Nat) :
    ((fieldPrefixes ps field).map fun s => s.toList.head?).getD i none =
      (p.pattern.fixedPrefix field).toList.head? := by
  simp [fieldPrefixes, List.getD_eq_getElem?_getD, hp]

theorem head_mem_firstLetters {ps : Array Projection} {i : Nat} {p : Projection} {field : Nat}
    {d : Char} (hp : ps[i]? = some p) (hd : (p.pattern.fixedPrefix field).toList.head? = some d) :
    d ∈ ((fieldPrefixes ps field).map fun s => s.toList.head?).filterMap id := by
  refine List.mem_filterMap.mpr ⟨some d, List.mem_map.mpr ⟨_, ?_, hd⟩, rfl⟩
  unfold fieldPrefixes
  exact List.mem_map.mpr ⟨p, Array.mem_toList_iff.mpr (Array.mem_of_getElem? hp), rfl⟩

theorem SubProjector.select_letter {field : Nat} {first : Option Char} {known : List Char}
    {scan scan' : SimpleProjector} {x : Item}
    (h : (SubProjector.letter field first known scan).select x = some scan') :
    scan' = scan ∧ ∀ d, (x.value field).toList.head? = some d →
      first = some d ∨ (first = none ∧ d ∉ known) := by
  cases first with
  | some c =>
    simp only [SubProjector.select] at h
    split at h
    · rename_i hchosen
      refine ⟨(Option.some.inj h).symm, fun d hd => ?_⟩
      simp only [hd, beq_iff_eq, Option.some.injEq] at hchosen
      exact .inl (congrArg some hchosen.symm)
    · cases h
  | none =>
    cases hhead : (x.value field).toList.head? with
    | none =>
      simp only [SubProjector.select, hhead, ite_true] at h
      exact ⟨(Option.some.inj h).symm, fun d hd => nomatch hd⟩
    | some d =>
      simp only [SubProjector.select, hhead] at h
      split at h
      · rename_i hchosen
        refine ⟨(Option.some.inj h).symm, fun d' hd' => .inr ⟨rfl, ?_⟩⟩
        cases hd'
        simpa using hchosen
      · cases h

theorem narrowsAt_letter {ps : Array Projection} {field : Nat} {first : Option Char}
    {known : List Char} {keep : Nat → Bool}
    (hkeep : ∀ i p, ps[i]? = some p →
      (∀ d, (p.pattern.fixedPrefix field).toList.head? = some d →
        first = some d ∨ (first = none ∧ d ∉ known)) → keep i = true) :
    (SubProjector.letter field first known (scanWhere ps keep)).NarrowsAt ps field := by
  intro x scan hsel
  obtain ⟨rfl, hhead⟩ := SubProjector.select_letter hsel
  refine ⟨keep, rfl, fun i p hp hpre => hkeep i p hp fun d hd => hhead d ?_⟩
  exact List.singleton_prefix_iff_head?_eq_some.mp
    ((List.singleton_prefix_iff_head?_eq_some.mpr hd).trans hpre)

theorem narrowsAt_letterBuckets (ps : Array Projection) (field : Nat) :
    ∀ s ∈ letterBuckets ps field, s.NarrowsAt ps field := by
  intro s hs
  simp only [letterBuckets] at hs
  split at hs
  · cases hs
  · rcases List.mem_append.mp hs with hs | hs
    · obtain ⟨c, -, rfl⟩ := List.mem_map.mp hs
      refine narrowsAt_letter fun i p hp hhead => ?_
      simp only [firstLetters_getD hp]
      cases hd : (p.pattern.fixedPrefix field).toList.head? with
      | none => rfl
      | some d =>
        rcases hhead d hd with hc | ⟨hc, -⟩
        · simp [Option.some.inj hc]
        · cases hc
    · rw [List.mem_singleton] at hs
      subst hs
      refine narrowsAt_letter fun i p hp hhead => ?_
      simp only [firstLetters_getD hp]
      cases hd : (p.pattern.fixedPrefix field).toList.head? with
      | none => rfl
      | some d =>
        rcases hhead d hd with hc | ⟨-, hunknown⟩
        · cases hc
        · exact absurd (mem_sortedDistinct (head_mem_firstLetters hp hd)) hunknown

theorem narrowsAt_prefixTrie {ps : Array Projection} {field : Nat} {s : SubProjector}
    (h : prefixTrie ps field = some s) : s.NarrowsAt ps field := by
  simp only [prefixTrie] at h
  split at h
  · cases h
  · cases h
    intro x scan hsel
    simp only [SubProjector.select] at hsel
    obtain ⟨k, hk, rfl⟩ := (@PrefixTree.Holds.foldl_insert SimpleProjector
      (fun k scan => scan = scanWhere ps (fun i =>
        ((fieldPrefixes ps field).getD i "").toList.isPrefixOf k ||
          k.isPrefixOf ((fieldPrefixes ps field).getD i "").toList))
      _ _ (fun _ _ => rfl) PrefixTree.empty PrefixTree.holds_empty).findLongestPrefix hsel
    refine ⟨_, rfl, fun i p hp hpre => ?_⟩
    simp only [fieldPrefixes_getD hp, Bool.or_eq_true, List.isPrefixOf_iff_prefix]
    exact List.prefix_or_prefix_of_prefix hpre hk

theorem narrows_buildLetterBuckets (ps : Array Projection) :
    ∀ s ∈ buildLetterBuckets ps, s.Narrows ps := by
  intro s hs
  obtain ⟨field, -, hs⟩ := List.mem_flatMap.mp hs
  exact (narrowsAt_letterBuckets ps field s hs).narrows

theorem narrows_buildPrefixTries (ps : Array Projection) :
    ∀ s ∈ buildPrefixTries ps, s.Narrows ps := by
  intro s hs
  obtain ⟨field, -, hs⟩ := List.mem_filterMap.mp hs
  exact (narrowsAt_prefixTrie hs).narrows

namespace AdaptiveProjector

/-- What a self-optimising projector keeps through every call and reorganisation: the full
scan as its fallback, an order that names only its sub-projectors, and sub-projectors that
all narrow soundly. -/
structure Sound (ps : Array Projection) (a : AdaptiveProjector) : Prop where
  fallback : a.fallback = SimpleProjector.ofProjections ps
  order : ∀ i ∈ a.order, i < a.subs.size
  narrows : ∀ s ∈ a.subs, s.Narrows ps

variable {ps : Array Projection} {a : AdaptiveProjector}

theorem sound_ofSubs (strategy : ProjectorStrategy) (subs : List SubProjector) (interval : Nat)
    (h : ∀ s ∈ subs, s.Narrows ps) : (ofSubs strategy ps subs interval).Sound ps where
  fallback := rfl
  order := fun i hi => by simpa [ofSubs] using hi
  narrows := fun s hs => h s (by simpa [ofSubs] using hs)

theorem Sound.withDecay (h : a.Sound ps) (decay : Float) : (a.withDecay decay).Sound ps :=
  ⟨h.fallback, h.order, h.narrows⟩

theorem Sound.reorganize (h : a.Sound ps) : a.reorganize.Sound ps where
  fallback := h.fallback
  order := fun i hi => h.order i ((List.mergeSort_perm _ _).mem_iff.mp hi)
  narrows := h.narrows

theorem Sound.find_scanFor (h : a.Sound ps) {x : Item} {side : Side}
    (hwin : WinnerPrefixesHold ps x side) :
    (a.scanFor x).find x side = (SimpleProjector.ofProjections ps).find x side := by
  unfold scanFor
  cases hsel : a.order.findSome? (fun i => (a.subs.getD i default).select x) with
  | none => rw [Option.getD_none, h.fallback]
  | some scan =>
    obtain ⟨i, hi, hs⟩ := List.exists_of_findSome?_eq_some hsel
    have hmem : a.subs.getD i default ∈ a.subs := by
      rw [Array.getD_eq_getD_getElem?, Array.getElem?_eq_getElem (h.order i hi)]
      exact Array.getElem_mem (h.order i hi)
    exact (h.narrows _ hmem).find hs hwin

theorem project_fallback (a : AdaptiveProjector) (x : Item) (side : Side) :
    (a.project x side).2.fallback = a.fallback := by
  simp only [AdaptiveProjector.project]
  split <;> split <;> rfl

theorem project_subs (a : AdaptiveProjector) (x : Item) (side : Side) :
    (a.project x side).2.subs = a.subs := by
  simp only [AdaptiveProjector.project]
  split <;> split <;> rfl

theorem project_order_perm (a : AdaptiveProjector) (x : Item) (side : Side) :
    (a.project x side).2.order.Perm a.order := by
  simp only [AdaptiveProjector.project]
  split
  · split
    · exact List.mergeSort_perm _ _
    · exact List.Perm.refl _
  · split
    · exact List.mergeSort_perm _ _
    · exact List.Perm.refl _

/-- One call: a projector still sound, and the answer of the linear scan. -/
theorem Sound.project (h : a.Sound ps) (x : Item) (side : Side) :
    (a.project x side).2.Sound ps ∧
      (WinnerPrefixesHold ps x side →
        (a.project x side).1 = (SimpleProjector.ofProjections ps).project x side) := by
  refine ⟨⟨?_, fun i hi => ?_, fun s hs => ?_⟩, fun hwin => ?_⟩
  · rw [project_fallback, h.fallback]
  · rw [project_subs]
    exact h.order i ((project_order_perm a x side).mem_iff.mp hi)
  · rw [project_subs] at hs
    exact h.narrows s hs
  · have hcall : ({ a with calls := a.calls + 1 } : AdaptiveProjector).Sound ps :=
      ⟨h.fallback, h.order, h.narrows⟩
    simp only [AdaptiveProjector.project, SimpleProjector.project]
    rw [hcall.find_scanFor hwin]

end AdaptiveProjector

/-- A step of a session with a projector. -/
inductive ProjectorStep where
  /-- Project an item on a side. -/
  | project (x : Item) (side : Side)
  /-- Force a reorganisation. -/
  | reorganize

namespace Projector

/-- The answers of a session's project steps, in order; the projector carries its counters,
hits and order from each step to the next. -/
def run : Projector → List ProjectorStep → List (Option Item)
  | _, [] => []
  | p, .project x side :: rest => (p.project x side).1 :: (p.project x side).2.run rest
  | p, .reorganize :: rest => p.reorganize.run rest

/-- The projector with its decay factor set, when one is given; a simple projector has none. -/
def decayed (p : Projector) : Option Float → Projector
  | some d =>
    match p with
    | .adaptive a => .adaptive (a.withDecay d)
    | .simple s => .simple s
  | none => p

end Projector

/-- A session with a sound self-optimising projector answers as the linear scan, as long as the
projection the scan picks for each item has its known prefixes holding of the item. -/
theorem AdaptiveProjector.Sound.run {ps : Array Projection} (steps : List ProjectorStep)
    (hwin : ∀ x side, ProjectorStep.project x side ∈ steps → WinnerPrefixesHold ps x side) :
    ∀ a : AdaptiveProjector, a.Sound ps →
      (Projector.adaptive a).run steps =
        (Projector.simple (SimpleProjector.ofProjections ps)).run steps := by
  induction steps with
  | nil => intro a _; rfl
  | cons step rest ih =>
    intro a h
    have hrest : ∀ x side, ProjectorStep.project x side ∈ rest → WinnerPrefixesHold ps x side :=
      fun x side hx => hwin x side (List.mem_cons_of_mem step hx)
    cases step with
    | project x side =>
      obtain ⟨hnext, hanswer⟩ := h.project x side
      simp only [Projector.run, Projector.project]
      rw [hanswer (hwin x side List.mem_cons_self), ih hrest _ hnext]
    | reorganize =>
      simp only [Projector.run, Projector.reorganize]
      exact ih hrest _ h.reorganize

theorem winnerPrefixesHold_of_literal {ps : Array Projection}
    (hlit : ∀ p ∈ ps, p.pattern.LiteralFields) (x : Item) (side : Side) :
    WinnerPrefixesHold ps x side := by
  intro i y hfind p hp
  obtain ⟨p', hp', happly⟩ := SimpleProjector.find_some hfind
  rw [show (SimpleProjector.ofProjections ps).projections = ps from rfl, hp] at hp'
  cases hp'
  exact ItemPattern.prefixesHold_of_test (hlit p (Array.mem_of_getElem? hp))
    (Projection.success_of_apply happly)

/-- A session with a projector built over sub-projectors that all narrow soundly, with or
without a decay factor, answers as the linear scan under the condition of the scan's pick. -/
theorem Projector.run_ofSubs_eq_linear_scan {ps : Array Projection} {subs : List SubProjector}
    (hsubs : ∀ s ∈ subs, s.Narrows ps) (strategy : ProjectorStrategy) (interval : Nat)
    (decay : Option Float) (steps : List ProjectorStep)
    (hwin : ∀ x side, ProjectorStep.project x side ∈ steps → WinnerPrefixesHold ps x side) :
    ((Projector.adaptive (AdaptiveProjector.ofSubs strategy ps subs interval)).decayed decay).run
        steps =
      (Projector.simple (SimpleProjector.ofProjections ps)).run steps := by
  have h := AdaptiveProjector.sound_ofSubs strategy subs interval hsubs
  cases decay with
  | none => exact h.run steps hwin
  | some d => exact (h.withDecay d).run steps hwin

/-- Every session with a first-letter or prefix-trie projector over a projection list, at any
reorganisation interval (zero acting as one) and decay factor, with projections of any items on
either side interleaved with forced reorganisations, answers each item as the linear scan over
the whole list: with the target of the first projection that serves the side and matches,
instantiated with its groups. This holds as long as the projection the scan picks for each item
has its known prefixes holding of the item; a back-referencing field after a capture that holds
`#` can break that, and the indexes then miss the projection. -/
theorem Projector.run_build_eq_linear_scan (ps : Array Projection)
    (strategy : ProjectorStrategy) (interval : Nat) (decay : Option Float)
    (steps : List ProjectorStep)
    (hwin : ∀ x side, ProjectorStep.project x side ∈ steps → WinnerPrefixesHold ps x side) :
    ((Projector.build strategy ps interval).decayed decay).run steps =
      (Projector.build .simple ps interval).run steps := by
  cases strategy with
  | simple => cases decay <;> rfl
  | firstLetter =>
    exact Projector.run_ofSubs_eq_linear_scan (narrows_buildLetterBuckets ps) _ _ _ _ hwin
  | prefixTrie =>
    exact Projector.run_ofSubs_eq_linear_scan (narrows_buildPrefixTries ps) _ _ _ _ hwin

/-- Two literal projections, a session of two projections around a forced reorganisation: the
prefix trie answers as the linear scan. -/
theorem Projector.run_build_eq_linear_scan_literal :
    let t := ItemType.ofSpec "CLASS" ["NAMESPACE", "NAME"]
    let ps : Array Projection := #[
      { pattern := ⟨"Acme.**:*", t, .perField [.startsWith "Acme" false 0, .always false 0], 0, 0⟩,
        target := ⟨t, [[.literal "acme"]], "acme"⟩ },
      { pattern := ⟨"**:*", t, .perField [.always true 0, .always false 0], 0, 0⟩,
        target := ⟨t, [[.literal "rest"]], "rest"⟩ }]
    let steps := [ProjectorStep.project ⟨t, ["Acme.Core", "Util"]⟩ .left, .reorganize,
      .project ⟨t, ["Beta", "Thing"]⟩ .right]
    (∀ x side, ProjectorStep.project x side ∈ steps → WinnerPrefixesHold ps x side) ∧
      ((Projector.build .prefixTrie ps 0).decayed (some 0.25)).run steps =
        (Projector.build .simple ps 0).run steps := by
  intro t ps steps
  have hlit : ∀ p ∈ ps, p.pattern.LiteralFields := by
    intro p hp
    simp only [ps, Array.mem_def, List.mem_cons, List.not_mem_nil, or_false] at hp
    rcases hp with rfl | rfl <;> simp [ItemPattern.LiteralFields, Matcher.IsLiteral]
  have hwin : ∀ x side, ProjectorStep.project x side ∈ steps → WinnerPrefixesHold ps x side :=
    fun x side _ => winnerPrefixesHold_of_literal hlit x side
  exact ⟨hwin, Projector.run_build_eq_linear_scan ps .prefixTrie 0 (some 0.25) steps hwin⟩

end Conformance
