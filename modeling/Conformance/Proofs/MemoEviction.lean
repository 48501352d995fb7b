import Mathlib
import Conformance.Proofs.Memo
import Conformance.Proofs.OrderedMemo

/-!
A memo refines the insertion-ordered list `OrderedMemo`. Its two containers stay in step
(`Memo.Lockstep`): the hash map and the order hold the same subjects and the order holds each
once, so the number of subjects is the length of the order. In step, an insertion does to the memo
what it does to the list (`Memo.Refines.insert`): the same capacity, the order equal to the list's
subjects, and every subject finding the same outcome in both. A memo built by insertions from a
fresh one therefore stands for the list built by the same insertions, and the list's facts (the
bound, the eviction of the oldest batch, the count of distinct subjects) hold of it.
-/

set_option autoImplicit false
set_option relaxedAutoImplicit false

namespace Conformance

theorem mem_drop_iff_of_nodup {l : List String} (hl : l.Nodup) (n : Nat) (x : String) :
    x ∈ l.drop n ↔ x ∈ l ∧ x ∉ l.take n := by
  have hsplit := List.take_append_drop n l
  have hdisj := (List.nodup_append.mp (hsplit.symm ▸ hl)).2.2
  constructor
  · intro hx
    exact ⟨List.mem_of_mem_drop hx, fun hx' => hdisj x hx' x hx rfl⟩
  · rintro ⟨hx, hx'⟩
    rw [← hsplit] at hx
    exact (List.mem_append.mp hx).resolve_left hx'

namespace Memo

variable {m : Memo} {s x : String} {o : Outcome}

/-- The memo after a run of insertions, in order. -/
def insertAll (m : Memo) (ops : List (String × Outcome)) : Memo :=
  ops.foldl (fun m e => m.insert e.1 e.2) m

@[simp] theorem insertAll_nil (m : Memo) : m.insertAll [] = m := rfl

@[simp] theorem insertAll_cons (m : Memo) (e : String × Outcome) (ops : List (String × Outcome)) :
    m.insertAll (e :: ops) = (m.insert e.1 e.2).insertAll ops := rfl

theorem mem_entries_iff : x ∈ m.entries ↔ (m.find? x).isSome :=
  Std.HashMap.mem_iff_isSome_getElem?

theorem mem_entries_insert (hx : x ∈ (m.insert s o).entries) : x = s ∨ x ∈ m.entries := by
  rw [mem_entries_iff, find?_insert] at hx
  by_cases hxs : x = s
  · exact .inl hxs
  · rw [if_neg hxs] at hx
    split at hx
    · simp at hx
    · exact .inr (mem_entries_iff.mpr hx)

theorem mem_order_insert (hx : x ∈ (m.insert s o).order) : x = s ∨ x ∈ m.order := by
  rw [order_insert] at hx
  split at hx
  · exact .inr hx
  · rcases List.mem_append.mp hx with hx | hx
    · split at hx
      · exact .inr (List.mem_of_mem_drop hx)
      · exact .inr hx
    · exact .inl (List.mem_singleton.mp hx)

/-- The two containers of a memo in step: the hash map and the order hold the same subjects, and
the order holds each once. -/
structure Lockstep (m : Memo) : Prop where
  mem_iff : ∀ s, s ∈ m.entries ↔ s ∈ m.order
  nodup : m.order.Nodup

theorem lockstep_fresh (capacity : Nat) : Lockstep { capacity } where
  mem_iff s := by simp
  nodup := List.nodup_nil

theorem Lockstep.size_eq (h : m.Lockstep) : m.size = m.order.length := by
  have hperm : m.entries.keys.Perm m.order :=
    (List.perm_ext_iff_of_nodup Std.HashMap.nodup_keys h.nodup).mpr fun s => by
      rw [Std.HashMap.mem_keys, h.mem_iff]
  rw [size, ← Std.HashMap.length_keys, hperm.length_eq]

theorem Lockstep.find?_eq_none (h : m.Lockstep) (hx : x ∉ m.order) : m.find? x = none :=
  Std.HashMap.getElem?_eq_none fun hx' => hx ((h.mem_iff x).mp hx')

/-- In step, an insertion gives its subject the new outcome, and every other subject its old
outcome while it stays in the order and none once it has left. -/
theorem Lockstep.find?_insert (h : m.Lockstep) (x : String) :
    (m.insert s o).find? x =
      if x = s then some o else if x ∈ (m.insert s o).order then m.find? x else none := by
  rw [Memo.find?_insert, order_insert]
  by_cases hx : x = s
  · simp [hx]
  rw [if_neg hx, if_neg hx]
  by_cases hs : s ∈ m.entries
  · rw [if_pos hs, if_neg (fun hc => hc.1 hs)]
    by_cases ho : x ∈ m.order
    · rw [if_pos ho]
    · rw [if_neg ho, h.find?_eq_none ho]
  rw [if_neg hs]
  by_cases hfull : m.bound ≤ m.size
  · rw [if_pos hfull]
    by_cases ht : x ∈ m.order.take (min m.batch m.order.length)
    · have hout : x ∉ m.order.drop (min m.batch m.order.length) ++ [s] := by
        simp [mem_drop_iff_of_nodup h.nodup, ht, hx]
      rw [if_pos ⟨hs, hfull, ht⟩, if_neg hout]
    · rw [if_neg (fun hc => ht hc.2.2)]
      by_cases ho : x ∈ m.order
      · have hin : x ∈ m.order.drop (min m.batch m.order.length) ++ [s] :=
          List.mem_append_left _ ((mem_drop_iff_of_nodup h.nodup _ x).mpr ⟨ho, ht⟩)
        rw [if_pos hin]
      · have hout : x ∉ m.order.drop (min m.batch m.order.length) ++ [s] := by
          simp [mem_drop_iff_of_nodup h.nodup, ho, hx]
        rw [if_neg hout, h.find?_eq_none ho]
  · rw [if_neg hfull, if_neg (fun hc => hfull hc.2.1)]
    by_cases ho : x ∈ m.order
    · rw [if_pos (List.mem_append_left _ ho)]
    · rw [if_neg (by simp [ho, hx]), h.find?_eq_none ho]

theorem Lockstep.insert (h : m.Lockstep) : (m.insert s o).Lockstep := by
  refine ⟨fun x => ?_, ?_⟩
  · rw [mem_entries_iff, h.find?_insert]
    by_cases hx : x = s
    · subst hx
      simp only [if_true, Option.isSome_some, true_iff]
      rw [order_insert]
      split
      · exact (h.mem_iff x).mp ‹_›
      · exact List.mem_append_right _ List.mem_cons_self
    · rw [if_neg hx]
      split
      · rename_i hmem
        have hold : x ∈ m.order := (mem_order_insert hmem).resolve_left hx
        simp only [hmem, iff_true, ← mem_entries_iff, h.mem_iff]
        exact hold
      · simp [*]
  · rw [order_insert]
    split
    · exact h.nodup
    · rename_i hs
      have hs' : s ∉ m.order := fun h' => hs ((h.mem_iff s).mpr h')
      have hlast : ∀ l : List String, l.Sublist m.order → (l ++ [s]).Nodup := fun l hl => by
        rw [← List.concat_eq_append]
        exact (h.nodup.sublist hl).concat fun hl' => hs' (hl.subset hl')
      split
      · exact hlast _ (List.drop_sublist _ _)
      · exact hlast _ (List.Sublist.refl _)

theorem Lockstep.insertAll (h : m.Lockstep) (ops : List (String × Outcome)) :
    (m.insertAll ops).Lockstep := by
  induction ops generalizing m with
  | nil => exact h
  | cons e ops ih => exact ih h.insert

theorem Lockstep.order_insert_of_mem (h : m.Lockstep) (hs : s ∈ m.order) :
    (m.insert s o).order = m.order := by
  rw [order_insert, if_pos ((h.mem_iff s).mpr hs)]

theorem Lockstep.find?_insert_of_ne (h : m.Lockstep) (hs : s ∈ m.order) (hx : x ≠ s) :
    (m.insert s o).find? x = m.find? x := by
  rw [h.find?_insert, if_neg hx, h.order_insert_of_mem hs]
  split
  · rfl
  · exact (h.find?_eq_none ‹_›).symm

theorem Lockstep.order_insert_of_full (h : m.Lockstep) (hs : s ∉ m.order)
    (hfull : m.bound ≤ m.size) :
    (m.insert s o).order = m.order.drop (min m.batch m.size) ++ [s] := by
  rw [order_insert, if_neg (mt (h.mem_iff s).mp hs), if_pos hfull, ← h.size_eq]

theorem Lockstep.order_insert_of_room (h : m.Lockstep) (hs : s ∉ m.order)
    (hroom : m.size < m.bound) : (m.insert s o).order = m.order ++ [s] := by
  rw [order_insert, if_neg (mt (h.mem_iff s).mp hs), if_neg (Nat.not_le.mpr hroom)]

/-- A memo stands for an ordered list when both have the same capacity, the memo's order is the
list's subjects, and every subject finds the same outcome in both. -/
structure Refines (m : Memo) (l : OrderedMemo) : Prop where
  capacity_eq : m.capacity = l.capacity
  order_eq : m.order = l.keys
  find?_eq : ∀ x, m.find? x = l.find? x

theorem refines_fresh (capacity : Nat) : Refines { capacity } { capacity } :=
  ⟨rfl, rfl, fun _ => by simp [OrderedMemo.find?]⟩

variable {l : OrderedMemo}

/-- In step, an insertion into the memo is the same insertion into the list it stands for. -/
theorem Refines.insert (h : m.Refines l) (hm : m.Lockstep) (hl : l.Kept) :
    (m.insert s o).Refines (l.insert s o) := by
  have hsize : m.size = l.size := by rw [hm.size_eq, h.order_eq, OrderedMemo.length_keys]
  have hbound : m.bound = l.bound := by simp only [bound, OrderedMemo.bound, h.capacity_eq]
  have hbatch : m.batch = l.batch := by simp only [batch, OrderedMemo.batch, hbound]
  have horder : (m.insert s o).order = (l.insert s o).keys := by
    by_cases hs : s ∈ l.keys
    · rw [hm.order_insert_of_mem (by rwa [h.order_eq]), OrderedMemo.keys_insert_of_mem hs,
        h.order_eq]
    have hs' : s ∉ m.order := by rwa [h.order_eq]
    by_cases hfull : l.bound ≤ l.size
    · rw [hm.order_insert_of_full hs' (by rwa [hbound, hsize]),
        OrderedMemo.keys_insert_of_full hs hfull, h.order_eq, hbatch, hsize]
    · rw [hm.order_insert_of_room hs' (by rw [hbound, hsize]; omega),
        OrderedMemo.keys_insert_of_room hs (Nat.lt_of_not_le hfull), h.order_eq]
  refine ⟨by simp [h.capacity_eq], horder, fun x => ?_⟩
  rw [hm.find?_insert x, OrderedMemo.find?_insert hl x, horder, h.find?_eq]

theorem Refines.insertAll (h : m.Refines l) (hm : m.Lockstep) (hl : l.Kept)
    (ops : List (String × Outcome)) : (m.insertAll ops).Refines (l.insertAll ops) := by
  induction ops generalizing m l with
  | nil => exact h
  | cons e ops ih => exact ih (h.insert hm hl) hm.insert hl.insert

/-- A memo built by insertions from a fresh one is in step, and stands for the list built by the
same insertions. -/
theorem lockstep_refines_insertAll (c : Nat) (ops : List (String × Outcome)) :
    (({ capacity := c } : Memo).insertAll ops).Lockstep ∧
      (({ capacity := c } : Memo).insertAll ops).Refines
        (({ capacity := c } : OrderedMemo).insertAll ops) :=
  ⟨(lockstep_fresh c).insertAll ops,
    (refines_fresh c).insertAll (lockstep_fresh c) (OrderedMemo.kept_fresh c) ops⟩

theorem size_insertAll (c : Nat) (ops : List (String × Outcome)) :
    (({ capacity := c } : Memo).insertAll ops).size =
      (({ capacity := c } : OrderedMemo).insertAll ops).size := by
  obtain ⟨hm, hr⟩ := lockstep_refines_insertAll c ops
  rw [hm.size_eq, hr.order_eq, OrderedMemo.length_keys]

theorem size_insertAll_le (c : Nat) (ops : List (String × Outcome)) :
    (({ capacity := c } : Memo).insertAll ops).size ≤ max c 1 := by
  have hle := ((OrderedMemo.kept_fresh c).insertAll ops).size_le
  rw [OrderedMemo.insertAll_bound] at hle
  rw [size_insertAll]
  exact hle

end Memo

namespace Matcher

theorem testMemo_memo (mt : Matcher) (memo : Memo) (value : String) (ext : List String) :
    (mt.testMemo memo value ext).2 = memo ∨
      ∃ s o, (mt.testMemo memo value ext).2 = memo.insert s o := by
  unfold testMemo
  split
  · split
    · dsimp only
      split
      · exact .inl rfl
      · split
        · exact .inr ⟨_, _, rfl⟩
        · exact .inl rfl
    · exact .inl rfl
  · exact .inl rfl

theorem testAll_memo (mt : Matcher) (calls : List (String × List String)) :
    ∀ memo : Memo, ∃ ops, (mt.testAll memo calls).2 = memo.insertAll ops := by
  induction calls with
  | nil => exact fun memo => ⟨[], rfl⟩
  | cons c rest ih =>
    intro memo
    obtain ⟨value, ext⟩ := c
    obtain ⟨ops, hops⟩ := ih (mt.testMemo memo value ext).2
    have hrun : (mt.testAll memo ((value, ext) :: rest)).2 =
        (mt.testAll (mt.testMemo memo value ext).2 rest).2 := rfl
    rcases testMemo_memo mt memo value ext with hsame | ⟨s, o, hins⟩
    · exact ⟨ops, by rw [hrun, hops, hsame]⟩
    · exact ⟨(s, o) :: ops, by rw [hrun, hops, hins]; rfl⟩

/-- A matcher's memo after any calls is the memo some insertions build from a fresh one, as full as
the list they build and never fuller than the capacity. -/
theorem testAll_fresh_memo (mt : Matcher) (calls : List (String × List String)) :
    ∃ ops, (mt.testAll {} calls).2 = ({} : Memo).insertAll ops ∧
      (mt.testAll {} calls).2.size = (({} : OrderedMemo).insertAll ops).size ∧
      (mt.testAll {} calls).2.size ≤ memoCapacity := by
  obtain ⟨ops, hops⟩ := testAll_memo mt calls {}
  refine ⟨ops, hops, hops ▸ Memo.size_insertAll memoCapacity ops, ?_⟩
  rw [hops]
  exact Memo.size_insertAll_le memoCapacity ops

end Matcher

namespace RegexMatcher

theorem testMemo_fresh {r : RegexMatcher} (hr : r.memoized = true) {memo : Memo}
    {value : String} {ext : List String} {o : Outcome}
    (hnew : r.subject value ext ∉ memo.entries) (ho : r.evaluate (r.subject value ext) = .ok o) :
    ((Matcher.regex r).testMemo memo value ext).2 = memo.insert (r.subject value ext) o := by
  simp only [Matcher.testMemo, hr, if_true, Memo.find?, Std.HashMap.getElem?_eq_none hnew, ho]

theorem testAll_fresh {r : RegexMatcher} (hr : r.memoized = true)
    (calls : List (String × List String))
    (hdistinct : (calls.map fun c => r.subject c.1 c.2).Nodup)
    (hok : ∀ c ∈ calls, ∃ o, r.evaluate (r.subject c.1 c.2) = .ok o) :
    ∀ memo : Memo, (∀ c ∈ calls, r.subject c.1 c.2 ∉ memo.entries) →
      ∃ ops : List (String × Outcome), ops.map Prod.fst = calls.map (fun c => r.subject c.1 c.2) ∧
        ((Matcher.regex r).testAll memo calls).2 = memo.insertAll ops := by
  induction calls with
  | nil => exact fun memo _ => ⟨[], rfl, rfl⟩
  | cons c rest ih =>
    intro memo hfresh
    obtain ⟨value, ext⟩ := c
    rw [List.map_cons, List.nodup_cons] at hdistinct
    obtain ⟨o, ho⟩ := hok (value, ext) List.mem_cons_self
    have hins := testMemo_fresh hr (hfresh (value, ext) List.mem_cons_self) ho
    have hrest : ∀ c ∈ rest,
        r.subject c.1 c.2 ∉ (memo.insert (r.subject value ext) o).entries := by
      intro c hc hmem
      rcases Memo.mem_entries_insert hmem with hnew | hold
      · exact hdistinct.1 (hnew ▸ List.mem_map_of_mem hc)
      · exact hfresh c (List.mem_cons_of_mem _ hc) hold
    obtain ⟨ops, hkeys, hops⟩ := ih hdistinct.2 (fun c hc => hok c (List.mem_cons_of_mem _ hc))
      _ hrest
    refine ⟨(r.subject value ext, o) :: ops, by simp [hkeys], ?_⟩
    have hrun : ((Matcher.regex r).testAll memo ((value, ext) :: rest)).2 =
        ((Matcher.regex r).testAll ((Matcher.regex r).testMemo memo value ext).2 rest).2 := rfl
    rw [hrun, hins, hops]
    rfl

/-- Distinct subjects that all evaluate fill a fresh memo up to its 1000 subjects, and from then on
every new subject that finds the memo full first drops the oldest 250. -/
theorem size_testAll_distinct {r : RegexMatcher} (hr : r.memoized = true)
    (calls : List (String × List String))
    (hdistinct : (calls.map fun c => r.subject c.1 c.2).Nodup)
    (hok : ∀ c ∈ calls, ∃ o, r.evaluate (r.subject c.1 c.2) = .ok o) :
    ((Matcher.regex r).testAll {} calls).2.size =
      if calls.length ≤ 1000 then calls.length else 751 + (calls.length - 1001) % 250 := by
  obtain ⟨ops, hkeys, hrun⟩ :=
    testAll_fresh hr calls hdistinct hok {} (fun _ _ => Std.HashMap.not_mem_empty)
  have hlen : ops.length = calls.length := by
    simpa using congrArg List.length hkeys
  have hbound : max memoCapacity 1 = 1000 := rfl
  have hbatch : max (memoCapacity / 4) 1 = 250 := rfl
  rw [hrun, Memo.size_insertAll memoCapacity ops,
    OrderedMemo.size_insertAll_distinct memoCapacity ops (hkeys ▸ hdistinct), hlen, hbound, hbatch,
    Nat.sub_sub]

end RegexMatcher

/-- The memo's two containers refine an insertion-ordered list of distinct subjects. Start from a
fresh memo of any capacity `c` and insert any outcomes under any subjects; reads change nothing.
The hash map and the order then hold the same subjects, the order each once, and the memo stands
for the list the same insertions build: the same order of subjects and the same outcomes. There
are at most `max c 1` subjects; a subject held answers the outcome inserted for it last, and one
not held answers nothing. The next insertion overwrites a subject held in place, so no subject's
age changes and no other outcome; it puts a new subject last, after dropping the oldest
`min (max (c / 4) 1) size` subjects when the memo is full and none otherwise. Distinct subjects
leave `n` of them while `n ≤ max c 1`, then the count cycles. A matcher's memo is such a memo after
the insertions its calls made, with the count of the list they build, so it never holds more than
1000 subjects; after `n` distinct subjects that all evaluate it holds `n` of them up to 1000, then
`751 + (n - 1001) % 250`. -/
theorem Memo.insertAll_refines_ordered_list (c : Nat) (ops : List (String × Outcome)) :
    let m := ({ capacity := c } : Memo).insertAll ops
    let l := ({ capacity := c } : OrderedMemo).insertAll ops
    (∀ s, s ∈ m.entries ↔ s ∈ m.order) ∧ m.order.Nodup ∧ m.size = m.order.length ∧
      m.order = l.keys ∧ (∀ k, m.find? k = l.find? k) ∧ m.size ≤ max c 1 ∧
      (∀ k ∈ m.order, m.find? k = ops.reverse.lookup k) ∧ (∀ k ∉ m.order, m.find? k = none) ∧
      (∀ k o, k ∈ m.order → (m.insert k o).order = m.order ∧ (m.insert k o).find? k = some o ∧
        ∀ x, x ≠ k → (m.insert k o).find? x = m.find? x) ∧
      (∀ k o, k ∉ m.order → max c 1 ≤ m.size →
        (m.insert k o).order = m.order.drop (min (max (c / 4) 1) m.size) ++ [k]) ∧
      (∀ k o, k ∉ m.order → m.size < max c 1 → (m.insert k o).order = m.order ++ [k]) ∧
      ((ops.map Prod.fst).Nodup →
        m.size = if ops.length ≤ max c 1 then ops.length
          else max c 1 - max (c / 4) 1 + 1 + (ops.length - max c 1 - 1) % max (c / 4) 1) ∧
      (∀ (mt : Matcher) (calls : List (String × List String)),
        ∃ ops', (mt.testAll {} calls).2 = ({} : Memo).insertAll ops' ∧
          (mt.testAll {} calls).2.size = (({} : OrderedMemo).insertAll ops').size ∧
          (mt.testAll {} calls).2.size ≤ memoCapacity) ∧
      (∀ (r : RegexMatcher) (calls : List (String × List String)), r.memoized = true →
        (calls.map fun c => r.subject c.1 c.2).Nodup →
        (∀ c ∈ calls, ∃ o, r.evaluate (r.subject c.1 c.2) = .ok o) →
        ((Matcher.regex r).testAll {} calls).2.size =
          if calls.length ≤ 1000 then calls.length else 751 + (calls.length - 1001) % 250) := by
  intro m l
  obtain ⟨hm, hr⟩ : m.Lockstep ∧ m.Refines l := Memo.lockstep_refines_insertAll c ops
  have hkept : l.Kept := (OrderedMemo.kept_fresh c).insertAll ops
  have hrecent : l.Recent ops := by simpa using (OrderedMemo.recent_fresh c).insertAll ops
  have hcap : m.capacity = c := hr.capacity_eq.trans (OrderedMemo.insertAll_capacity ops)
  have hbound : m.bound = max c 1 := by simp only [Memo.bound, hcap]
  have hbatch : m.batch = max (c / 4) 1 := by
    show max (m.bound / 4) 1 = max (c / 4) 1
    rw [hbound]
    omega
  obtain ⟨hheld, -⟩ := hrecent.find? hkept
  refine ⟨hm.mem_iff, hm.nodup, hm.size_eq, hr.order_eq, hr.find?_eq, Memo.size_insertAll_le c ops,
    fun k hk => ?_, fun k hk => hm.find?_eq_none hk,
    fun k o hk => ⟨hm.order_insert_of_mem hk, ?_, fun x hx => hm.find?_insert_of_ne hk hx⟩,
    fun k o hk hfull => ?_, fun k o hk hroom => hm.order_insert_of_room hk (hbound ▸ hroom),
    fun hnodup => ?_, Matcher.testAll_fresh_memo,
    fun _ calls hr => RegexMatcher.size_testAll_distinct hr calls⟩
  · rw [hr.find?_eq, hheld k (hr.order_eq ▸ hk)]
  · simp [hm.find?_insert]
  · rw [hm.order_insert_of_full hk (hbound ▸ hfull), hbatch]
  · rw [Memo.size_insertAll c ops]
    exact OrderedMemo.size_insertAll_distinct c ops hnodup

/-- Nine distinct subjects in a memo of capacity eight: the ninth drops the two oldest and seven
stay, found in the order and in the hash map alike; overwriting one of them keeps the order, and a
tenth goes last. Two distinct subjects through an expression that accepts everything are both
remembered. -/
theorem Memo.insertAll_refines_ordered_list_eight :
    let ops : List (String × Outcome) :=
      [("k0", none), ("k1", none), ("k2", none), ("k3", none), ("k4", none), ("k5", none),
        ("k6", none), ("k7", none), ("k8", none)]
    let m := ({ capacity := 8 } : Memo).insertAll ops
    let r : RegexMatcher :=
      { source := "", regex := ⟨"", ⟨#[.matched], 0, 0, 0⟩, 0, false⟩, external := 0, own := 0,
        fixedPrefix := "", fixedSuffix := "" }
    let calls : List (String × List String) := [("a", []), ("b", [])]
    (ops.map Prod.fst).Nodup ∧ m.size = 7 ∧
      m.order = ["k2", "k3", "k4", "k5", "k6", "k7", "k8"] ∧ m.find? "k1" = none ∧
      m.find? "k8" = some none ∧ (m.insert "k2" (some [])).order = m.order ∧
      "k9" ∉ m.order ∧ m.size < 8 ∧ (m.insert "k9" none).order = m.order ++ ["k9"] ∧
      r.memoized = true ∧ (calls.map fun c => r.subject c.1 c.2).Nodup ∧
      (∀ c ∈ calls, ∃ o, r.evaluate (r.subject c.1 c.2) = .ok o) ∧
      ((Matcher.regex r).testAll {} calls).2.size = 2 := by
  intro ops m r calls
  obtain ⟨-, -, -, horder, hfind, -, -, hnone, hpresent, -, hroom, hcount, -, hfresh⟩ :=
    Memo.insertAll_refines_ordered_list 8 ops
  have hnodup : (ops.map Prod.fst).Nodup := by decide
  have hkeys : m.order = ["k2", "k3", "k4", "k5", "k6", "k7", "k8"] := by
    rw [horder]
    decide
  have hk2 : "k2" ∈ m.order := by rw [hkeys]; decide
  have hk9 : "k9" ∉ m.order := by rw [hkeys]; decide
  have hsize : m.size = 7 := by rw [hcount hnodup]; rfl
  have hroomy : m.size < 8 := by rw [hsize]; decide
  have hdistinct : (calls.map fun c => r.subject c.1 c.2).Nodup := by decide +kernel
  have hok : ∀ c ∈ calls, ∃ o, r.evaluate (r.subject c.1 c.2) = .ok o := by
    intro c hc
    simp only [calls, List.mem_cons, List.not_mem_nil, or_false] at hc
    rcases hc with rfl | rfl
    · exact ⟨some [], by decide +kernel⟩
    · exact ⟨some [], by decide +kernel⟩
  exact ⟨hnodup, hsize, hkeys, hnone "k1" (by rw [hkeys]; decide), by rw [hfind]; decide,
    (hpresent "k2" (some []) hk2).1, hk9, hroomy, hroom "k9" none hk9 hroomy, rfl, hdistinct, hok,
    hfresh r calls rfl hdistinct hok⟩

end Conformance
