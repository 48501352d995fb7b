import Mathlib
import Conformance.Matcher.Memo

/-!
The insertion-ordered list a memo is measured against. `OrderedMemo` keeps the subjects and their
outcomes in one list, oldest first: a subject already remembered is overwritten where it stands,
a new one goes last, and a full list first drops its oldest `batch` subjects. `OrderedMemo.Kept`
(distinct subjects, no more than the bound) and `OrderedMemo.Recent` (each outcome the last one
inserted) hold after any run, and distinct subjects leave `n` of them while `n ≤ C`, then
`C - B + 1 + (n - C - 1) % B` for bound `C` and batch `B`.
-/

set_option autoImplicit false
set_option relaxedAutoImplicit false

namespace Conformance

/-- Outcomes remembered per subject in one list, oldest first. -/
structure OrderedMemo where
  capacity : Nat := memoCapacity
  entries : List (String × Outcome) := []

namespace OrderedMemo

/-- The number of remembered subjects. -/
def size (m : OrderedMemo) : Nat := m.entries.length

/-- The remembered outcome of a subject. -/
def find? (m : OrderedMemo) (subject : String) : Option Outcome := m.entries.lookup subject

/-- Remembers an outcome. A subject already present gets the new outcome in place;
otherwise a full list first drops its oldest quarter. -/
def insert (m : OrderedMemo) (subject : String) (o : Outcome) : OrderedMemo :=
  if m.entries.any (·.1 == subject) then
    { m with entries := m.entries.map fun e => if e.1 == subject then (subject, o) else e }
  else
    let kept := if m.entries.length ≥ Nat.max m.capacity 1 then
        m.entries.drop (Nat.max (Nat.max m.capacity 1 / 4) 1)
      else m.entries
    { m with entries := kept ++ [(subject, o)] }

/-- The most subjects a memo holds: its capacity, and at least one. -/
def bound (m : OrderedMemo) : Nat := Nat.max m.capacity 1

/-- How many of the oldest subjects a full memo drops for a new one: a quarter of its bound,
and at least one. -/
def batch (m : OrderedMemo) : Nat := Nat.max (m.bound / 4) 1

/-- The remembered subjects, oldest first. -/
def keys (m : OrderedMemo) : List String := m.entries.map Prod.fst

/-- The memo after a run of insertions, in order. -/
def insertAll (m : OrderedMemo) (ops : List (String × Outcome)) : OrderedMemo :=
  ops.foldl (fun m e => m.insert e.1 e.2) m

@[simp] theorem length_keys (m : OrderedMemo) : m.keys.length = m.size := by
  simp [keys, size]

@[simp] theorem insertAll_nil (m : OrderedMemo) : m.insertAll [] = m := rfl

@[simp] theorem insertAll_cons (m : OrderedMemo) (e : String × Outcome) (ops : List (String × Outcome)) :
    m.insertAll (e :: ops) = (m.insert e.1 e.2).insertAll ops := rfl

theorem insertAll_append (m : OrderedMemo) (ops ops' : List (String × Outcome)) :
    m.insertAll (ops ++ ops') = (m.insertAll ops).insertAll ops' := by
  simp [insertAll, List.foldl_append]

variable {m : OrderedMemo} {s k : String} {o : Outcome}

theorem any_key_iff : m.entries.any (·.1 == s) = true ↔ s ∈ m.keys := by
  simp [keys, List.any_eq_true]

@[simp] theorem insert_capacity : (m.insert s o).capacity = m.capacity := by
  unfold OrderedMemo.insert
  split <;> rfl

@[simp] theorem insert_bound : (m.insert s o).bound = m.bound := by
  simp [bound]

@[simp] theorem insert_batch : (m.insert s o).batch = m.batch := by
  simp [batch]

@[simp] theorem insertAll_capacity (ops : List (String × Outcome)) :
    (m.insertAll ops).capacity = m.capacity := by
  induction ops generalizing m with
  | nil => rfl
  | cons e ops ih => simp [ih]

theorem insert_of_mem (h : s ∈ m.keys) :
    (m.insert s o).entries = m.entries.map fun e => if e.1 == s then (s, o) else e := by
  simp [OrderedMemo.insert, any_key_iff.mpr h]

theorem insert_of_not_mem (h : s ∉ m.keys) :
    (m.insert s o).entries =
      m.entries.drop (if m.bound ≤ m.size then m.batch else 0) ++ [(s, o)] := by
  have hany : m.entries.any (·.1 == s) = false :=
    Bool.eq_false_iff.mpr fun h' => h (any_key_iff.mp h')
  by_cases hfull : m.bound ≤ m.size
  · have hfull' : m.entries.length ≥ Nat.max m.capacity 1 := hfull
    rw [if_pos hfull]
    simp [OrderedMemo.insert, hany, hfull', batch, bound]
  · have hroom : ¬m.entries.length ≥ Nat.max m.capacity 1 := hfull
    rw [if_neg hfull]
    simp [OrderedMemo.insert, hany, hroom]

theorem keys_insert_of_mem (h : s ∈ m.keys) : (m.insert s o).keys = m.keys := by
  simp only [keys, insert_of_mem h, List.map_map]
  apply List.map_congr_left
  intro e _
  by_cases he : e.1 = s <;> simp [he]

theorem keys_insert_of_full (h : s ∉ m.keys) (hfull : m.bound ≤ m.size) :
    (m.insert s o).keys = m.keys.drop (min m.batch m.size) ++ [s] := by
  have hdrop : m.keys.drop m.batch = m.keys.drop (min m.batch m.size) := by
    rcases Nat.le_total m.batch m.size with hle | hle
    · rw [Nat.min_eq_left hle]
    · rw [Nat.min_eq_right hle, List.drop_eq_nil_of_le (by simpa using hle),
        List.drop_eq_nil_of_le (by simp)]
  rw [← hdrop]
  unfold keys
  rw [insert_of_not_mem h, if_pos hfull, List.map_append, List.map_drop]
  rfl

theorem keys_insert_of_room (h : s ∉ m.keys) (hroom : m.size < m.bound) :
    (m.insert s o).keys = m.keys ++ [s] := by
  simp [keys, insert_of_not_mem h, if_neg (Nat.not_le.mpr hroom)]

theorem size_insert_of_not_mem (h : s ∉ m.keys) :
    (m.insert s o).size =
      if m.bound ≤ m.size then m.size - min m.batch m.size + 1 else m.size + 1 := by
  by_cases hfull : m.bound ≤ m.size
  · rw [if_pos hfull, ← length_keys (m.insert s o), keys_insert_of_full h hfull]
    simp
  · rw [if_neg hfull, ← length_keys (m.insert s o), keys_insert_of_room h (Nat.lt_of_not_le hfull)]
    simp

theorem keys_insert_subset : (m.insert s o).keys ⊆ m.keys ++ [s] := by
  by_cases h : s ∈ m.keys
  · rw [keys_insert_of_mem h]
    exact List.subset_append_left _ _
  · by_cases hfull : m.bound ≤ m.size
    · rw [keys_insert_of_full h hfull]
      intro x hx
      rcases List.mem_append.mp hx with hx | hx
      · exact List.mem_append_left _ (List.mem_of_mem_drop hx)
      · exact List.mem_append_right _ hx
    · rw [keys_insert_of_room h (Nat.lt_of_not_le hfull)]
      exact List.Subset.refl _

theorem find?_eq_of_mem (hnodup : m.keys.Nodup) (he : (k, o) ∈ m.entries) :
    m.find? k = some o := by
  unfold find?
  obtain ⟨capacity, entries⟩ := m
  simp only [keys] at hnodup he ⊢
  induction entries with
  | nil => cases he
  | cons e rest ih =>
    obtain ⟨d, x⟩ := e
    rw [List.map_cons, List.nodup_cons] at hnodup
    rcases List.mem_cons.mp he with he | hmem
    · obtain ⟨rfl, rfl⟩ := Prod.mk.inj he
      exact List.lookup_cons_self
    · have hne : k ≠ d := by
        rintro rfl
        exact hnodup.1 (List.mem_map.mpr ⟨(k, o), hmem, rfl⟩)
      have hbeq : (k == d) = false := by simpa using hne
      simp [List.lookup_cons, hbeq, ih hnodup.2 hmem]

theorem find?_eq_none (hk : k ∉ m.keys) : m.find? k = none := by
  unfold find?
  apply List.lookup_eq_none_iff.mpr
  intro e he
  have hne : k ≠ e.1 := by
    rintro rfl
    exact hk (List.mem_map_of_mem he)
  simpa using hne

theorem one_le_bound (m : OrderedMemo) : 1 ≤ m.bound := le_max_right _ _

theorem one_le_batch (m : OrderedMemo) : 1 ≤ m.batch := le_max_right _ _

theorem batch_le_bound (m : OrderedMemo) : m.batch ≤ m.bound := by
  have := one_le_bound m
  simp only [batch, Nat.max_def]
  split <;> omega

/-- The shape every memo keeps: distinct subjects, and no more of them than the bound. -/
structure Kept (m : OrderedMemo) : Prop where
  keys_nodup : m.keys.Nodup
  size_le : m.size ≤ m.bound

theorem kept_fresh (capacity : Nat) : Kept { capacity } where
  keys_nodup := List.nodup_nil
  size_le := Nat.zero_le _

theorem Kept.insert (h : m.Kept) : (m.insert s o).Kept := by
  by_cases hs : s ∈ m.keys
  · have hkeys := keys_insert_of_mem (o := o) hs
    refine ⟨hkeys ▸ h.keys_nodup, ?_⟩
    rw [insert_bound, ← length_keys, hkeys, length_keys]
    exact h.size_le
  · have hnew : ∀ l : List String, l.Sublist m.keys → (l ++ [s]).Nodup := fun l hl => by
      rw [← List.concat_eq_append]
      exact (h.keys_nodup.sublist hl).concat fun hl' => hs (hl.subset hl')
    have hsize := size_insert_of_not_mem (o := o) hs
    have hbatch := one_le_batch m
    have hbound := h.size_le
    have hbound1 := one_le_bound m
    by_cases hfull : m.bound ≤ m.size
    · refine ⟨keys_insert_of_full hs hfull ▸ hnew _ (List.drop_sublist _ _), ?_⟩
      rw [hsize, if_pos hfull, insert_bound]
      omega
    · refine ⟨keys_insert_of_room hs (Nat.lt_of_not_le hfull) ▸ hnew _ (List.Sublist.refl _), ?_⟩
      rw [hsize, if_neg hfull, insert_bound]
      omega

theorem Kept.insertAll (h : m.Kept) (ops : List (String × Outcome)) : (m.insertAll ops).Kept := by
  induction ops generalizing m with
  | nil => exact h
  | cons e ops ih => exact ih h.insert

/-- Every remembered outcome is the last one the history of insertions gave its subject. -/
def Recent (history : List (String × Outcome)) (m : OrderedMemo) : Prop :=
  ∀ e ∈ m.entries, history.reverse.lookup e.1 = some e.2

theorem recent_fresh (capacity : Nat) : Recent [] { capacity } := by
  intro e he
  cases he

theorem lookup_reverse_append_singleton (history : List (String × Outcome)) :
    (history ++ [(s, o)]).reverse.lookup k = if k = s then some o else history.reverse.lookup k := by
  by_cases hk : k = s
  · subst hk
    simp
  · have hbeq : (k == s) = false := by simpa using hk
    simp [List.lookup_cons, hbeq, hk]

theorem Recent.insert {history : List (String × Outcome)} (h : Recent history m) :
    Recent (history ++ [(s, o)]) (m.insert s o) := by
  intro e he
  rw [lookup_reverse_append_singleton]
  by_cases hs : s ∈ m.keys
  · rw [insert_of_mem hs, List.mem_map] at he
    obtain ⟨e', he', rfl⟩ := he
    by_cases hkey : e'.1 = s
    · simp [hkey]
    · simp [hkey, h e' he']
  · rw [insert_of_not_mem hs, List.mem_append, List.mem_singleton] at he
    rcases he with he | rfl
    · have hold := List.mem_of_mem_drop he
      have hkey : e.1 ≠ s := by
        rintro hkey
        exact hs (hkey ▸ List.mem_map_of_mem hold)
      simp [hkey, h e hold]
    · simp

theorem Recent.insertAll {history : List (String × Outcome)} (h : Recent history m)
    (ops : List (String × Outcome)) : Recent (history ++ ops) (m.insertAll ops) := by
  induction ops generalizing m history with
  | nil => simpa using h
  | cons e ops ih => simpa using ih (h.insert (s := e.1) (o := e.2))

theorem Recent.find? {history : List (String × Outcome)} (h : Recent history m) (hk : m.Kept) :
    (∀ k ∈ m.keys, m.find? k = history.reverse.lookup k) ∧ ∀ k ∉ m.keys, m.find? k = none := by
  refine ⟨fun k hmem => ?_, fun k hk' => find?_eq_none hk'⟩
  obtain ⟨e, he, rfl⟩ := List.mem_map.mp hmem
  rw [find?_eq_of_mem hk.keys_nodup he, h e he]

theorem mem_of_mem_insert {e : String × Outcome} (he : e ∈ (m.insert s o).entries)
    (hne : e.1 ≠ s) : e ∈ m.entries := by
  by_cases hs : s ∈ m.keys
  · rw [insert_of_mem hs, List.mem_map] at he
    obtain ⟨e', he', rfl⟩ := he
    by_cases hkey : e'.1 = s
    · simp [hkey] at hne
    · simpa [hkey] using he'
  · rw [insert_of_not_mem hs, List.mem_append, List.mem_singleton] at he
    rcases he with he | rfl
    · exact List.mem_of_mem_drop he
    · exact absurd rfl hne

theorem mem_insert_self : (s, o) ∈ (m.insert s o).entries := by
  by_cases hs : s ∈ m.keys
  · obtain ⟨e, he, hes⟩ := List.mem_map.mp hs
    rw [insert_of_mem hs, List.mem_map]
    exact ⟨e, he, by simp [hes]⟩
  · rw [insert_of_not_mem hs]
    exact List.mem_append_right _ List.mem_cons_self

/-- In a kept list, an insertion gives the subject its outcome, and every other subject its old
outcome while it stays and none once dropped. -/
theorem find?_insert (hk : m.Kept) (x : String) :
    (m.insert s o).find? x =
      if x = s then some o else if x ∈ (m.insert s o).keys then m.find? x else none := by
  have hnodup := (hk.insert (s := s) (o := o)).keys_nodup
  by_cases hx : x = s
  · subst hx
    rw [if_pos rfl]
    exact find?_eq_of_mem hnodup mem_insert_self
  · rw [if_neg hx]
    split
    · rename_i hmem
      obtain ⟨e, he, rfl⟩ := List.mem_map.mp hmem
      rw [find?_eq_of_mem hnodup he, find?_eq_of_mem hk.keys_nodup (mem_of_mem_insert he hx)]
    · exact find?_eq_none ‹_›

/-- The number of subjects after a new one: a full memo drops a batch (at most all) first. -/
def grow (bound batch count : Nat) : Nat :=
  if bound ≤ count then count - min batch count + 1 else count + 1

theorem size_insertAll_fresh (ops : List (String × Outcome)) (hnodup : (ops.map Prod.fst).Nodup)
    (hfresh : ∀ e ∈ ops, e.1 ∉ m.keys) :
    (m.insertAll ops).size = (grow m.bound m.batch)^[ops.length] m.size := by
  induction ops generalizing m with
  | nil => rfl
  | cons e ops ih =>
    rw [List.map_cons, List.nodup_cons] at hnodup
    have he : e.1 ∉ m.keys := hfresh e List.mem_cons_self
    have hrest : ∀ e' ∈ ops, e'.1 ∉ (m.insert e.1 e.2).keys := by
      intro e' he' hmem
      rcases List.mem_append.mp (keys_insert_subset hmem) with hold | hnew
      · exact hfresh e' (List.mem_cons_of_mem _ he') hold
      · have heq : e'.1 = e.1 := List.mem_singleton.mp hnew
        exact hnodup.1 (heq ▸ List.mem_map_of_mem (f := Prod.fst) he')
    rw [insertAll_cons, ih hnodup.2 hrest, insert_bound, insert_batch,
      size_insert_of_not_mem he]
    rfl

theorem add_one_mod_eq_ite {x B : Nat} (hB : 0 < B) :
    (x + 1) % B = if x % B + 1 = B then 0 else x % B + 1 := by
  have hlt := Nat.mod_lt x hB
  have hx : (x + 1) % B = (x % B + 1) % B := by
    conv_lhs => rw [← Nat.div_add_mod x B]
    rw [Nat.add_assoc, Nat.mul_add_mod]
  rw [hx]
  split
  · rename_i hwrap
    rw [hwrap, Nat.mod_self]
  · exact Nat.mod_eq_of_lt (by omega)

theorem grow_closed {C B : Nat} (hB : 1 ≤ B) (hBC : B ≤ C) (n : Nat) :
    grow C B (if n ≤ C then n else C - B + 1 + (n - C - 1) % B) =
      if n + 1 ≤ C then n + 1 else C - B + 1 + (n + 1 - C - 1) % B := by
  by_cases hn : n + 1 ≤ C
  · rw [if_pos (Nat.le_of_succ_le hn), if_pos hn, grow, if_neg (by omega)]
  · rw [if_neg hn]
    by_cases hC : n = C
    · subst hC
      rw [if_pos (Nat.le_refl n), grow, if_pos (Nat.le_refl n), Nat.min_eq_left hBC]
      simp
    · have hstep : n + 1 - C - 1 = (n - C - 1) + 1 := by omega
      rw [if_neg (show ¬n ≤ C by omega), hstep, add_one_mod_eq_ite (by omega)]
      have hlt := Nat.mod_lt (n - C - 1) (show 0 < B by omega)
      generalize (n - C - 1) % B = r at hlt ⊢
      unfold grow
      split <;> split <;> omega

/-- After `n` distinct subjects a memo of bound `C` and batch `B` holds `n` of them while
`n ≤ C`, and `C - B + 1 + (n - C - 1) % B` after that. -/
theorem grow_iterate {C B : Nat} (hB : 1 ≤ B) (hBC : B ≤ C) (n : Nat) :
    (grow C B)^[n] 0 = if n ≤ C then n else C - B + 1 + (n - C - 1) % B := by
  induction n with
  | zero => simp
  | succ n ih => rw [Function.iterate_succ_apply', ih, grow_closed hB hBC]

/-- Distinct subjects inserted into a fresh memo of capacity `c`: `n` of them while `n` is at most
the bound, then the count cycles down by a batch and back. -/
theorem size_insertAll_distinct (c : Nat) (ops : List (String × Outcome))
    (hnodup : (ops.map Prod.fst).Nodup) :
    (({ capacity := c } : OrderedMemo).insertAll ops).size =
      if ops.length ≤ max c 1 then ops.length
      else max c 1 - max (c / 4) 1 + 1 + (ops.length - max c 1 - 1) % max (c / 4) 1 := by
  have hsize : ({ capacity := c } : OrderedMemo).size = 0 := rfl
  have hbound : ({ capacity := c } : OrderedMemo).bound = max c 1 := rfl
  have hbatch : ({ capacity := c } : OrderedMemo).batch = max (c / 4) 1 := by
    show max (max c 1 / 4) 1 = max (c / 4) 1
    omega
  rw [size_insertAll_fresh ops hnodup (fun _ _ => List.not_mem_nil), hsize,
    grow_iterate (one_le_batch _) (batch_le_bound _), hbound, hbatch]

@[simp] theorem insertAll_bound (ops : List (String × Outcome)) :
    (m.insertAll ops).bound = m.bound := by
  simp [bound]

end OrderedMemo

end Conformance
