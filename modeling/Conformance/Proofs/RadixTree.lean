import Mathlib.Data.List.Nodup
import Conformance.Proofs.PrefixTree

/-!
What a radix tree binds, and how its operations read and change it. `RadixNode.bindings` lists
the keys stored below a node with their values, and `RadixNode.WellFormed` is the shape the tree
keeps: children under distinct characters, each edge starting with its character. On that shape
a lookup finds exactly the bound value, an insertion binds the key and keeps every other binding,
and the longest-prefix walk gives `RadixNode.longestHit`, the value at the longest bound prefix.
-/

set_option autoImplicit false
set_option relaxedAutoImplicit false

namespace Conformance

namespace RadixNode

variable {α : Type}

mutual

/-- The keys stored in a subtree with their values, each key read after the node's own edge:
the node's value at the empty key, then the bindings of its children behind their edges. -/
def bindings : RadixNode α → List (List Char × α)
  | .node _ v cs => (v.toList.map fun w => ([], w)) ++ bindingsOf cs

/-- The bindings below a list of children, each behind its child's edge. -/
def bindingsOf : List (Char × RadixNode α) → List (List Char × α)
  | [] => []
  | (_, n) :: rest => (n.bindings.map fun b => (n.edge ++ b.1, b.2)) ++ bindingsOf rest

end

/-- The shape a radix tree keeps below every node: children under distinct characters, each
child's edge starting with the character it sits under. -/
inductive WellFormed : RadixNode α → Prop
  | node {edge : List Char} {value : Option α} {children : List (Char × RadixNode α)} :
      (children.map Prod.fst).Nodup →
      (∀ c m, (c, m) ∈ children → m.edge.head? = some c) →
      (∀ c m, (c, m) ∈ children → WellFormed m) →
      WellFormed (.node edge value children)

/-- The value stored at a key counted from above the node's edge: the key must run through
the whole edge, which must not be empty. -/
def getThrough (n : RadixNode α) (key : List Char) : Option α :=
  if n.edge ≠ [] ∧ n.edge <+: key then n.get? (key.drop n.edge.length) else none

theorem get?_cons (n : RadixNode α) (c : Char) (p : List Char) :
    n.get? (c :: p) = (n.children.lookup c).bind fun m => m.getThrough (c :: p) := by
  rw [get?.eq_2]
  cases n.children.lookup c with
  | none => rfl
  | some m => simp [getThrough, List.isPrefixOf_iff_prefix]

theorem mem_bindingsOf {k : List Char} {w : α} {cs : List (Char × RadixNode α)} :
    (k, w) ∈ bindingsOf cs ↔ ∃ c m k', (c, m) ∈ cs ∧ (k', w) ∈ m.bindings ∧ k = m.edge ++ k' := by
  induction cs with
  | nil => simp [bindingsOf]
  | cons e rest ih =>
    obtain ⟨c, m⟩ := e
    simp only [bindingsOf, List.mem_append, List.mem_map, Prod.mk.injEq, ih, List.mem_cons]
    constructor
    · rintro (⟨⟨k', w'⟩, hk', rfl, rfl⟩ | ⟨d, x, k', hx, hk', rfl⟩)
      · exact ⟨c, m, k', .inl ⟨rfl, rfl⟩, hk', rfl⟩
      · exact ⟨d, x, k', .inr hx, hk', rfl⟩
    · rintro ⟨d, x, k', ⟨rfl, rfl⟩ | hx, hk', rfl⟩
      · exact .inl ⟨(k', w), hk', rfl, rfl⟩
      · exact .inr ⟨d, x, k', hx, hk', rfl⟩

theorem mem_bindings {n : RadixNode α} {k : List Char} {w : α} :
    (k, w) ∈ n.bindings ↔ (k = [] ∧ n.value = some w) ∨ (k, w) ∈ bindingsOf n.children := by
  cases n with
  | node e v cs =>
    simp only [bindings, value, children, List.mem_append, List.mem_map, Option.mem_toList,
      Prod.mk.injEq]
    constructor
    · rintro (⟨w', hw', rfl, rfl⟩ | h)
      · exact .inl ⟨rfl, hw'⟩
      · exact .inr h
    · rintro (⟨rfl, hv⟩ | h)
      · exact .inl ⟨w, hv, rfl, rfl⟩
      · exact .inr h


theorem lookup_cons_ne {β : Type} {c d : Char} {b : β} {cs : List (Char × β)} (h : d ≠ c) :
    ((c, b) :: cs).lookup d = cs.lookup d := by
  have : (d == c) = false := by simpa using h
  simp [List.lookup_cons, this]

theorem lookup_of_mem {cs : List (Char × RadixNode α)} (hnodup : (cs.map Prod.fst).Nodup)
    {c : Char} {m : RadixNode α} (h : (c, m) ∈ cs) : cs.lookup c = some m := by
  induction cs with
  | nil => cases h
  | cons e rest ih =>
    obtain ⟨d, x⟩ := e
    rw [List.map_cons, List.nodup_cons] at hnodup
    rcases List.mem_cons.mp h with he | hm
    · obtain ⟨rfl, rfl⟩ := Prod.mk.inj he
      exact List.lookup_cons_self
    · have hkey : c ∈ rest.map Prod.fst := List.mem_map_of_mem (f := Prod.fst) hm
      have hne : c ≠ d := by
        rintro rfl
        exact hnodup.1 hkey
      rw [lookup_cons_ne hne, ih hnodup.2 hm]

theorem not_mem_of_lookup {cs : List (Char × RadixNode α)} {c : Char}
    (h : cs.lookup c = none) (m : RadixNode α) : (c, m) ∉ cs := by
  intro hm
  have := List.lookup_eq_none_iff.mp h (c, m) hm
  simp at this

theorem lookup_setChild (c d : Char) (m : RadixNode α) (cs : List (Char × RadixNode α)) :
    (setChild c m cs).lookup d = if d = c then (cs.lookup c).map fun _ => m else cs.lookup d := by
  induction cs with
  | nil => simp [setChild]
  | cons e rest ih =>
    obtain ⟨e, x⟩ := e
    simp only [setChild, List.map_cons] at ih ⊢
    by_cases hec : e = c
    · subst hec
      by_cases hde : d = e
      · subst hde
        simp [List.lookup_cons_self]
      · simp only [beq_self_eq_true, ite_true, lookup_cons_ne hde, hde, ite_false] at ih ⊢
        exact ih
    · have hec' : (e == c) = false := by simpa using hec
      simp only [hec', Bool.false_eq_true, ite_false]
      by_cases hde : d = e
      · subst hde
        simp [List.lookup_cons_self, hec]
      · by_cases hdc : d = c
        · subst hdc
          simp only [lookup_cons_ne hde, ite_true] at ih ⊢
          exact ih
        · simp only [lookup_cons_ne hde, hdc, ite_false] at ih ⊢
          exact ih

theorem keys_setChild (c : Char) (m : RadixNode α) (cs : List (Char × RadixNode α)) :
    (setChild c m cs).map Prod.fst = cs.map Prod.fst := by
  simp only [setChild, List.map_map]
  congr 1
  funext e
  obtain ⟨d, x⟩ := e
  by_cases h : d = c <;> simp [h]

theorem perm_addChild (c : Char) (m : RadixNode α) (cs : List (Char × RadixNode α)) :
    (addChild c m cs).Perm ((c, m) :: cs) := by
  induction cs with
  | nil => exact List.Perm.refl _
  | cons e rest ih =>
    obtain ⟨d, x⟩ := e
    simp only [addChild]
    split
    · exact List.Perm.refl _
    · exact (ih.cons (d, x)).trans (List.Perm.swap _ _ _)

theorem lookup_addChild {c : Char} {m : RadixNode α} {cs : List (Char × RadixNode α)}
    (hc : cs.lookup c = none) (d : Char) :
    (addChild c m cs).lookup d = if d = c then some m else cs.lookup d := by
  induction cs with
  | nil =>
    by_cases hdc : d = c
    · subst hdc
      simp [addChild, List.lookup_cons_self]
    · simp [addChild, lookup_cons_ne hdc, hdc]
  | cons e rest ih =>
    obtain ⟨e, x⟩ := e
    have hec : c ≠ e := by
      rintro rfl
      simp [List.lookup_cons_self] at hc
    have hrest : rest.lookup c = none := by
      rwa [lookup_cons_ne hec] at hc
    simp only [addChild]
    split
    · by_cases hdc : d = c
      · subst hdc
        simp [List.lookup_cons_self]
      · simp [lookup_cons_ne hdc, hdc]
    · by_cases hde : d = e
      · subst hde
        simp [List.lookup_cons_self, Ne.symm hec]
      · rw [lookup_cons_ne hde, ih hrest, lookup_cons_ne hde]


namespace WellFormed

variable {n : RadixNode α}

theorem keys_nodup (h : n.WellFormed) : (n.children.map Prod.fst).Nodup := by
  cases h with
  | node hnodup _ _ => exact hnodup

theorem edge_head (h : n.WellFormed) {c : Char} {m : RadixNode α} (hm : (c, m) ∈ n.children) :
    ∃ e, m.edge = c :: e := by
  cases h with
  | node _ hhead _ => exact List.head?_eq_some_iff.mp (hhead c m hm)

theorem of_child (h : n.WellFormed) {c : Char} {m : RadixNode α} (hm : (c, m) ∈ n.children) :
    m.WellFormed := by
  cases h with
  | node _ _ hwf => exact hwf c m hm

theorem eq_of_lookup (h : n.WellFormed) {c d : Char} {child m : RadixNode α}
    (hl : n.children.lookup c = some child) (hm : (d, m) ∈ n.children) {e : List Char}
    (he : m.edge = c :: e) : m = child := by
  obtain ⟨e', he'⟩ := h.edge_head hm
  have hdc : d = c := by
    rw [he] at he'
    exact (List.cons.inj he').1.symm
  subst hdc
  exact Option.some.inj ((lookup_of_mem h.keys_nodup hm).symm.trans hl)

end WellFormed

theorem getThrough_eq_some_iff {m : RadixNode α} (hm : m.edge ≠ []) {q : List Char} {w : α} :
    m.getThrough q = some w ↔ ∃ k, q = m.edge ++ k ∧ m.get? k = some w := by
  unfold getThrough
  constructor
  · intro h
    split at h
    · rename_i hpre
      obtain ⟨k, rfl⟩ := hpre.2
      rw [List.drop_left] at h
      exact ⟨k, rfl, h⟩
    · cases h
  · rintro ⟨k, rfl, hk⟩
    rw [if_pos ⟨hm, List.prefix_append _ _⟩, List.drop_left]
    exact hk

/-- On a well-formed node, a lookup finds exactly the values the node binds. -/
theorem WellFormed.get?_eq_some_iff {n : RadixNode α} (h : n.WellFormed) :
    ∀ {k : List Char} {w : α}, n.get? k = some w ↔ (k, w) ∈ n.bindings := by
  induction h with
  | @node e v cs hnodup hhead hwf ih =>
    have hwf' : (RadixNode.node e v cs).WellFormed := .node hnodup hhead hwf
    intro k w
    rw [mem_bindings, mem_bindingsOf]
    cases k with
    | nil =>
      have hnone : ¬∃ c m k', (c, m) ∈ cs ∧ (k', w) ∈ m.bindings ∧ [] = m.edge ++ k' := by
        rintro ⟨c, m, k', hm, -, hk⟩
        obtain ⟨e', he⟩ := hwf'.edge_head hm
        rw [he] at hk
        cases hk
      simp only [get?.eq_1, RadixNode.value, true_and, RadixNode.children, hnone, or_false]
    | cons c p =>
      simp only [get?_cons, RadixNode.children, reduceCtorEq, false_and, false_or]
      cases hl : cs.lookup c with
      | none =>
        simp only [Option.bind_none, reduceCtorEq, false_iff, not_exists, not_and]
        intro d m k' hm _ hk
        obtain ⟨e', he⟩ := hwf'.edge_head hm
        rw [he, List.cons_append] at hk
        obtain ⟨rfl, -⟩ := List.cons.inj hk
        exact not_mem_of_lookup hl m hm
      | some child =>
        have hchild : (c, child) ∈ cs := mem_of_lookup hl
        obtain ⟨e', he⟩ := hwf'.edge_head hchild
        simp only [Option.bind_some, getThrough_eq_some_iff (he ▸ List.cons_ne_nil c e')]
        constructor
        · rintro ⟨k', hk, hget⟩
          exact ⟨c, child, k', hchild, (ih c child hchild).mp hget, hk⟩
        · rintro ⟨d, m, k', hm, hbound, hk⟩
          obtain ⟨e'', he'⟩ := hwf'.edge_head hm
          rw [he', List.cons_append] at hk
          obtain ⟨rfl, -⟩ := List.cons.inj hk
          obtain rfl := hwf'.eq_of_lookup hl hm he'
          exact ⟨k', by rw [he', List.cons_append]; exact hk, (ih _ _ hm).mpr hbound⟩


theorem head_of_mem_bindingsOf {cs : List (Char × RadixNode α)}
    (hhead : ∀ c m, (c, m) ∈ cs → m.edge.head? = some c) {k : List Char} {w : α}
    (hk : (k, w) ∈ bindingsOf cs) : ∃ c, k.head? = some c ∧ c ∈ cs.map Prod.fst := by
  obtain ⟨c, m, k', hm, -, rfl⟩ := mem_bindingsOf.mp hk
  obtain ⟨e, he⟩ := List.head?_eq_some_iff.mp (hhead c m hm)
  exact ⟨c, by simp [he], List.mem_map_of_mem (f := Prod.fst) hm⟩

theorem bindingsOf_keys_nodup {cs : List (Char × RadixNode α)} (hnodup : (cs.map Prod.fst).Nodup)
    (hhead : ∀ c m, (c, m) ∈ cs → m.edge.head? = some c)
    (hkeys : ∀ c m, (c, m) ∈ cs → (m.bindings.map Prod.fst).Nodup) :
    ((bindingsOf cs).map Prod.fst).Nodup := by
  induction cs with
  | nil => exact List.nodup_nil
  | cons e rest ih =>
    obtain ⟨c, m⟩ := e
    rw [List.map_cons, List.nodup_cons] at hnodup
    have hhead' : ∀ d x, (d, x) ∈ rest → x.edge.head? = some d :=
      fun d x hx => hhead d x (List.mem_cons_of_mem _ hx)
    have hshift : (m.bindings.map fun b => (m.edge ++ b.1, b.2)).map Prod.fst =
        (m.bindings.map Prod.fst).map (m.edge ++ ·) := by
      simp only [List.map_map]
      rfl
    rw [bindingsOf, List.map_append, hshift, List.nodup_append]
    refine ⟨List.Nodup.map (fun _ _ h => List.append_cancel_left h) (hkeys c m List.mem_cons_self),
      ih hnodup.2 hhead' fun d x hx => hkeys d x (List.mem_cons_of_mem _ hx), ?_⟩
    intro k hk k' hk' hkk'
    obtain ⟨e, he⟩ := List.head?_eq_some_iff.mp (hhead c m List.mem_cons_self)
    obtain ⟨k₀, -, rfl⟩ := List.mem_map.mp hk
    obtain ⟨⟨k₁, w⟩, hb, rfl⟩ := List.mem_map.mp hk'
    obtain ⟨d, hd, hdrest⟩ := head_of_mem_bindingsOf hhead' hb
    have hk₁ : k₁ = m.edge ++ k₀ := hkk'.symm
    rw [hk₁, he] at hd
    obtain rfl := Option.some.inj hd
    exact hnodup.1 hdrest

theorem WellFormed.bindings_keys_nodup {n : RadixNode α} (h : n.WellFormed) :
    (n.bindings.map Prod.fst).Nodup := by
  induction h with
  | @node e v cs hnodup hhead hwf ih =>
    rw [bindings, List.map_append, List.nodup_append]
    refine ⟨?_, bindingsOf_keys_nodup hnodup hhead ih, ?_⟩
    · cases v <;> simp
    · intro k hk k' hk' hkk'
      obtain ⟨b, hb, rfl⟩ := List.mem_map.mp hk
      obtain ⟨w, -, rfl⟩ := List.mem_map.mp hb
      obtain ⟨⟨k₁, w'⟩, hb', rfl⟩ := List.mem_map.mp hk'
      obtain ⟨d, hd, -⟩ := head_of_mem_bindingsOf hhead hb'
      have hk₁ : k₁ = [] := hkk'.symm
      rw [hk₁] at hd
      cases hd


theorem commonPrefix_le_right (a b : List Char) : commonPrefix a b ≤ b.length := by
  induction a generalizing b with
  | nil => simp [commonPrefix]
  | cons x xs ih =>
    cases b with
    | nil => simp [commonPrefix]
    | cons y ys =>
      rw [commonPrefix.eq_1]
      split
      · simpa using ih ys
      · simp

theorem commonPrefix_eq_length {a b : List Char} (h : b <+: a) : commonPrefix a b = b.length := by
  obtain ⟨t, rfl⟩ := h
  induction b with
  | nil => cases t <;> simp [commonPrefix]
  | cons y ys ih => simp [commonPrefix.eq_1, ih]

theorem prefix_of_commonPrefix {a b : List Char} (h : commonPrefix a b = b.length) : b <+: a := by
  have htake := take_commonPrefix a b
  rw [h, List.take_length] at htake
  rw [← htake]
  exact List.take_prefix _ _

theorem commonPrefix_drop_ne (a b : List Char) {x y : Char} {as bs : List Char}
    (ha : a.drop (commonPrefix a b) = x :: as) (hb : b.drop (commonPrefix a b) = y :: bs) :
    x ≠ y := by
  induction a generalizing b with
  | nil => simp [commonPrefix] at ha
  | cons x' xs ih =>
    cases b with
    | nil => simp [commonPrefix] at hb
    | cons y' ys =>
      rw [commonPrefix.eq_1] at ha hb
      by_cases hxy : (x' == y') = true
      · rw [if_pos hxy, List.drop_succ_cons] at ha hb
        exact ih ys ha hb
      · rw [if_neg hxy, List.drop_zero, List.cons.injEq] at ha hb
        rw [← ha.1, ← hb.1]
        simpa using hxy

theorem commonPrefix_cons_pos (c : Char) (a b : List Char) : 0 < commonPrefix (c :: a) (c :: b) := by
  simp [commonPrefix.eq_1]

theorem get?_leaf (e q : List Char) (v : α) :
    (leaf e v).get? q = if q = [] then some v else none := by
  cases q with
  | nil => simp [get?.eq_1, leaf, value]
  | cons c p => simp [get?_cons, leaf, children]

theorem wellFormed_leaf (e : List Char) (v : α) : (leaf e v).WellFormed :=
  .node List.nodup_nil (fun _ _ h => nomatch h) (fun _ _ h => nomatch h)

theorem getThrough_leaf {e : List Char} (he : e ≠ []) (q : List Char) (v : α) :
    (leaf e v).getThrough q = if q = e then some v else none := by
  unfold getThrough
  rw [show (leaf e v).edge = e from rfl]
  simp only [ne_eq, he, not_false_eq_true, true_and]
  split
  · rename_i hpre
    obtain ⟨t, rfl⟩ := hpre
    rw [List.drop_left, get?_leaf]
    simp
  · rename_i hpre
    rw [if_neg]
    rintro rfl
    exact hpre (List.prefix_refl _)

theorem getThrough_of_get? {m m' : RadixNode α} (hedge : m'.edge = m.edge) (hne : m.edge ≠ [])
    {rest : List Char} {v : α} (hget : ∀ s, m'.get? s = if s = rest then some v else m.get? s)
    (q : List Char) :
    m'.getThrough q = if q = m.edge ++ rest then some v else m.getThrough q := by
  unfold getThrough
  rw [hedge]
  by_cases hpre : m.edge <+: q
  · obtain ⟨s, rfl⟩ := hpre
    simp only [ne_eq, hne, not_false_eq_true, List.prefix_append, and_self, ite_true,
      List.drop_left, hget, List.append_cancel_left_eq]
  · have hq : q ≠ m.edge ++ rest := by
      rintro rfl
      exact hpre (List.prefix_append _ _)
    simp [hpre, hq]

/-- What an insertion does to a well-formed node: the shape stays, the key holds the new value,
every other key keeps its value, and the value the key held comes back. -/
structure InsertSpec (n : RadixNode α) (key : List Char) (v : α) (r : RadixNode α × Option α) :
    Prop where
  wellFormed : r.1.WellFormed
  get?_eq : ∀ q, r.1.get? q = if q = key then some v else n.get? q
  old_eq : r.2 = n.get? key

theorem insertSpec_nil {n : RadixNode α} (h : n.WellFormed) (v : α) :
    InsertSpec n [] v (n.insert [] v) := by
  rw [insert.eq_1]
  refine ⟨?_, fun q => ?_, (get?.eq_1 n).symm⟩
  · cases h with
    | node hnodup hhead hwf => exact .node hnodup hhead hwf
  · cases q with
    | nil => simp [get?.eq_1, value]
    | cons c p => simp [get?_cons, children]

theorem insertSpec_fresh {n : RadixNode α} (h : n.WellFormed) {c : Char} {tail : List Char}
    (hl : n.children.lookup c = none) (v : α) :
    InsertSpec n (c :: tail) v (n.insert (c :: tail) v) := by
  rw [insert.eq_2, hl]
  have hperm := perm_addChild c (leaf (c :: tail) v) n.children
  have hmem : ∀ d m, (d, m) ∈ addChild c (leaf (c :: tail) v) n.children →
      (d, m) = (c, leaf (c :: tail) v) ∨ (d, m) ∈ n.children :=
    fun d m hm => List.mem_cons.mp (hperm.mem_iff.mp hm)
  refine ⟨.node ?_ (fun d m hm => ?_) (fun d m hm => ?_), fun q => ?_, ?_⟩
  · rw [(hperm.map Prod.fst).nodup_iff, List.map_cons, List.nodup_cons]
    refine ⟨fun hc => ?_, h.keys_nodup⟩
    obtain ⟨⟨d, m⟩, hm, rfl⟩ := List.mem_map.mp hc
    exact not_mem_of_lookup hl m hm
  · rcases hmem d m hm with he | hm
    · obtain ⟨rfl, rfl⟩ := Prod.mk.inj he
      rfl
    · obtain ⟨e, he⟩ := h.edge_head hm
      simp [he]
  · rcases hmem d m hm with he | hm
    · obtain ⟨rfl, rfl⟩ := Prod.mk.inj he
      exact wellFormed_leaf _ _
    · exact h.of_child hm
  · cases q with
    | nil => simp [get?.eq_1, value]
    | cons d p =>
      rw [get?_cons, get?_cons, children, lookup_addChild hl]
      by_cases hdc : d = c
      · subst hdc
        simp [hl, getThrough_leaf (List.cons_ne_nil d tail)]
      · simp [hdc]
  · simp [get?_cons, hl]

theorem insertSpec_setChild {n child m' : RadixNode α} (h : n.WellFormed) {c : Char}
    {tail : List Char} {v : α} {old : Option α} (hl : n.children.lookup c = some child)
    (hwf : m'.WellFormed) (hedge : ∃ e, m'.edge = c :: e)
    (hthrough : ∀ q, m'.getThrough q = if q = c :: tail then some v else child.getThrough q)
    (hold : old = child.getThrough (c :: tail)) :
    InsertSpec n (c :: tail) v (.node n.edge n.value (setChild c m' n.children), old) := by
  have hmem : ∀ d m, (d, m) ∈ setChild c m' n.children → (d, m) = (c, m') ∨ (d, m) ∈ n.children :=
    fun d m hm => mem_setChild hm
  refine ⟨.node ?_ (fun d m hm => ?_) (fun d m hm => ?_), fun q => ?_, ?_⟩
  · rw [keys_setChild]
    exact h.keys_nodup
  · rcases hmem d m hm with he | hm
    · obtain ⟨rfl, rfl⟩ := Prod.mk.inj he
      obtain ⟨e, he⟩ := hedge
      simp [he]
    · obtain ⟨e, he⟩ := h.edge_head hm
      simp [he]
  · rcases hmem d m hm with he | hm
    · obtain ⟨rfl, rfl⟩ := Prod.mk.inj he
      exact hwf
    · exact h.of_child hm
  · cases q with
    | nil => simp [get?.eq_1, value]
    | cons d p =>
      rw [get?_cons, get?_cons, children, lookup_setChild]
      by_cases hdc : d = c
      · subst hdc
        simp [hl, hthrough]
      · simp [hdc]
  · simp [get?_cons, hl, hold]


theorem get?_single_child (pre : List Char) {d : Char} {m : RadixNode α} {e : List Char}
    (he : m.edge = d :: e) (s : List Char) :
    (RadixNode.node pre none [(d, m)]).get? s = m.getThrough s := by
  cases s with
  | nil =>
    simp [get?.eq_1, value, getThrough, he]
  | cons c p =>
    rw [get?_cons, children]
    by_cases hcd : c = d
    · subst hcd
      simp [List.lookup_cons_self]
    · simp only [lookup_cons_ne hcd, List.lookup_nil, Option.bind_none]
      simp [getThrough, he, Ne.symm hcd]

theorem get?_eq_of_value_children {m m' : RadixNode α} (hv : m'.value = m.value)
    (hc : m'.children = m.children) (s : List Char) : m'.get? s = m.get? s := by
  cases s with
  | nil => rw [get?.eq_1, get?.eq_1, hv]
  | cons c p => rw [get?_cons, get?_cons, hc]

theorem getThrough_cut {child : RadixNode α} {pre low : List Char} {d : Char}
    (hedge : child.edge = pre ++ d :: low) (hpre : pre ≠ []) (q : List Char) :
    (RadixNode.node pre none [(d, .node (d :: low) child.value child.children)]).getThrough q =
      child.getThrough q := by
  have hlower : ∀ s, (RadixNode.node (d :: low) child.value child.children).get? s = child.get? s :=
    get?_eq_of_value_children rfl rfl
  unfold getThrough
  rw [show (RadixNode.node pre none [(d, .node (d :: low) child.value child.children)]).edge = pre
    from rfl, hedge]
  by_cases hq : pre <+: q
  · obtain ⟨s, rfl⟩ := hq
    have hdrop : (pre ++ s).drop (pre ++ d :: low).length = s.drop (d :: low).length := by
      rw [List.length_append, List.drop_append, List.drop_eq_nil_of_le (by omega),
        Nat.add_sub_cancel_left, List.nil_append]
    simp only [ne_eq, hpre, not_false_eq_true, List.prefix_append, and_self, ite_true,
      List.drop_left, get?_single_child pre (show (RadixNode.node (d :: low) child.value
        child.children).edge = d :: low from rfl), List.append_eq_nil_iff, reduceCtorEq,
      List.prefix_append_right_inj, hdrop]
    unfold getThrough
    simp only [show (RadixNode.node (d :: low) child.value child.children).edge = d :: low from rfl,
      ne_eq, reduceCtorEq, not_false_eq_true, true_and, hlower]
  · have hq' : ¬pre ++ d :: low <+: q := fun h => hq ((List.prefix_append _ _).trans h)
    simp [hq, hq']

theorem insert_descend {n child : RadixNode α} {c : Char} {tail : List Char} (v : α)
    (hl : n.children.lookup c = some child) (hpos : 0 < commonPrefix (c :: tail) child.edge)
    (hall : commonPrefix (c :: tail) child.edge = child.edge.length) :
    n.insert (c :: tail) v =
      (.node n.edge n.value
        (setChild c (child.insert ((c :: tail).drop child.edge.length) v).1 n.children),
        (child.insert ((c :: tail).drop child.edge.length) v).2) := by
  rw [insert.eq_2, hl]
  simp only [dif_pos hpos, if_pos hall]
  rw [hall]


theorem insert_split {n child : RadixNode α} {c : Char} {tail : List Char} (v : α)
    (hl : n.children.lookup c = some child) {k : Nat}
    (hk : commonPrefix (c :: tail) child.edge = k) (hpos : 0 < k) (hpart : k ≠ child.edge.length)
    {d : Char} {low : List Char} (hlow : child.edge.drop k = d :: low) :
    n.insert (c :: tail) v =
      (.node n.edge n.value (setChild c
        ((RadixNode.node ((c :: tail).take k) none [(d, .node (d :: low) child.value child.children)]).insert
          ((c :: tail).drop k) v).1 n.children), none) := by
  rw [insert.eq_2, hl]
  simp only [hk, dif_pos hpos, if_neg hpart, hlow]
  cases hrest : (c :: tail).drop k with
  | nil =>
    rw [insert.eq_1]
    rfl
  | cons d' rest =>
    have hne : d' ≠ d := commonPrefix_drop_ne (c :: tail) child.edge (hk ▸ hrest) (hk ▸ hlow)
    rw [insert.eq_2]
    simp only [children, lookup_cons_ne hne, List.lookup_nil, edge, value]


theorem getThrough_append {m : RadixNode α} (hne : m.edge ≠ []) (s : List Char) :
    m.getThrough (m.edge ++ s) = m.get? s := by
  simp [getThrough, hne]

theorem getThrough_eq_none {m : RadixNode α} {q : List Char} (h : ¬m.edge <+: q) :
    m.getThrough q = none := by
  simp [getThrough, h]

theorem WellFormed.with_edge {n : RadixNode α} (h : n.WellFormed) (e : List Char) :
    (RadixNode.node e n.value n.children).WellFormed := by
  cases h with
  | node hnodup hhead hwf => exact .node hnodup hhead hwf

/-- Insertion into a well-formed node keeps its shape, binds the key to the new value, keeps
every other binding, and gives back the value the key had: by induction on the shape, with one
case for each way the key meets the child under its first character. -/
theorem WellFormed.insertSpec {n : RadixNode α} (h : n.WellFormed) (v : α) :
    ∀ key, InsertSpec n key v (n.insert key v) := by
  induction h with
  | @node e x cs hnodup hhead hwf ih =>
    have hn : (RadixNode.node e x cs).WellFormed := .node hnodup hhead hwf
    intro key
    cases key with
    | nil => exact insertSpec_nil hn v
    | cons c tail =>
      cases hl : cs.lookup c with
      | none => exact insertSpec_fresh hn hl v
      | some child =>
        have hchild : (c, child) ∈ cs := mem_of_lookup hl
        have hchildWF : child.WellFormed := hwf c child hchild
        obtain ⟨ce, hce⟩ := hn.edge_head hchild
        have hne : child.edge ≠ [] := by
          rw [hce]
          exact List.cons_ne_nil c ce
        have hpos : 0 < commonPrefix (c :: tail) child.edge := by
          rw [hce]
          exact commonPrefix_cons_pos c tail ce
        by_cases hall : commonPrefix (c :: tail) child.edge = child.edge.length
        · have hkey : child.edge ++ (c :: tail).drop child.edge.length = c :: tail := by
            obtain ⟨t, ht⟩ := prefix_of_commonPrefix hall
            rw [← ht, List.drop_left]
          have hspec := ih c child hchild ((c :: tail).drop child.edge.length)
          rw [insert_descend v hl hpos hall]
          refine insertSpec_setChild hn hl hspec.wellFormed ⟨ce, by rw [insert_edge, hce]⟩
            (fun q => ?_) ?_
          · rw [getThrough_of_get? (insert_edge _ _ _) hne hspec.get?_eq q, hkey]
          · rw [hspec.old_eq, ← getThrough_append hne, hkey]
        · obtain ⟨k, hk⟩ : ∃ k, commonPrefix (c :: tail) child.edge = k := ⟨_, rfl⟩
          have hlt : k < child.edge.length :=
            hk ▸ Nat.lt_of_le_of_ne (commonPrefix_le_right _ _) hall
          rw [hk] at hpos hall
          have hlowLen : 0 < (child.edge.drop k).length := by
            rw [List.length_drop]
            omega
          obtain ⟨d, low, hlow⟩ := List.exists_cons_of_length_pos hlowLen
          have hpre : (c :: tail).take k = child.edge.take k := hk ▸ take_commonPrefix _ _
          have hedge : child.edge = (c :: tail).take k ++ d :: low := by
            rw [hpre, ← hlow, List.take_append_drop]
          obtain ⟨pre', hpre'⟩ : ∃ pre', (c :: tail).take k = c :: pre' := by
            cases k with
            | zero => omega
            | succ k' => exact ⟨tail.take k', rfl⟩
          set lower : RadixNode α := .node (d :: low) child.value child.children
          set cut : RadixNode α := .node ((c :: tail).take k) none [(d, lower)]
          have hcutNe : cut.edge ≠ [] := by
            show (c :: tail).take k ≠ []
            rw [hpre']
            exact List.cons_ne_nil c pre'
          have hcut : cut.WellFormed := by
            refine .node (by simp) (fun d' m hm => ?_) (fun d' m hm => ?_)
            · obtain ⟨rfl, rfl⟩ := Prod.mk.inj (List.mem_singleton.mp hm)
              rfl
            · obtain ⟨rfl, rfl⟩ := Prod.mk.inj (List.mem_singleton.mp hm)
              exact hchildWF.with_edge _
          have hcutSpec : InsertSpec cut ((c :: tail).drop k) v
              (cut.insert ((c :: tail).drop k) v) := by
            cases hrest : (c :: tail).drop k with
            | nil => exact insertSpec_nil hcut v
            | cons d' rest =>
              have hdd : d' ≠ d :=
                commonPrefix_drop_ne (c :: tail) child.edge (hk ▸ hrest) (hk ▸ hlow)
              exact insertSpec_fresh hcut (lookup_cons_ne hdd) v
          rw [insert_split v hl hk hpos hall hlow]
          refine insertSpec_setChild hn hl hcutSpec.wellFormed
            ⟨pre', by rw [insert_edge, ← hpre']; rfl⟩ (fun q => ?_) ?_
          · rw [getThrough_of_get? (insert_edge _ _ _) hcutNe hcutSpec.get?_eq q,
              getThrough_cut hedge (hpre' ▸ List.cons_ne_nil c pre') q]
            simp only [cut, edge, List.take_append_drop]
          · rw [getThrough_eq_none]
            intro hpfx
            exact hall (hk ▸ commonPrefix_eq_length hpfx)


mutual

theorem values_eq_map_bindings : ∀ n : RadixNode α, n.values = n.bindings.map Prod.snd
  | .node _ v cs => by
    rw [values, bindings, List.map_append, valuesOf_eq_map_bindingsOf cs]
    cases v <;> rfl

theorem valuesOf_eq_map_bindingsOf :
    ∀ cs : List (Char × RadixNode α), valuesOf cs = (bindingsOf cs).map Prod.snd
  | [] => rfl
  | (_, n) :: rest => by
    rw [valuesOf, bindingsOf, List.map_append, List.map_map, values_eq_map_bindings n,
      valuesOf_eq_map_bindingsOf rest]
    rfl

end

/-- The value `f` gives at the longest prefix of a key where it gives one: the prefixes are
tried from the longest down. -/
def longestHit (f : List Char → Option α) : List Char → Option α
  | [] => f []
  | c :: q => (longestHit (fun p => f (c :: p)) q).or (f [])

theorem longestHit_eq_none {f : List Char → Option α} {q : List Char}
    (h : ∀ p, p <+: q → f p = none) : longestHit f q = none := by
  induction q generalizing f with
  | nil => exact h [] List.nil_prefix
  | cons c q ih =>
    rw [longestHit, ih fun p hp => h (c :: p) (List.cons_prefix_cons.mpr ⟨rfl, hp⟩),
      h [] List.nil_prefix]
    rfl

theorem longestHit_shift {g h : List Char → Option α} {e : List Char}
    (hg : ∀ p, g p = if e <+: p then h (p.drop e.length) else none) (r : List Char) :
    longestHit g (e ++ r) = longestHit h r := by
  induction e generalizing g with
  | nil =>
    have : g = h := funext fun p => by simp [hg]
    rw [this, List.nil_append]
  | cons x e ih =>
    have hnil : g [] = none := by simp [hg]
    rw [List.cons_append, longestHit, hnil, Option.or_none]
    exact ih fun p => by simp [hg, List.cons_prefix_cons]

theorem getThrough_cons {m : RadixNode α} {c : Char} {e : List Char} (he : m.edge = c :: e)
    (p : List Char) : m.getThrough (c :: p) = if e <+: p then m.get? (p.drop e.length) else none := by
  simp [getThrough, he, List.cons_prefix_cons]

/-- The longest-prefix walk over a well-formed node gives the value bound at the longest bound
prefix of the query, falling back to the value it started with. -/
theorem WellFormed.longest_eq {n : RadixNode α} (h : n.WellFormed) :
    ∀ q best, n.longest q (n.value.or best) = (longestHit n.get? q).or best := by
  induction h with
  | @node e x cs hnodup hhead hwf ih =>
    have hn : (RadixNode.node e x cs).WellFormed := .node hnodup hhead hwf
    intro q best
    cases q with
    | nil => rw [longest.eq_1, longestHit, get?.eq_1]
    | cons c tail =>
      rw [longest.eq_2, longestHit]
      cases hl : cs.lookup c with
      | none =>
        have hnone : ∀ p, p <+: tail → (RadixNode.node e x cs).get? (c :: p) = none :=
          fun p _ => by simp [get?_cons, children, hl]
        simp only [children, hl]
        rw [longestHit_eq_none hnone, Option.none_or, get?.eq_1]
      | some child =>
        have hchild : (c, child) ∈ cs := mem_of_lookup hl
        obtain ⟨ce, hce⟩ := hn.edge_head hchild
        have hg : ∀ p, (RadixNode.node e x cs).get? (c :: p) =
            if ce <+: p then child.get? (p.drop ce.length) else none := fun p => by
          rw [get?_cons, children, hl, Option.bind_some, getThrough_cons hce]
        simp only [children, hl, hce, ne_eq, reduceCtorEq, not_false_eq_true, true_and,
          List.isPrefixOf_iff_prefix, List.cons_prefix_cons, get?.eq_1, value]
        by_cases hpre : ce <+: tail
        · obtain ⟨r, rfl⟩ := hpre
          rw [dif_pos (List.prefix_append ce r), longestHit_shift hg r, List.length_cons,
            List.drop_succ_cons, List.drop_left, Option.or_assoc]
          exact ih c child hchild r (x.or best)
        · have hnone : ∀ p, p <+: tail → (RadixNode.node e x cs).get? (c :: p) = none := by
            intro p hp
            rw [hg p, if_neg fun hce' => hpre (hce'.trans hp)]
          rw [dif_neg hpre, longestHit_eq_none hnone, Option.none_or]


theorem longestHit_eq_none_iff {f : List Char → Option α} {q : List Char} :
    longestHit f q = none ↔ ∀ p, p <+: q → f p = none := by
  refine ⟨fun h => ?_, longestHit_eq_none⟩
  induction q generalizing f with
  | nil =>
    intro p hp
    rw [List.prefix_nil.mp hp]
    exact h
  | cons c q ih =>
    rw [longestHit, Option.or_eq_none_iff] at h
    intro p hp
    cases p with
    | nil => exact h.2
    | cons c' p =>
      obtain ⟨rfl, hpq⟩ := List.cons_prefix_cons.mp hp
      exact ih h.1 p hpq

theorem exists_of_longestHit_eq_some {f : List Char → Option α} {q : List Char} {w : α}
    (h : longestHit f q = some w) :
    ∃ p, p <+: q ∧ f p = some w ∧ ∀ p', p' <+: q → (f p').isSome → p'.length ≤ p.length := by
  induction q generalizing f with
  | nil =>
    refine ⟨[], List.nil_prefix, h, fun p' hp' _ => ?_⟩
    obtain rfl := List.prefix_nil.mp hp'
    exact Nat.le_refl 0
  | cons c q ih =>
    rw [longestHit] at h
    cases hg : longestHit (fun p => f (c :: p)) q with
    | some w' =>
      rw [hg, Option.some_or] at h
      obtain rfl := Option.some.inj h
      obtain ⟨p, hp, hfp, hmax⟩ := ih hg
      refine ⟨c :: p, List.cons_prefix_cons.mpr ⟨rfl, hp⟩, hfp, fun p' hp' hsome => ?_⟩
      cases p' with
      | nil => exact Nat.zero_le _
      | cons c' p' =>
        obtain ⟨rfl, hpq⟩ := List.cons_prefix_cons.mp hp'
        simpa using hmax p' hpq hsome
    | none =>
      rw [hg, Option.none_or] at h
      refine ⟨[], List.nil_prefix, h, fun p' hp' hsome => ?_⟩
      cases p' with
      | nil => exact Nat.le_refl 0
      | cons c' p' =>
        obtain ⟨rfl, hpq⟩ := List.cons_prefix_cons.mp hp'
        rw [longestHit_eq_none_iff.mp hg p' hpq] at hsome
        cases hsome

theorem longestHit_eq_of_longest {f : List Char → Option α} {q k : List Char} (hk : k <+: q)
    (hbound : (f k).isSome) (hmax : ∀ p, p <+: q → (f p).isSome → p.length ≤ k.length) :
    longestHit f q = f k := by
  cases hhit : longestHit f q with
  | none =>
    rw [longestHit_eq_none_iff.mp hhit k hk] at hbound
    cases hbound
  | some w =>
    obtain ⟨p, hp, hfp, hpmax⟩ := exists_of_longestHit_eq_some hhit
    have hlen : p.length = k.length :=
      Nat.le_antisymm (hmax p hp (by rw [hfp]; rfl)) (hpmax k hk hbound)
    have hpk : p = k := (List.prefix_of_prefix_length_le hp hk (Nat.le_of_eq hlen)).eq_of_length hlen
    rw [← hpk, hfp]

end RadixNode

end Conformance
