import Conformance.PrefixTree

/-!
What a radix tree keeps at its keys, through every insertion. `RadixNode.Stores Q base n` says
that every value below `n` is one `Q` allows at the key it is stored under; insertion keeps it,
whether it descends into a child, hangs a new leaf or splits an edge, and the longest-prefix walk
reports only values stored at nodes reached by whole edges.
-/

set_option autoImplicit false
set_option relaxedAutoImplicit false

namespace Conformance

namespace RadixNode

variable {α : Type}

/-- Every value of the subtree is allowed by `Q` at its key; `base` is the path above the
node, its own edge not counted. -/
inductive Stores (Q : List Char → α → Prop) : List Char → RadixNode α → Prop
  | node {base edge : List Char} {value : Option α} {children : List (Char × RadixNode α)} :
      (∀ v, value = some v → Q (base ++ edge) v) →
      (∀ c child, (c, child) ∈ children → Stores Q (base ++ edge) child) →
      Stores Q base (.node edge value children)

variable {Q : List Char → α → Prop}

theorem Stores.value_allowed {base : List Char} {n : RadixNode α} (h : Stores Q base n) :
    ∀ v, n.value = some v → Q (base ++ n.edge) v := by
  cases h with
  | node hv _ => exact hv

theorem Stores.child {base : List Char} {n : RadixNode α} (h : Stores Q base n) {c : Char}
    {child : RadixNode α} (hc : (c, child) ∈ n.children) : Stores Q (base ++ n.edge) child := by
  cases h with
  | node _ hcs => exact hcs c child hc

theorem stores_leaf {base edge : List Char} {v : α} (hv : Q (base ++ edge) v) :
    Stores Q base (leaf edge v) :=
  .node (fun _ h => Option.some.inj h ▸ hv) (fun _ _ h => nomatch h)

theorem mem_of_lookup {c : Char} {cs : List (Char × RadixNode α)} {child : RadixNode α}
    (h : cs.lookup c = some child) : (c, child) ∈ cs := by
  obtain ⟨l₁, l₂, rfl, -⟩ := List.lookup_eq_some_iff.mp h
  exact List.mem_append_right l₁ List.mem_cons_self

theorem mem_addChild {c d : Char} {n m : RadixNode α} {cs : List (Char × RadixNode α)}
    (h : (d, m) ∈ addChild c n cs) : (d, m) = (c, n) ∨ (d, m) ∈ cs := by
  induction cs with
  | nil => simpa [addChild] using h
  | cons e rest ih =>
    obtain ⟨e, k⟩ := e
    simp only [addChild] at h
    split at h
    · simpa [or_comm, or_left_comm] using h
    · simp only [List.mem_cons] at h ⊢
      rcases h with h | h
      · exact .inr (.inl h)
      · rcases ih h with h | h
        · exact .inl h
        · exact .inr (.inr h)

theorem mem_setChild {c d : Char} {n m : RadixNode α} {cs : List (Char × RadixNode α)}
    (h : (d, m) ∈ setChild c n cs) : (d, m) = (c, n) ∨ (d, m) ∈ cs := by
  simp only [setChild, List.mem_map] at h
  obtain ⟨⟨e, k⟩, hk, he⟩ := h
  split at he
  · exact .inl he.symm
  · exact .inr (he ▸ hk)

theorem Stores.drop_edge {base : List Char} {n : RadixNode α} (h : Stores Q base n) (k : Nat) :
    Stores Q (base ++ n.edge.take k) (.node (n.edge.drop k) n.value n.children) := by
  cases h with
  | node hv hcs =>
    refine .node (fun u hu => ?_) (fun c m hm => ?_)
    · rw [List.append_assoc, List.take_append_drop]
      exact hv u hu
    · rw [List.append_assoc, List.take_append_drop]
      exact hcs c m hm

theorem Stores.of_mem_singleton {base : List Char} {n m : RadixNode α} {c d : Char}
    (h : Stores Q base n) (hm : (d, m) ∈ [(c, n)]) : Stores Q base m := by
  simp only [List.mem_singleton, Prod.mk.injEq] at hm
  obtain ⟨-, rfl⟩ := hm
  exact h

theorem Stores.with_child {base : List Char} {n m : RadixNode α} {c : Char}
    {cs : List (Char × RadixNode α)} (h : Stores Q base n) (hm : Stores Q (base ++ n.edge) m)
    (hmem : ∀ d k, (d, k) ∈ cs → (d, k) = (c, m) ∨ (d, k) ∈ n.children) :
    Stores Q base (.node n.edge n.value cs) := by
  refine .node h.value_allowed fun d k hk => ?_
  rcases hmem d k hk with hk | hk
  · cases hk
    exact hm
  · exact h.child hk

theorem take_commonPrefix (a b : List Char) :
    a.take (commonPrefix a b) = b.take (commonPrefix a b) := by
  induction a generalizing b with
  | nil => simp [commonPrefix]
  | cons x xs ih =>
    cases b with
    | nil => simp [commonPrefix]
    | cons y ys =>
      simp only [commonPrefix]
      split
      · rename_i hxy
        simp only [List.take_succ_cons, beq_iff_eq.mp hxy, ih ys]
      · simp

theorem insert_edge (n : RadixNode α) (key : List Char) (v : α) :
    (n.insert key v).1.edge = n.edge := by
  rw [RadixNode.insert.eq_def]
  split
  · rfl
  · split
    · rfl
    · dsimp only
      split
      · split <;> rfl
      · rfl

/-- Insertion keeps every value allowed at its key, when the new value is allowed at its own:
the descent, the new leaf, the split edge and the replaced child each hang their nodes at the
paths they had. -/
theorem Stores.insert {v : α} {n : RadixNode α} {key : List Char} :
    ∀ {base : List Char}, Stores Q base n → Q (base ++ n.edge ++ key) v →
      Stores Q base (n.insert key v).1 := by
  induction n, key using RadixNode.insert.induct v with
  | case1 n =>
    intro base h hv
    rw [RadixNode.insert.eq_def]
    refine .node ?_ fun c child hc => h.child hc
    intro u hu
    cases hu
    simpa using hv
  | case2 n d tail hnone =>
    intro base h hv
    rw [RadixNode.insert.eq_def]
    simp only [hnone]
    exact h.with_child (stores_leaf (by simpa using hv)) fun _ _ hm => mem_addChild hm
  | case3 n d tail child hfound common hpos hall child' old hins =>
    rename_i ih
    intro base h hv
    have hpos : 0 < commonPrefix (d :: tail) child.edge := hpos
    have hall : commonPrefix (d :: tail) child.edge = child.edge.length := hall
    have hins : child.insert ((d :: tail).drop (commonPrefix (d :: tail) child.edge)) v =
        (child', old) := hins
    have hkey : d :: tail = child.edge ++ (d :: tail).drop (commonPrefix (d :: tail) child.edge) := by
      conv => lhs; rw [← List.take_append_drop (commonPrefix (d :: tail) child.edge) (d :: tail)]
      rw [take_commonPrefix, hall, List.take_length]
    have hchild := h.child (mem_of_lookup hfound)
    have hnew : Stores Q (base ++ n.edge) child' := by
      have := ih hchild (by rw [hkey] at hv; simpa [List.append_assoc] using hv)
      rwa [hins] at this
    rw [RadixNode.insert.eq_def]
    simp only [hfound, dif_pos hpos, if_pos hall, hins]
    exact h.with_child hnew fun _ _ hm => mem_setChild hm
  | case4 n d tail child hfound common hpos =>
    rename_i hpart
    intro base h hv
    have hpos : 0 < commonPrefix (d :: tail) child.edge := hpos
    have hpart : ¬commonPrefix (d :: tail) child.edge = child.edge.length := hpart
    have hlower := (h.child (mem_of_lookup hfound)).drop_edge (commonPrefix (d :: tail) child.edge)
    rw [← take_commonPrefix] at hlower
    rw [RadixNode.insert.eq_def]
    simp only [hfound, dif_pos hpos, if_neg hpart]
    refine h.with_child ?_ fun _ _ hm => mem_setChild hm
    have hkey := List.take_append_drop (commonPrefix (d :: tail) child.edge) (d :: tail)
    split
    · rename_i hrest
      rw [hrest, List.append_nil] at hkey
      refine .node (fun u hu => ?_) fun e m hm => ?_
      · cases hu
        rw [hkey]
        exact hv
      · split at hm
        · exact hlower.of_mem_singleton hm
        · cases hm
    · refine .node (fun u hu => by cases hu) fun e m hm => ?_
      rcases mem_addChild hm with hm | hm
      · cases hm
        apply stores_leaf
        rw [List.append_assoc, List.take_append_drop]
        exact hv
      · split at hm
        · exact hlower.of_mem_singleton hm
        · cases hm
  | case5 n d tail child hfound common =>
    rename_i hzero
    intro base h hv
    have hzero : ¬0 < commonPrefix (d :: tail) child.edge := hzero
    rw [RadixNode.insert.eq_def]
    simp only [hfound, dif_neg hzero]
    exact h.with_child (stores_leaf (by simpa using hv)) fun _ _ hm => mem_setChild hm

/-- The longest-prefix walk reports only values stored at nodes it reached by whole edges:
each is allowed at a key that is a prefix of the query, provided the value it started from
is. The query is the path walked so far, `base` and the node's edge, then the rest `key`. -/
theorem Stores.longest {n : RadixNode α} {key : List Char} {best : Option α} :
    ∀ {base : List Char}, Stores Q base n →
      (∀ u, best = some u → ∃ k, k <+: base ++ n.edge ++ key ∧ Q k u) →
      ∀ u, n.longest key best = some u → ∃ k, k <+: base ++ n.edge ++ key ∧ Q k u := by
  induction n, key, best using RadixNode.longest.induct with
  | case1 n best =>
    intro base _ hbest u hu
    rw [RadixNode.longest.eq_def] at hu
    exact hbest u hu
  | case2 n best d tail hnone =>
    intro base _ hbest u hu
    rw [RadixNode.longest.eq_def] at hu
    simp only [hnone] at hu
    exact hbest u hu
  | case3 n best d tail child hfound hedge ih =>
    intro base h hbest u hu
    rw [RadixNode.longest.eq_def] at hu
    simp only [hfound, dif_pos hedge] at hu
    have hpre : child.edge <+: d :: tail := List.isPrefixOf_iff_prefix.mp hedge.2
    have hkey : child.edge ++ (d :: tail).drop child.edge.length = d :: tail := by
      obtain ⟨t, ht⟩ := hpre
      rw [← ht, List.drop_left]
    have hpath : base ++ n.edge ++ child.edge ++ (d :: tail).drop child.edge.length =
        base ++ n.edge ++ d :: tail := by
      rw [List.append_assoc (base ++ n.edge), hkey]
    rw [← hpath]
    refine ih (h.child (mem_of_lookup hfound)) (fun w hw => ?_) u hu
    cases hval : child.value with
    | some w' =>
      rw [hval, Option.some_or] at hw
      obtain rfl := Option.some.inj hw
      exact ⟨_, List.prefix_append _ _, (h.child (mem_of_lookup hfound)).value_allowed w' hval⟩
    | none =>
      rw [hval, Option.none_or] at hw
      rw [hpath]
      exact hbest w hw
  | case4 n best d tail child hfound hedge =>
    intro base _ hbest u hu
    rw [RadixNode.longest.eq_def] at hu
    simp only [hfound, dif_neg hedge] at hu
    exact hbest u hu

end RadixNode

namespace PrefixTree

variable {α : Type} {Q : List Char → α → Prop}

/-- A tree whose root has the empty edge and whose values are all allowed by `Q` at their
keys. -/
structure Holds (Q : List Char → α → Prop) (t : PrefixTree α) : Prop where
  root_edge : t.root.edge = []
  stores : t.root.Stores Q []

theorem holds_empty : (empty : PrefixTree α).Holds Q :=
  ⟨rfl, .node (fun _ h => nomatch h) (fun _ _ h => nomatch h)⟩

theorem Holds.insert {t : PrefixTree α} (h : t.Holds Q) {key : String} {v : α}
    (hv : Q key.toList v) : (t.insert key v).1.Holds Q := by
  refine ⟨?_, ?_⟩
  · simp only [PrefixTree.insert]
    rw [RadixNode.insert_edge, h.root_edge]
  · exact h.stores.insert (by simpa [h.root_edge] using hv)

theorem Holds.foldl_insert (keys : List String) (f : String → α)
    (hf : ∀ key ∈ keys, Q key.toList (f key)) :
    ∀ t : PrefixTree α, t.Holds Q →
      (keys.foldl (fun t key => (t.insert key (f key)).1) t).Holds Q := by
  induction keys with
  | nil => intro t h; exact h
  | cons key rest ih =>
    intro t h
    exact ih (fun k hk => hf k (List.mem_cons_of_mem key hk)) _
      (h.insert (hf key List.mem_cons_self))

theorem Holds.findLongestPrefix {t : PrefixTree α} (h : t.Holds Q) {query : String} {v : α}
    (hfind : t.findLongestPrefix query = some v) : ∃ k, k <+: query.toList ∧ Q k v := by
  have hwalk : t.root.longest query.toList t.root.value = some v := hfind
  have hroot := h.stores.longest (fun u hu =>
    ⟨[], List.nil_prefix, by simpa [h.root_edge] using h.stores.value_allowed u hu⟩) v hwalk
  simpa [h.root_edge] using hroot

end PrefixTree

end Conformance
