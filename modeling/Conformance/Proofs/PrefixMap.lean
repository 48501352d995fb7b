import Mathlib.Data.List.AList
import Conformance.Proofs.RadixTree

/-!
A prefix tree is a finite map from text keys. `PrefixTree.Represents t M` says that `t` stands
for `M`: the radix shape, lookups that answer as `M`, and as many keys as `M` has. The empty tree
stands for the empty map, and an insertion keeps the correspondence, so lookups, the count, the
values and the longest-prefix search all follow from the map.
-/

set_option autoImplicit false
set_option relaxedAutoImplicit false

namespace Conformance
namespace PrefixTree

open RadixNode

variable {α : Type}

/-- The finite map a tree stands for: a well-formed root whose lookups are the map's, and a
count that is the number of the map's keys. -/
structure Represents (t : PrefixTree α) (M : AList fun _ : String => α) : Prop where
  wellFormed : t.root.WellFormed
  get?_eq : ∀ k : String, t.root.get? k.toList = M.lookup k
  size_eq : t.size = M.keys.length

theorem represents_empty : (empty : PrefixTree α).Represents ∅ where
  wellFormed := .node List.nodup_nil (fun _ _ h => nomatch h) (fun _ _ h => nomatch h)
  get?_eq k := by
    cases hk : k.toList with
    | nil =>
      rw [AList.lookup_empty, RadixNode.get?.eq_1]
      rfl
    | cons c p => simp [empty, get?_cons, children]
  size_eq := rfl

variable {t : PrefixTree α} {M : AList fun _ : String => α}

theorem Represents.get?_eq_lookup (h : t.Represents M) (p : List Char) :
    t.root.get? p = M.lookup (String.ofList p) := by
  rw [← h.get?_eq, String.toList_ofList]

/-- An insertion gives back what the map held at the key, and the tree then stands for the map
with the key bound to the new value. -/
theorem Represents.insert (h : t.Represents M) (k : String) (v : α) :
    (t.insert k v).2 = M.lookup k ∧ (t.insert k v).1.Represents (M.insert k v) := by
  have hspec := h.wellFormed.insertSpec v k.toList
  have hold : (t.insert k v).2 = M.lookup k := by
    rw [← h.get?_eq]
    exact hspec.old_eq
  refine ⟨hold, ⟨hspec.wellFormed, fun k' => ?_, ?_⟩⟩
  · show (t.root.insert k.toList v).1.get? k'.toList = (M.insert k v).lookup k'
    rw [hspec.get?_eq]
    by_cases hkk : k' = k
    · subst hkk
      simp [AList.lookup_insert]
    · have hlist : k'.toList ≠ k.toList := fun he => hkk (String.toList_inj.mp he)
      rw [if_neg hlist, AList.lookup_insert_ne hkk, h.get?_eq]
  · show (if (t.insert k v).2.isSome then t.size else t.size + 1) = (M.insert k v).keys.length
    rw [hold, AList.keys_insert, List.length_cons, h.size_eq]
    by_cases hmem : k ∈ M
    · rw [if_pos (AList.lookup_isSome.mpr hmem), List.length_erase_of_mem hmem]
      have : 0 < M.keys.length := List.length_pos_of_mem hmem
      omega
    · rw [AList.lookup_eq_none.mpr hmem, List.erase_of_not_mem hmem]
      simp

theorem Represents.values_perm (h : t.Represents M) : t.values.Perm (M.entries.map Sigma.snd) := by
  let L : List (Σ _ : String, α) := t.root.bindings.map fun b => ⟨String.ofList b.1, b.2⟩
  have hkeys : (L.map Sigma.fst).Nodup := by
    simp only [L, List.map_map]
    have hinj : Function.Injective (String.ofList) := fun a b hab => by
      simpa using congrArg String.toList hab
    have := (h.wellFormed.bindings_keys_nodup).map hinj
    rw [List.map_map] at this
    exact this
  have hperm : L.Perm M.entries := by
    rw [List.perm_ext_iff_of_nodup (List.Nodup.of_map Sigma.fst hkeys) M.nodupKeys.nodup]
    rintro ⟨s, w⟩
    rw [← AList.mem_lookup_iff, ← h.get?_eq, Option.mem_def, h.wellFormed.get?_eq_some_iff]
    simp only [L, List.mem_map, Sigma.mk.injEq, heq_eq_eq]
    constructor
    · rintro ⟨⟨p, w'⟩, hb, rfl, rfl⟩
      simpa using hb
    · intro hb
      exact ⟨(s.toList, w), hb, by simp, rfl⟩
  have hvalues : t.values = L.map Sigma.snd := by
    simp only [values, values_eq_map_bindings, L, List.map_map]
    rfl
  rw [hvalues]
  exact hperm.map _

theorem Represents.findLongestPrefix_eq (h : t.Represents M) (q : String) :
    t.findLongestPrefix q = longestHit (fun p => M.lookup (String.ofList p)) q.toList := by
  have hwalk := h.wellFormed.longest_eq q.toList none
  rw [Option.or_none, Option.or_none] at hwalk
  rw [findLongestPrefix, hwalk]
  congr 1
  funext p
  exact h.get?_eq_lookup p


theorem Represents.findLongestPrefix_eq_none (h : t.Represents M) {q : String}
    (hq : ∀ k ∈ M, ¬k.toList <+: q.toList) : t.findLongestPrefix q = none := by
  rw [h.findLongestPrefix_eq]
  refine longestHit_eq_none fun p hp => ?_
  cases hlookup : M.lookup (String.ofList p) with
  | none => rfl
  | some w =>
    have hmem : String.ofList p ∈ M := AList.lookup_isSome.mp (by rw [hlookup]; rfl)
    exact absurd (by rwa [String.toList_ofList]) (hq _ hmem)

/-- The search finds the value of the longest stored key that is a prefix of the query. -/
theorem Represents.findLongestPrefix_eq_lookup (h : t.Represents M) {q k : String} (hk : k ∈ M)
    (hkq : k.toList <+: q.toList)
    (hmax : ∀ k' ∈ M, k'.toList <+: q.toList → k'.length ≤ k.length) :
    t.findLongestPrefix q = M.lookup k := by
  rw [h.findLongestPrefix_eq]
  have hbound : (M.lookup (String.ofList k.toList)).isSome := by
    rw [String.ofList_toList]
    exact AList.lookup_isSome.mpr hk
  rw [longestHit_eq_of_longest hkq hbound fun p hp hsome => ?_, String.ofList_toList]
  have hmem : String.ofList p ∈ M := AList.lookup_isSome.mp hsome
  have hle := hmax _ hmem (by rwa [String.toList_ofList])
  rwa [← String.length_toList, ← String.length_toList, String.toList_ofList] at hle

/-- Inserts pairs in order; gives the tree and, for each insertion, what it gave back. -/
def insertAll (t : PrefixTree α) : List (String × α) → PrefixTree α × List (Option α)
  | [] => (t, [])
  | op :: rest =>
    let step := t.insert op.1 op.2
    let after := step.1.insertAll rest
    (after.1, step.2 :: after.2)

/-- The same insertions into a finite map; each gives back the value its key held before. -/
def mapInserts (M : AList fun _ : String => α) :
    List (String × α) → (AList fun _ : String => α) × List (Option α)
  | [] => (M, [])
  | op :: rest =>
    let after := mapInserts (M.insert op.1 op.2) rest
    (after.1, M.lookup op.1 :: after.2)

theorem Represents.insertAll (ops : List (String × α)) :
    ∀ {t : PrefixTree α} {M : AList fun _ : String => α}, t.Represents M →
      (t.insertAll ops).2 = (mapInserts M ops).2 ∧
        (t.insertAll ops).1.Represents (mapInserts M ops).1 := by
  induction ops with
  | nil => exact fun h => ⟨rfl, h⟩
  | cons op rest ih =>
    intro t M h
    obtain ⟨hold, hnext⟩ := h.insert op.1 op.2
    obtain ⟨holds, hrest⟩ := ih hnext
    exact ⟨by simp only [PrefixTree.insertAll, mapInserts, hold, holds], hrest⟩

/-- A radix tree is a finite map. Run any insertions into an empty tree, with any keys (the
empty key, keys that are prefixes of one another, keys that share their first characters), and
the same insertions into an empty finite map: each insertion gives back what the map held at
its key; afterwards every lookup answers as the map, the count is the number of the map's keys,
the longest-prefix search gives the value of the longest key of the map that is a prefix of the
query (nothing when there is none), and the values are the map's values, each once. Keys and
edges are lists of characters, so every cut falls between characters. -/
theorem insertAll_agrees_with_map (ops : List (String × α)) :
    (empty.insertAll ops).2 = (mapInserts ∅ ops).2 ∧
      (∀ k, (empty.insertAll ops).1.get? k = (mapInserts ∅ ops).1.lookup k) ∧
      (empty.insertAll ops).1.len = (mapInserts ∅ ops).1.keys.length ∧
      (∀ q, (∀ k ∈ (mapInserts ∅ ops).1, ¬k.toList <+: q.toList) →
        (empty.insertAll ops).1.findLongestPrefix q = none) ∧
      (∀ q k, k ∈ (mapInserts ∅ ops).1 → k.toList <+: q.toList →
        (∀ k' ∈ (mapInserts ∅ ops).1, k'.toList <+: q.toList → k'.length ≤ k.length) →
          (empty.insertAll ops).1.findLongestPrefix q = (mapInserts ∅ ops).1.lookup k) ∧
      (empty.insertAll ops).1.values.Perm ((mapInserts ∅ ops).1.entries.map Sigma.snd) := by
  obtain ⟨holds, h⟩ := represents_empty.insertAll ops
  exact ⟨holds, h.get?_eq, h.size_eq, fun _ hq => h.findLongestPrefix_eq_none hq,
    fun _ _ hk hkq hmax => h.findLongestPrefix_eq_lookup hk hkq hmax, h.values_perm⟩

end PrefixTree
end Conformance
