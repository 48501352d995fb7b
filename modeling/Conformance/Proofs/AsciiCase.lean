import Mathlib
import Conformance.Proofs.KnownPrefix

/-!
Literal tests that ignore case are the same tests, respecting case, of the lowered literal on
the lowered value. Lowering touches only the ASCII capitals and keeps the UTF-8 length of every
character, so character boundaries stay where they were; a starts-with test that takes as many
bytes of the value as the literal has fails exactly when the lowered literal is no prefix of the
lowered value, and an ends-with test is a starts-with test on the reversed texts.
-/

set_option autoImplicit false
set_option relaxedAutoImplicit false

namespace Conformance

namespace Text

theorem utf8Size_toLower (c : Char) : c.toLower.utf8Size = c.utf8Size := by
  unfold Char.toLower
  split
  · rename_i h
    obtain ⟨h1, h2⟩ := h
    rw [ge_iff_le, UInt32.le_iff_toNat_le] at h1
    rw [UInt32.le_iff_toNat_le] at h2
    simp at h1 h2
    rw [Char.utf8Size_eq_one_iff.mpr, Char.utf8Size_eq_one_iff.mpr]
    · rw [UInt32.le_iff_toNat_le]; simp; omega
    · rw [UInt32.le_iff_toNat_le]; simp [UInt32.toNat_add]; omega
  · rfl

theorem utf8Len_map_toLower (cs : List Char) :
    String.utf8Len (cs.map Char.toLower) = String.utf8Len cs := by
  induction cs with
  | nil => rfl
  | cons c cs ih => simp [String.utf8Len_cons, ih, utf8Size_toLower]

@[simp] theorem toList_asciiLower (s : String) :
    (asciiLower s).toList = s.toList.map Char.toLower := by
  simp [asciiLower]

theorem eqIgnoreAsciiCase_iff {a b : String} :
    eqIgnoreAsciiCase a b = true ↔ a.toList.map Char.toLower = b.toList.map Char.toLower := by
  simp [eqIgnoreAsciiCase, ← String.toList_inj]

theorem bytePrefix_go_take (cs : List Char) (k : Nat) (acc : List Char) :
    bytePrefix.go cs (String.utf8Len (cs.take k)) acc =
      some (String.ofList (acc.reverse ++ cs.take k)) := by
  induction cs generalizing k acc with
  | nil => simp [bytePrefix.go]
  | cons c rest ih =>
    cases k with
    | zero => simp [bytePrefix.go]
    | succ k =>
      have hsize : 0 < c.utf8Size := Char.utf8Size_pos c
      obtain ⟨m, hm⟩ : ∃ m, String.utf8Len (rest.take k) + c.utf8Size = m + 1 :=
        ⟨String.utf8Len (rest.take k) + c.utf8Size - 1, by omega⟩
      rw [List.take_succ_cons, String.utf8Len_cons, hm, bytePrefix.go,
        if_pos (by omega), show m + 1 - c.utf8Size = String.utf8Len (rest.take k) by omega, ih]
      simp

theorem bytePrefix_go_eq_some {cs : List Char} {n : Nat} {acc : List Char} {t : String}
    (h : bytePrefix.go cs n acc = some t) :
    ∃ k, String.utf8Len (cs.take k) = n ∧ t = String.ofList (acc.reverse ++ cs.take k) := by
  fun_induction bytePrefix.go cs n acc with
  | case1 cs acc =>
    cases h
    exact ⟨0, by simp, by simp⟩
  | case2 => cases h
  | case3 c rest n acc hfit ih =>
    obtain ⟨k, hk, rfl⟩ := ih h
    refine ⟨k + 1, ?_, by simp⟩
    rw [List.take_succ_cons, String.utf8Len_cons, hk]
    omega
  | case4 => cases h

theorem startsWith_ignoreCase (v p : String) :
    ((bytePrefix v p.utf8ByteSize).map (eqIgnoreAsciiCase · p)).getD false =
      (asciiLower p).toList.isPrefixOf (asciiLower v).toList := by
  rw [Bool.eq_iff_iff, List.isPrefixOf_iff_prefix, toList_asciiLower, toList_asciiLower]
  constructor
  · intro h
    cases hpre : bytePrefix v p.utf8ByteSize with
    | none => simp [hpre] at h
    | some t =>
      simp only [hpre, Option.map_some, Option.getD_some, eqIgnoreAsciiCase_iff] at h
      obtain ⟨k, -, rfl⟩ := bytePrefix_go_eq_some hpre
      simp only [List.reverse_nil, List.nil_append, String.toList_ofList] at h
      rw [← h, List.map_take]
      exact List.take_prefix _ _
  · intro h
    have hlow : (v.toList.take p.length).map Char.toLower = p.toList.map Char.toLower := by
      rw [List.map_take, List.prefix_iff_eq_take.mp h, List.length_map, String.length_toList]
    have hbytes : String.utf8Len (v.toList.take p.length) = p.utf8ByteSize := by
      rw [← utf8Len_map_toLower, hlow, utf8Len_map_toLower, ← String.utf8ByteSize_ofList,
        String.ofList_toList]
    rw [bytePrefix, ← hbytes, bytePrefix_go_take]
    simpa [eqIgnoreAsciiCase_iff] using hlow

theorem endsWith_ignoreCase (v s : String) :
    ((byteSuffix v s.utf8ByteSize).map (eqIgnoreAsciiCase · s)).getD false =
      (asciiLower s).toList.reverse.isPrefixOf (asciiLower v).toList.reverse := by
  have hsize : s.utf8ByteSize = (String.ofList s.toList.reverse).utf8ByteSize := by
    rw [String.utf8ByteSize_ofList, String.utf8Len_reverse, ← String.utf8ByteSize_ofList,
      String.ofList_toList]
  have hflip : (fun t : String => eqIgnoreAsciiCase (String.ofList t.toList.reverse) s) =
      (eqIgnoreAsciiCase · (String.ofList s.toList.reverse)) := by
    funext t
    rw [Bool.eq_iff_iff, eqIgnoreAsciiCase_iff, eqIgnoreAsciiCase_iff]
    simp only [String.toList_ofList, List.map_reverse]
    exact List.reverse_eq_iff
  rw [byteSuffix, Option.map_map, hsize]
  simp only [Function.comp_def]
  rw [hflip, startsWith_ignoreCase]
  simp [List.map_reverse]

end Text

namespace Matcher

open Conformance.Text

/-- For every literal, value, group count and external groups, each literal test that ignores
case succeeds exactly when the same test, respecting case, of the lowered literal succeeds on
the lowered value. -/
theorem ignoreCase_eq_lowered (s v : String) (n : Nat) (g : List String) :
    ((Matcher.equals s true n).test v g).success =
        ((Matcher.equals (asciiLower s) false n).test (asciiLower v) g).success ∧
      ((Matcher.startsWith s true n).test v g).success =
        ((Matcher.startsWith (asciiLower s) false n).test (asciiLower v) g).success ∧
      ((Matcher.endsWith s true n).test v g).success =
        ((Matcher.endsWith (asciiLower s) false n).test (asciiLower v) g).success ∧
      ((Matcher.mkContains s true n).test v g).success =
        ((Matcher.mkContains (asciiLower s) false n).test (asciiLower v) g).success := by
  have hlit : ∀ m : Matcher, m.IsLiteral → ∀ value, (m.test value g).success = m.accepts value :=
    fun m hm value => hm.success_test value g
  refine ⟨?_, ?_, ?_, ?_⟩
  · rw [hlit (.equals s true n) trivial, hlit (.equals (asciiLower s) false n) trivial]
    simp [accepts, eqIgnoreAsciiCase]
  · rw [hlit (.startsWith s true n) trivial, hlit (.startsWith (asciiLower s) false n) trivial]
    exact startsWith_ignoreCase v s
  · rw [hlit (.endsWith s true n) trivial, hlit (.endsWith (asciiLower s) false n) trivial]
    exact endsWith_ignoreCase v s
  · rw [hlit (mkContains s true n) trivial, hlit (mkContains (asciiLower s) false n) trivial]
    simp [mkContains, accepts]

end Matcher

end Conformance
