import Mathlib
import Conformance.Dependency.Count

/-!
The text of a count constraint reads back as the constraint. The text is the counter's name,
the symbol of its comparison and the number, with nothing between them: trimming keeps it whole,
the name holds no operator character, and the longest operator starting right after the name is
never longer than the symbol written, since the number starts with a digit. The search for the
first operator is a fold over the seven spellings, and `CountConstraint.Earliest` says what the
fold knows after some of them.
-/

set_option autoImplicit false
set_option relaxedAutoImplicit false

namespace Conformance

open Conformance.Text

/-- A character past the space and before the next-line control: every character a constraint
shows is one. -/
def Visible (c : Char) : Prop := 0x20 < c.toNat ∧ c.toNat < 0x85

theorem isWhiteSpace_of_visible {c : Char} (h : Visible c) : isWhiteSpace c = false := by
  obtain ⟨hlo, hhi⟩ := h
  simp only [isWhiteSpace, RangeTable.contains, RangeTable.containsCode]
  have h₁ : c.toNat < 0x2000 := by omega
  have h₂ : ¬ c.toNat < 0x20 := by omega
  simp [RangeTable.search, whiteSpaceTable, h₁, h₂, hhi, hlo]

theorem dropWhiteFront_of_head {cs : List Char} (h : ∀ c ∈ cs.head?, isWhiteSpace c = false) :
    dropWhiteFront cs = cs := by
  cases cs with
  | nil => rfl
  | cons c rest => exact List.dropWhile_cons_of_neg (by simp [h c rfl])

theorem trimWhite_of_ends {s : String} (hhead : ∀ c ∈ s.toList.head?, isWhiteSpace c = false)
    (hlast : ∀ c ∈ s.toList.getLast?, isWhiteSpace c = false) : trimWhite s = s := by
  have hrev : dropWhiteFront s.toList.reverse = s.toList.reverse :=
    dropWhiteFront_of_head (by rwa [List.head?_reverse])
  simp only [trimWhite, trimChars, dropWhiteFront_of_head hhead, hrev, List.reverse_reverse,
    String.ofList_toList]

theorem trimWhite_of_visible {s : String} (h : ∀ c ∈ s.toList, Visible c) : trimWhite s = s := by
  have hvisible : ∀ c ∈ s.toList, isWhiteSpace c = false := fun c hc =>
    isWhiteSpace_of_visible (h c hc)
  exact trimWhite_of_ends (fun c hc => hvisible c (List.mem_of_mem_head? hc))
    (fun c hc => hvisible c (List.mem_of_getLast? hc))

theorem toNat_digitChar {d : Nat} (h : d < 10) : (Nat.digitChar d).toNat = 48 + d := by
  interval_cases d <;> rfl

theorem isDigit_of_mem_toDigits (n : Nat) : ∀ c ∈ Nat.toDigits 10 n, c.isDigit := by
  induction n using Nat.strong_induction_on with
  | _ n ih =>
    rw [Nat.toDigits_eq_if (by decide)]
    split
    · simp [Nat.isDigit_digitChar, *]
    · intro c hc
      rcases List.mem_append.mp hc with hc | hc
      · exact ih (n / 10) (by omega) c hc
      · rw [List.mem_singleton.mp hc, Nat.isDigit_digitChar]
        simpa using Nat.mod_lt n (by decide)

theorem foldl_toDigits (n : Nat) :
    (Nat.toDigits 10 n).foldl (fun acc c => acc * 10 + (c.toNat - 48)) 0 = n := by
  induction n using Nat.strong_induction_on with
  | _ n ih =>
    rw [Nat.toDigits_eq_if (by decide)]
    split
    · simp [toNat_digitChar ‹n < 10›]
    · rw [List.foldl_append, ih (n / 10) (by omega)]
      simp [toNat_digitChar (Nat.mod_lt n (by decide))]
      omega

theorem toList_toString (n : Nat) : (toString n).toList = Nat.toDigits 10 n := by
  simp [Nat.toString_eq_repr, Nat.repr_eq_ofList_toDigits]

theorem parseCount_toString {n : Nat} (h : n ≤ maxCount) : parseCount (toString n) = some n := by
  obtain ⟨d, ds, hds⟩ : ∃ d ds, Nat.toDigits 10 n = d :: ds :=
    List.exists_cons_of_ne_nil Nat.toDigits_ne_nil
  have hdigits := isDigit_of_mem_toDigits n
  have hplus : d ≠ '+' := by
    rintro rfl
    simpa [hds] using hdigits '+'
  simp only [parseCount, toList_toString, hds]
  split
  · rename_i rest heq
    cases heq
    exact absurd rfl hplus
  · rw [← hds]
    simpa [foldl_toDigits, h] using hdigits

theorem parseCount_le {s : String} {v : Nat} (h : parseCount s = some v) : v ≤ maxCount := by
  simp only [parseCount] at h
  split_ifs at h with _ hle
  cases h
  exact hle

section FirstOccurrence

variable {pat : List Char}

theorem findSub_go_of_prefix {cs : List Char} (h : pat <+: cs) (i : Nat) :
    findSub.go pat cs i = some i := by
  cases cs with
  | nil => simp [findSub.go, List.prefix_nil.mp h]
  | cons c rest => simp [findSub.go, List.isPrefixOf_iff_prefix.mpr h]

theorem findSub_go_append {p : Char} {ps pre : List Char} (hp : p ∉ pre) (rest : List Char)
    (i : Nat) : findSub.go (p :: ps) (pre ++ rest) i = findSub.go (p :: ps) rest (i + pre.length) := by
  induction pre generalizing i with
  | nil => rfl
  | cons c pre ih =>
    have hc : p ≠ c := fun h => hp (h ▸ List.mem_cons_self)
    have hpre : p ∉ pre := fun h => hp (List.mem_cons_of_mem c h)
    simp [findSub.go, hc, ih hpre, Nat.add_assoc, Nat.add_comm 1]

theorem findSub_go_eq_some {cs : List Char} {i q : Nat} (h : findSub.go pat cs i = some q) :
    i ≤ q ∧ pat <+: cs.drop (q - i) := by
  induction cs generalizing i with
  | nil =>
    simp only [findSub.go] at h
    split at h
    · cases h
      simp_all
    · cases h
  | cons c rest ih =>
    simp only [findSub.go] at h
    split at h
    · rename_i hp
      cases h
      simpa using List.isPrefixOf_iff_prefix.mp hp
    · obtain ⟨hle, hpre⟩ := ih h
      refine ⟨by omega, ?_⟩
      rwa [show q - i = q - (i + 1) + 1 by omega, List.drop_succ_cons]

end FirstOccurrence

namespace CountConstraint

/-- One step of the search for the first operator: a spelling found before the best so far, or
where it is and longer, takes its place. -/
def operatorStep (cs : List Char) (best : Option (Nat × Nat × Comparison)) :
    String × Comparison → Option (Nat × Nat × Comparison)
  | (sym, cmp) =>
    match findSub cs sym.toList with
    | none => best
    | some pos =>
      match best with
      | some (bestPos, blen, _) =>
        if pos < bestPos || (pos == bestPos && sym.length > blen) then some (pos, sym.length, cmp)
        else best
      | none => some (pos, sym.length, cmp)

theorem firstOperator_eq_foldl (cs : List Char) :
    firstOperator cs = Comparison.spellings.foldl (operatorStep cs) none := rfl

/-- What the search knows after trying some spellings: none of them occurs, or the best is a
spelling tried, where it first occurs, and no spelling tried occurs earlier, or as early and
longer. -/
def Earliest (cs : List Char) (tried : List (String × Comparison)) :
    Option (Nat × Nat × Comparison) → Prop
  | none => ∀ s ∈ tried, findSub cs s.1.toList = none
  | some (pos, len, cmp) => ∃ sym, (sym, cmp) ∈ tried ∧ sym.length = len ∧
      findSub cs sym.toList = some pos ∧
      ∀ s ∈ tried, ∀ q, findSub cs s.1.toList = some q → pos < q ∨ (pos = q ∧ s.1.length ≤ len)

theorem Earliest.step {cs : List Char} {tried : List (String × Comparison)}
    {best : Option (Nat × Nat × Comparison)} (h : Earliest cs tried best) (s : String × Comparison) :
    Earliest cs (tried ++ [s]) (operatorStep cs best s) := by
  obtain ⟨sym, cmp⟩ := s
  cases hfind : findSub cs sym.toList with
  | none =>
    simp only [operatorStep, hfind]
    cases best with
    | none => exact List.forall_mem_append.mpr ⟨h, List.forall_mem_singleton.mpr hfind⟩
    | some b =>
      obtain ⟨p, l, c⟩ := b
      obtain ⟨w, hw, hl, hwf, hmin⟩ := h
      exact ⟨w, List.mem_append_left _ hw, hl, hwf,
        List.forall_mem_append.mpr ⟨hmin, by simp [hfind]⟩⟩
  | some pos =>
    cases best with
    | none =>
      simp only [operatorStep, hfind]
      refine ⟨sym, by simp, rfl, hfind,
        List.forall_mem_append.mpr ⟨fun s hs q hq => ?_, by simp [hfind]⟩⟩
      rw [h s hs] at hq
      cases hq
    | some b =>
      obtain ⟨p, l, c⟩ := b
      obtain ⟨w, hw, hl, hwf, hmin⟩ := h
      simp only [operatorStep, hfind]
      split
      · rename_i hbetter
        simp only [Bool.or_eq_true, decide_eq_true_eq, Bool.and_eq_true, beq_iff_eq] at hbetter
        refine ⟨sym, by simp, rfl, hfind,
          List.forall_mem_append.mpr ⟨fun s hs q hq => ?_, by simp [hfind]⟩⟩
        rcases hmin s hs q hq with hlt | ⟨rfl, hle⟩ <;> omega
      · rename_i hworse
        simp only [Bool.or_eq_true, decide_eq_true_eq, Bool.and_eq_true, beq_iff_eq,
          not_or, not_and, not_lt] at hworse
        refine ⟨w, List.mem_append_left _ hw, hl, hwf,
          List.forall_mem_append.mpr ⟨hmin, ?_⟩⟩
        simp only [List.forall_mem_singleton, hfind, Option.some.injEq]
        rintro q rfl
        by_cases hq : p = pos
        · exact .inr ⟨hq, hworse.2 hq.symm⟩
        · exact .inl (by omega)

theorem Earliest.foldl {cs : List Char} (more : List (String × Comparison)) :
    ∀ (tried : List (String × Comparison)) (best : Option (Nat × Nat × Comparison)),
      Earliest cs tried best → Earliest cs (tried ++ more) (more.foldl (operatorStep cs) best) := by
  induction more with
  | nil => intro tried best h; simpa using h
  | cons s more ih =>
    intro tried best h
    simpa using ih (tried ++ [s]) _ (h.step s)

/-- The first operator of a text is the earliest spelling that occurs, the longest at a tie. -/
theorem earliest_firstOperator (cs : List Char) :
    Earliest cs Comparison.spellings (firstOperator cs) := by
  rw [firstOperator_eq_foldl]
  exact Earliest.foldl Comparison.spellings [] none (fun s hs => by cases hs)

/-- The characters operators are spelled with. -/
def operatorChars : List Char := ['=', '!', '<', '>']

theorem spellings_head : ∀ s ∈ Comparison.spellings,
    ∃ p ps, s.1.toList = p :: ps ∧ p ∈ operatorChars := by
  simp [Comparison.spellings, operatorChars]

theorem spellings_chars : ∀ s ∈ Comparison.spellings, ∀ c ∈ s.1.toList, c ∈ operatorChars := by
  simp [Comparison.spellings, operatorChars]

theorem spellings_functional : ∀ s ∈ Comparison.spellings, ∀ t ∈ Comparison.spellings,
    s.1 = t.1 → s.2 = t.2 := by
  simp [Comparison.spellings]

theorem symbol_mem_spellings (op : Comparison) : (op.symbol, op) ∈ Comparison.spellings := by
  cases op <;> simp [Comparison.spellings, Comparison.symbol]

theorem prefix_of_prefix_append {l m rest : List Char} (h : l <+: m ++ rest)
    (hrest : ∀ c ∈ rest.head?, c ∉ l) : l <+: m := by
  by_cases hlen : l.length ≤ m.length
  · exact List.prefix_of_prefix_length_le h (List.prefix_append m rest) hlen
  · exfalso
    cases rest with
    | nil => exact hlen (by simpa using h.length_le)
    | cons c rest =>
      have hc : l[m.length] = c := by
        rw [h.getElem (by omega)]
        simp
      exact hrest c rfl (hc ▸ List.getElem_mem _)

theorem firstOperator_spelled {pre rest : List Char} {sym : String} {cmp : Comparison}
    (hsym : (sym, cmp) ∈ Comparison.spellings) (hpre : ∀ c ∈ pre, c ∉ operatorChars)
    (hrest : ∀ c ∈ rest.head?, c ∉ operatorChars) :
    firstOperator (pre ++ sym.toList ++ rest) = some (pre.length, sym.length, cmp) := by
  have hshift : ∀ s ∈ Comparison.spellings, findSub (pre ++ sym.toList ++ rest) s.1.toList =
      findSub.go s.1.toList (sym.toList ++ rest) pre.length := by
    intro s hs
    obtain ⟨p, ps, hps, hp⟩ := spellings_head s hs
    rw [findSub, hps, List.append_assoc, findSub_go_append (fun h => hpre p h hp), Nat.zero_add]
  have hfound : findSub (pre ++ sym.toList ++ rest) sym.toList = some pre.length := by
    rw [hshift _ hsym]
    exact findSub_go_of_prefix (List.prefix_append _ _) _
  have hE := earliest_firstOperator (pre ++ sym.toList ++ rest)
  cases hop : firstOperator (pre ++ sym.toList ++ rest) with
  | none =>
    rw [hop] at hE
    rw [hE _ hsym] at hfound
    cases hfound
  | some r =>
    obtain ⟨pos, len, c⟩ := r
    rw [hop] at hE
    obtain ⟨sym₀, hmem₀, hlen₀, hf₀, hmin⟩ := hE
    rw [hshift _ hmem₀] at hf₀
    obtain ⟨hge, hpre₀⟩ := findSub_go_eq_some hf₀
    obtain ⟨rfl, hle⟩ : pos = pre.length ∧ sym.length ≤ len := by
      rcases hmin _ hsym _ hfound with h | ⟨h, hle⟩
      · omega
      · exact ⟨h, hle⟩
    have hprefix : sym₀.toList <+: sym.toList := by
      rw [Nat.sub_self, List.drop_zero] at hpre₀
      exact prefix_of_prefix_append hpre₀ fun d hd hd₀ =>
        hrest d hd (spellings_chars _ hmem₀ d hd₀)
    have hsame : sym₀ = sym := by
      apply String.toList_inj.mp
      apply hprefix.eq_of_length
      have := hprefix.length_le
      simp only [String.length_toList] at this ⊢
      omega
    subst hsame
    have hc : c = cmp := spellings_functional _ hmem₀ _ hsym rfl
    rw [hc, ← hlen₀]

theorem operatorChars_visible : ∀ c ∈ operatorChars, Visible c := by
  simp [operatorChars, Visible]

theorem name_no_operator (f : CountField) : ∀ c ∈ f.name.toList, c ∉ operatorChars := by
  cases f <;> simp [CountField.name, operatorChars]

theorem name_visible (f : CountField) : ∀ c ∈ f.name.toList, Visible c := by
  cases f <;> simp [CountField.name, Visible]

theorem digit_visible {c : Char} (h : c.isDigit) : Visible c := by
  simp only [Char.isDigit, Bool.and_eq_true, decide_eq_true_eq] at h
  obtain ⟨h1, h2⟩ := h
  rw [ge_iff_le, UInt32.le_iff_toNat_le] at h1
  rw [UInt32.le_iff_toNat_le] at h2
  simp at h1 h2
  exact ⟨by omega, by omega⟩

theorem digit_not_operator {c : Char} (h : c.isDigit) : c ∉ operatorChars := by
  intro hc
  simp only [operatorChars, List.mem_cons, List.not_mem_nil, or_false] at hc
  rcases hc with rfl | rfl | rfl | rfl <;> simp at h

/-- A counter's name, any spelling of a comparison and a number that fits in 64 bits read as
that constraint. -/
theorem parse_spelled (f : CountField) {sym : String} {cmp : Comparison}
    (hsym : (sym, cmp) ∈ Comparison.spellings) {n : Nat} (hn : n ≤ maxCount) :
    parse (f.name ++ sym ++ toString n) = .ok ⟨f, cmp, n⟩ := by
  have hdigit : ∀ c ∈ (toString n).toList, c.isDigit := by
    rw [toList_toString]
    exact isDigit_of_mem_toDigits n
  have htrim : trimWhite (f.name ++ sym ++ toString n) = f.name ++ sym ++ toString n := by
    apply trimWhite_of_visible
    simp only [String.toList_append, List.mem_append]
    rintro c ((hc | hc) | hc)
    · exact name_visible f c hc
    · exact operatorChars_visible c (spellings_chars _ hsym c hc)
    · exact digit_visible (hdigit c hc)
  have hop := firstOperator_spelled hsym (name_no_operator f)
    (fun c hc => digit_not_operator (hdigit c (List.mem_of_mem_head? hc)))
  have htake : (f.name.toList ++ sym.toList ++ (toString n).toList).take f.name.toList.length =
      f.name.toList := by
    rw [List.append_assoc, List.take_left]
  have hdrop : (f.name.toList ++ sym.toList ++ (toString n).toList).drop
      (f.name.toList.length + sym.length) = (toString n).toList := by
    rw [← String.length_toList, ← List.length_append, List.drop_left]
  have hname : asciiLower (trimWhite f.name) = f.name := by
    rw [trimWhite_of_visible (name_visible f)]
    cases f <;> rfl
  have hvalue : trimWhite (toString n) = toString n :=
    trimWhite_of_visible fun c hc => digit_visible (hdigit c hc)
  simp only [parse, htrim, String.toList_append, hop, htake, hdrop, String.ofList_toList, hname,
    hvalue, parseCount_toString hn]
  cases f <;> rfl

theorem parse_value_le {t : String} {c : CountConstraint} (h : parse t = .ok c) :
    c.value ≤ maxCount := by
  simp only [parse] at h
  split at h
  · cases h
  · split at h
    · rename_i v hv
      cases h
      exact parseCount_le hv
    · cases h

/-- Reading what a constraint shows gives the constraint, for every counter, comparison and
64-bit number; `==` reads as `=` does; and a constraint read from any text shows itself as a
text that reads the same. -/
theorem parse_display_roundtrip :
    (∀ (f : CountField) (op : Comparison) (n : Nat), n ≤ maxCount →
      parse (⟨f, op, n⟩ : CountConstraint).display = .ok ⟨f, op, n⟩) ∧
    (∀ (f : CountField) (n : Nat), n ≤ maxCount →
      parse (f.name ++ "==" ++ toString n) = parse (⟨f, .eq, n⟩ : CountConstraint).display) ∧
    (∀ (t : String) (c : CountConstraint), parse t = .ok c → parse c.display = parse t) := by
  have hshown : ∀ (f : CountField) (op : Comparison) (n : Nat), n ≤ maxCount →
      parse (⟨f, op, n⟩ : CountConstraint).display = .ok ⟨f, op, n⟩ :=
    fun f op n hn => parse_spelled f (symbol_mem_spellings op) hn
  refine ⟨hshown, fun f n hn => ?_, fun t c h => ?_⟩
  · rw [hshown f .eq n hn]
    exact parse_spelled f (by simp [Comparison.spellings]) hn
  · rw [h]
    exact hshown c.field c.comparison c.value (parse_value_le h)

/-- The largest 64-bit number survives the round trip. -/
theorem parse_display_max :
    (18446744073709551615 : Nat) ≤ maxCount ∧
      parse (⟨.badCt, .ge, 18446744073709551615⟩ : CountConstraint).display =
        .ok ⟨.badCt, .ge, 18446744073709551615⟩ :=
  ⟨le_rfl, parse_display_roundtrip.1 .badCt .ge _ le_rfl⟩

end CountConstraint

end Conformance
