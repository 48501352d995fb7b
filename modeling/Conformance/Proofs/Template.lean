import Mathlib
import Conformance.Projection.Template

/-!
How a target template reads its text. Each `:`-separated field text is read left to right,
`\\` for a backslash and `\1` to `\9` for a group; `WellEscaped` is that grammar and `expand`
that reading, said directly on the characters. Reading fails, with an error naming the text,
exactly when there are more fields than the target type has or a field is not well escaped, and
a template that reads instantiates each field as `expand` reads it.
-/

set_option autoImplicit false
set_option relaxedAutoImplicit false

namespace Conformance

/-- A field text in which every backslash, read left to right, starts an escape: `\\`, or `\d`
for a digit `d` from `1` to `9`. -/
inductive WellEscaped : List Char → Prop
  | nil : WellEscaped []
  | plain {c : Char} {rest : List Char} : c ≠ '\\' → WellEscaped rest → WellEscaped (c :: rest)
  | backslash {rest : List Char} : WellEscaped rest → WellEscaped ('\\' :: '\\' :: rest)
  | group {d : Char} {rest : List Char} : '1' ≤ d → d ≤ '9' → WellEscaped rest →
      WellEscaped ('\\' :: d :: rest)

/-- The value of a field text for some groups, read left to right: `\\` gives a backslash, `\d`
the group `d` (counted from one, the empty text when there are fewer groups), and any other
character itself. -/
def expand (groups : List String) : List Char → String
  | [] => ""
  | '\\' :: d :: rest =>
    (if d = '\\' then "\\" else groups.getD (d.toNat - '1'.toNat) "") ++ expand groups rest
  | c :: rest => String.singleton c ++ expand groups rest

section Expand

variable (groups : List String)

@[simp] theorem expand_nil : expand groups [] = "" := by simp [expand]

@[simp] theorem expand_backslash (rest : List Char) :
    expand groups ('\\' :: '\\' :: rest) = "\\" ++ expand groups rest := by
  simp [expand]

theorem expand_group {d : Char} (hd : d ≠ '\\') (rest : List Char) :
    expand groups ('\\' :: d :: rest) = groups.getD (d.toNat - '1'.toNat) "" ++ expand groups rest := by
  simp [expand, hd]

theorem expand_plain {c : Char} (hc : c ≠ '\\') (rest : List Char) :
    expand groups (c :: rest) = String.singleton c ++ expand groups rest := by
  cases rest <;> simp [expand, hc]

end Expand

theorem ofList_reverse_cons (c : Char) (lit : List Char) :
    String.ofList (c :: lit).reverse = String.ofList lit.reverse ++ String.singleton c := by
  simp

theorem except_bind_eq_ok {α β ε : Type} {x : Except ε α} {f : α → Except ε β} {b : β} :
    x >>= f = .ok b ↔ ∃ a, x = .ok a ∧ f a = .ok b := by
  cases x with
  | error e => simp [bind, Except.bind]
  | ok a => simp [bind, Except.bind]

namespace TargetTemplate

variable (groups : List String)

@[simp] theorem fill_nil : fill groups [] = "" := rfl

@[simp] theorem fill_append (ps qs : List Piece) :
    fill groups (ps ++ qs) = fill groups ps ++ fill groups qs := by
  simp [fill, String.join_append]

@[simp] theorem fill_literal_cons (s : String) (ps : List Piece) :
    fill groups (.literal s :: ps) = s ++ fill groups ps := by
  simp [fill]

@[simp] theorem fill_group_cons (n : Nat) (ps : List Piece) :
    fill groups (.group n :: ps) = groups.getD (n - 1) "" ++ fill groups ps := by
  simp [fill]

theorem fill_pending (lit : List Char) :
    fill groups (if lit.isEmpty then [] else [.literal (String.ofList lit.reverse)]) =
      String.ofList lit.reverse := by
  cases lit <;> simp

theorem parsePieces_ok {cs lit : List Char} {ps : List Piece} (h : parsePieces cs lit = .ok ps) :
    WellEscaped cs ∧ ∀ groups, fill groups ps = String.ofList lit.reverse ++ expand groups cs := by
  fun_induction parsePieces cs lit generalizing ps with
  | case1 lit =>
    cases h
    exact ⟨.nil, fun groups => by rw [fill_pending, expand_nil, String.append_empty]⟩
  | case2 rest lit ih =>
    obtain ⟨hrest, hfill⟩ := ih h
    refine ⟨.backslash hrest, fun groups => ?_⟩
    rw [hfill, ofList_reverse_cons, expand_backslash, String.append_assoc]
    rfl
  | case3 d rest lit hd hdigit ih =>
    cases hmore : parsePieces rest [] with
    | error e => simp [hmore] at h
    | ok more =>
      simp only [hmore] at h
      injection h with hps
      obtain ⟨hrest, hfill⟩ := ih hmore
      have hrange : '1' ≤ d ∧ d ≤ '9' := by simpa using hdigit
      refine ⟨.group hrange.1 hrange.2 hrest, fun groups => ?_⟩
      have hindex : d.toNat - 48 - 1 = d.toNat - '1'.toNat := by
        rw [show '1'.toNat = 49 from rfl]
        omega
      rw [← hps, fill_append, fill_pending, fill_group_cons, hfill, expand_group groups hd, hindex]
      simp
  | case4 => cases h
  | case5 => cases h
  | case6 c rest lit hback hesc hdangling ih =>
    have hc : c ≠ '\\' := by
      intro hc
      cases rest with
      | nil => exact hdangling hc rfl
      | cons d r => exact hesc d r hc rfl
    obtain ⟨hrest, hfill⟩ := ih h
    refine ⟨.plain hc hrest, fun groups => ?_⟩
    rw [hfill, ofList_reverse_cons, expand_plain groups hc, String.append_assoc]

theorem parsePieces_plain {c : Char} (hc : c ≠ '\\') (rest lit : List Char) :
    parsePieces (c :: rest) lit = parsePieces rest (c :: lit) := by
  cases rest <;> simp [parsePieces, hc]

/-- A well-escaped field text reads, whatever run is pending. -/
theorem parsePieces_of_wellEscaped {cs : List Char} (h : WellEscaped cs) :
    ∀ lit, ∃ ps, parsePieces cs lit = .ok ps := by
  induction h with
  | nil => exact fun lit => ⟨_, rfl⟩
  | plain hc _ ih =>
    intro lit
    rw [parsePieces_plain hc]
    exact ih _
  | backslash _ ih =>
    intro lit
    simp only [parsePieces]
    exact ih _
  | @group d rest h1 h2 _ ih =>
    intro lit
    have hd : d ≠ '\\' := by
      rintro rfl
      exact absurd h2 (by decide)
    obtain ⟨more, hmore⟩ := ih []
    simp [parsePieces, h1, h2, hmore]

theorem mapM_parsePieces_ok {raw : List String} {fields : List (List Piece)}
    (h : raw.mapM (fun f => parsePieces f.toList []) = .ok fields) :
    (∀ f ∈ raw, WellEscaped f.toList) ∧
      ∀ groups, fields.map (fill groups) = raw.map fun f => expand groups f.toList := by
  induction raw generalizing fields with
  | nil =>
    cases h
    exact ⟨fun f hf => absurd hf List.not_mem_nil, fun groups => rfl⟩
  | cons f raw ih =>
    rw [List.mapM_cons] at h
    obtain ⟨pieces, hf, h⟩ := except_bind_eq_ok.mp h
    obtain ⟨rest, hraw, h⟩ := except_bind_eq_ok.mp h
    cases h
    obtain ⟨hwell, hfill⟩ := parsePieces_ok hf
    obtain ⟨hwells, hfills⟩ := ih hraw
    refine ⟨List.forall_mem_cons.mpr ⟨hwell, hwells⟩, fun groups => ?_⟩
    simp [hfill, hfills groups]

theorem mapM_parsePieces_of_wellEscaped {raw : List String}
    (h : ∀ f ∈ raw, WellEscaped f.toList) :
    ∃ fields, raw.mapM (fun f => parsePieces f.toList []) = .ok fields := by
  induction raw with
  | nil => exact ⟨[], rfl⟩
  | cons f raw ih =>
    obtain ⟨hwell, hwells⟩ := List.forall_mem_cons.mp h
    obtain ⟨pieces, hf⟩ := parsePieces_of_wellEscaped hwell []
    obtain ⟨fields, hraw⟩ := ih hwells
    exact ⟨pieces :: fields, by simp [List.mapM_cons, hf, hraw, bind, Except.bind, pure,
      Except.pure]⟩

variable (T : ItemType) (raw : List String)

theorem ofFields_too_many (h : T.len < raw.length) :
    ofFields T raw = .error (.invalidTemplate (":".intercalate raw)
      (toString raw.length ++ " fields given, but item type " ++ T.name ++ " has " ++
        toString T.len)) := by
  simp [ofFields, h]

/-- Building a template fails with an error naming its text exactly when there are too many
fields or one is not well escaped. -/
theorem ofFields_error_iff :
    (∃ msg, ofFields T raw = .error (.invalidTemplate (":".intercalate raw) msg)) ↔
      T.len < raw.length ∨ ∃ f ∈ raw, ¬ WellEscaped f.toList := by
  constructor
  · rintro ⟨msg, h⟩
    by_cases hlen : T.len < raw.length
    · exact .inl hlen
    · right
      by_contra hall
      have hwell : ∀ f ∈ raw, WellEscaped f.toList := fun f hf => by
        by_contra hbad
        exact hall ⟨f, hf, hbad⟩
      obtain ⟨fields, hok⟩ := mapM_parsePieces_of_wellEscaped hwell
      simp [ofFields, hlen, hok] at h
  · rintro (hlen | ⟨f, hf, hbad⟩)
    · exact ⟨_, ofFields_too_many T raw hlen⟩
    · by_cases hlen : T.len < raw.length
      · exact ⟨_, ofFields_too_many T raw hlen⟩
      · cases hm : raw.mapM (fun f => parsePieces f.toList []) with
        | error msg => exact ⟨msg, by simp [ofFields, hlen, hm]⟩
        | ok fields => exact absurd ((mapM_parsePieces_ok hm).1 f hf) hbad

theorem ofFields_error {e : Error} (h : ofFields T raw = .error e) :
    ∃ msg, e = .invalidTemplate (":".intercalate raw) msg := by
  simp only [ofFields] at h
  split at h
  · cases h
    exact ⟨_, rfl⟩
  · split at h
    · cases h
    · cases h
      exact ⟨_, rfl⟩

/-- A template that builds keeps its text and gives, for any groups, the fields read by
`expand`. -/
theorem ofFields_ok {tt : TargetTemplate} (h : ofFields T raw = .ok tt) :
    tt.text = ":".intercalate raw ∧
      ∀ groups, tt.instantiate groups = ⟨T, raw.map fun f => expand groups f.toList⟩ := by
  simp only [ofFields] at h
  split at h
  · cases h
  · split at h
    · rename_i fields hfields
      cases h
      exact ⟨rfl, fun groups => by
        simp only [instantiate, (mapM_parsePieces_ok hfields).2 groups]⟩
    · cases h

theorem intercalate_fields (t : String) :
    ":".intercalate ((t.toList.splitOn ':').map String.ofList) = t := by
  rw [← String.toList_inj, String.toList_intercalate, List.map_map]
  simp [Function.comp_def]

/-- Reading a template fails, with an error naming its text, exactly when it has more `:`-separated
fields than the target type or a field that is not well escaped, and then reports the count
when there are too many fields; a template that reads shows its text as written, and
instantiating it with any groups gives an item of the target type whose values are its fields
read left to right. -/
theorem parse_reads_escaped_fields (T : ItemType) (t : String) :
    ((∃ msg, parse T t = .error (.invalidTemplate t msg)) ↔
        T.len < (t.toList.splitOn ':').length ∨ ∃ f ∈ t.toList.splitOn ':', ¬ WellEscaped f) ∧
    (∀ e, parse T t = .error e → ∃ msg, e = .invalidTemplate t msg) ∧
    (T.len < (t.toList.splitOn ':').length →
      parse T t = .error (.invalidTemplate t (toString (t.toList.splitOn ':').length ++
        " fields given, but item type " ++ T.name ++ " has " ++ toString T.len))) ∧
    (∀ tt, parse T t = .ok tt → tt.text = t ∧
      ∀ groups, tt.instantiate groups = ⟨T, (t.toList.splitOn ':').map (expand groups)⟩) := by
  have hparse : parse T t = ofFields T ((t.toList.splitOn ':').map String.ofList) := rfl
  have htext := intercalate_fields t
  refine ⟨?_, fun e h => ?_, fun h => ?_, fun tt h => ?_⟩
  · have hiff := ofFields_error_iff T ((t.toList.splitOn ':').map String.ofList)
    rw [htext, ← hparse] at hiff
    simpa using hiff
  · have hnamed := ofFields_error T _ (hparse ▸ h)
    rwa [htext] at hnamed
  · have hcount := ofFields_too_many T ((t.toList.splitOn ':').map String.ofList) (by simpa using h)
    rw [htext, ← hparse] at hcount
    simpa using hcount
  · obtain ⟨htt, hinst⟩ := ofFields_ok T _ (hparse ▸ h)
    refine ⟨htt.trans htext, fun groups => ?_⟩
    simpa [Function.comp_def] using hinst groups

end TargetTemplate

end Conformance
