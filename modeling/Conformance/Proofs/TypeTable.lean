import Conformance.Config.Load
import Conformance.Proofs.CompileEffect

/-!
The type table of a registry. Types are registered directly, by a builder, or by loading a
projection set, and nothing else changes them (`Build.KeepsTypes`). `Registry.Tabulates` says
what the table is without the registry's own code: the names up to ASCII case in the order first
registered, each with the type registered last under it. It holds after any history, and from it
follow distinct names, replacement in place, appending, and lookup of the trimmed query, under
which a stored name with white space at an end is not found.
-/

set_option autoImplicit false
set_option relaxedAutoImplicit false

namespace Conformance

open Conformance.Text Conformance.Config

theorem eqIgnoreAsciiCase_eq_true_iff {a b : String} :
    eqIgnoreAsciiCase a b = true ↔ asciiLower a = asciiLower b := by
  simp [eqIgnoreAsciiCase]

theorem eqIgnoreAsciiCase_eq_false_iff {a b : String} :
    eqIgnoreAsciiCase a b = false ↔ asciiLower a ≠ asciiLower b := by
  simp [eqIgnoreAsciiCase]

theorem eraseDups_append_singleton {α : Type} [BEq α] [LawfulBEq α] (l : List α) (a : α) :
    (l ++ [a]).eraseDups = l.eraseDups ++ if a ∈ l then [] else [a] := by
  rw [List.eraseDups_append]
  by_cases h : a ∈ l <;> simp [List.removeAll, List.eraseDups_cons, h]

theorem nodup_eraseDups {α : Type} [BEq α] [LawfulBEq α] (l : List α) : l.eraseDups.Nodup := by
  induction l using List.reverseRecOn with
  | nil => simp
  | append_singleton l a ih =>
    rw [eraseDups_append_singleton]
    split
    · simpa using ih
    · rename_i ha
      exact ih.append (List.nodup_singleton a) fun b hb hb' => by
        rw [List.mem_singleton.mp hb'] at hb
        exact ha (List.mem_eraseDups.mp hb)

open Build

theorem keepsTypes_resolveTypeName (name : String) : KeepsTypes (resolveTypeName name) := by
  unfold resolveTypeName
  refine KeepsTypes.get_bind fun r => ?_
  split
  · exact .pure _
  · exact .throw _

theorem keepsTypes_compileProjections (o : PatternOptions) (target : ItemType)
    (pcs : List ProjectionConfig) : KeepsTypes (compileProjections o target pcs) := by
  induction pcs with
  | nil =>
    unfold compileProjections
    exact .pure _
  | cons pc rest ih =>
    unfold compileProjections
    refine (ItemPattern.segmentEffect_compile o pc.pattern).keepsTypes.bind fun _ => ?_
    split
    · exact .throw _
    · exact ih.bind fun _ => .pure _

theorem forIn_modify {γ : Type} (l : List γ) (g : γ → Registry → Registry) (r : Registry) :
    (forIn l PUnit.unit fun a _ => do modify (g a); pure (ForInStep.yield PUnit.unit) :
      Build PUnit) r = .ok PUnit.unit (l.foldl (fun r a => g a r) r) := by
  induction l generalizing r with
  | nil => rfl
  | cons a rest ih =>
    simp only [List.forIn_cons, List.foldl_cons]
    exact ih (g a r)

/-- The item types of a projection-set configuration, as loading registers them. -/
def Config.ProjectionSetConfig.types (c : ProjectionSetConfig) : List ItemType :=
  c.itemTypes.map fun tc => ItemType.ofSpec tc.name tc.fields

/-- Loading a projection set registers the configuration's types in order and changes the types
no further, whether it then succeeds or fails. -/
theorem loadProjectionSet_types (c : ProjectionSetConfig) (r : Registry) :
    ((loadProjectionSet c).after r).types =
      (c.types.foldl (fun r t => (r.registerType t).2) r).types := by
  unfold loadProjectionSet
  rw [after_bind_ok (forIn_modify _ _ r), Config.ProjectionSetConfig.types, List.foldl_map]
  exact ((keepsTypes_resolveTypeName _).bind fun _ => (keepsTypes_resolveTypeName _).bind fun _ =>
    (keepsTypes_compileProjections _ _ _).bind fun _ => .pure _) _

namespace Registry

/-- A type is the last one a history registers under its name, up to ASCII case. -/
def LastUnderName (history : List ItemType) (t : ItemType) : Prop :=
  ∃ before after, history = before ++ t :: after ∧
    ∀ u ∈ after, asciiLower u.name ≠ asciiLower t.name

theorem lastUnderName_append_self (history : List ItemType) (t : ItemType) :
    LastUnderName (history ++ [t]) t :=
  ⟨history, [], rfl, by simp⟩

theorem LastUnderName.append {history : List ItemType} {v : ItemType} (h : LastUnderName history v)
    {t : ItemType} (hne : asciiLower t.name ≠ asciiLower v.name) :
    LastUnderName (history ++ [t]) v := by
  obtain ⟨before, after, rfl, hafter⟩ := h
  refine ⟨before, after ++ [t], by simp, fun w hw => ?_⟩
  rcases List.mem_append.mp hw with hw | hw
  · exact hafter w hw
  · rw [List.mem_singleton.mp hw]
    exact hne

/-- The table a history of registrations leaves, said without the registry's code: the names, up
to ASCII case, in the order they were first registered, each holding the type registered last
under its name. -/
structure Tabulates (types history : List ItemType) : Prop where
  names : types.map (fun t => asciiLower t.name) = (history.map fun t => asciiLower t.name).eraseDups
  latest : ∀ t ∈ types, LastUnderName history t

theorem tabulates_nil : Tabulates [] [] := ⟨rfl, by simp⟩

theorem Tabulates.nodup {types history : List ItemType} (h : Tabulates types history) :
    (types.map fun t => asciiLower t.name).Nodup := by
  rw [h.names]
  exact nodup_eraseDups _

theorem Tabulates.replace {types history : List ItemType} (h : Tabulates types history)
    {t old : ItemType} (hold : old ∈ types) (hname : asciiLower old.name = asciiLower t.name) :
    Tabulates (types.map fun u => if eqIgnoreAsciiCase u.name t.name then t else u)
      (history ++ [t]) := by
  have hseen : asciiLower t.name ∈ history.map fun u => asciiLower u.name := by
    rw [← List.mem_eraseDups, ← h.names, ← hname]
    exact List.mem_map_of_mem hold
  refine ⟨?_, fun v hv => ?_⟩
  · rw [List.map_append, List.map_singleton, eraseDups_append_singleton, if_pos hseen,
      List.append_nil, ← h.names, List.map_map]
    apply List.map_congr_left
    intro u _
    by_cases hu : eqIgnoreAsciiCase u.name t.name = true
    · simp [hu, eqIgnoreAsciiCase_eq_true_iff.mp hu]
    · simp [hu]
  · obtain ⟨u, hu, rfl⟩ := List.mem_map.mp hv
    by_cases hut : eqIgnoreAsciiCase u.name t.name = true
    · simp only [hut, if_true]
      exact lastUnderName_append_self history t
    · simp only [hut, Bool.false_eq_true, if_false]
      exact (h.latest u hu).append fun heq => hut (eqIgnoreAsciiCase_eq_true_iff.mpr heq.symm)

theorem Tabulates.append {types history : List ItemType} (h : Tabulates types history)
    {t : ItemType} (hnew : ∀ u ∈ types, asciiLower u.name ≠ asciiLower t.name) :
    Tabulates (types ++ [t]) (history ++ [t]) := by
  have hunseen : asciiLower t.name ∉ history.map fun u => asciiLower u.name := by
    rw [← List.mem_eraseDups, ← h.names]
    intro hmem
    obtain ⟨u, hu, heq⟩ := List.mem_map.mp hmem
    exact hnew u hu heq
  refine ⟨?_, fun v hv => ?_⟩
  · rw [List.map_append, List.map_append, List.map_singleton, eraseDups_append_singleton,
      if_neg hunseen, h.names]
  · rcases List.mem_append.mp hv with hv | hv
    · exact (h.latest v hv).append fun heq => hnew v hv heq.symm
    · rw [List.mem_singleton.mp hv]
      exact lastUnderName_append_self history t

/-- Registering a type keeps the table: an equal name keeps its place and takes the new type, a
new name goes last. -/
theorem Tabulates.register {r : Registry} {history : List ItemType} (h : Tabulates r.types history)
    (t : ItemType) : Tabulates (r.registerType t).2.types (history ++ [t]) := by
  unfold registerType
  cases hfind : r.types.find? (fun u => eqIgnoreAsciiCase u.name t.name) with
  | some old =>
    have hname := List.find?_some hfind
    exact h.replace (List.mem_of_find?_eq_some hfind) (eqIgnoreAsciiCase_eq_true_iff.mp hname)
  | none =>
    exact h.append fun u hu heq =>
      List.find?_eq_none.mp hfind u hu (eqIgnoreAsciiCase_eq_true_iff.mpr heq)

theorem Tabulates.foldl_register (ts : List ItemType) :
    ∀ (r : Registry) (history : List ItemType), Tabulates r.types history →
      Tabulates (ts.foldl (fun r t => (r.registerType t).2) r).types (history ++ ts) := by
  induction ts with
  | nil => intro r history h; simpa using h
  | cons t rest ih =>
    intro r history h
    have := ih _ _ (h.register t)
    simpa using this

theorem tabulates_ofTypes (ts : List ItemType) : Tabulates (ofTypes ts).types ts := by
  simpa [ofTypes] using Tabulates.foldl_register ts {} [] tabulates_nil

theorem find?_name_eq_some_iff {types : List ItemType}
    (hd : (types.map fun t => asciiLower t.name).Nodup) {name : String} {t : ItemType} :
    types.find? (fun u => eqIgnoreAsciiCase u.name name) = some t ↔
      t ∈ types ∧ eqIgnoreAsciiCase t.name name = true := by
  constructor
  · intro h
    have hname := List.find?_some h
    exact ⟨List.mem_of_find?_eq_some h, hname⟩
  · rintro ⟨ht, hname⟩
    have hsome : (types.find? fun u => eqIgnoreAsciiCase u.name name).isSome = true :=
      List.find?_isSome.mpr ⟨t, ht, hname⟩
    obtain ⟨u, hu⟩ := Option.isSome_iff_exists.mp hsome
    have hfound := List.find?_some hu
    have hsame : asciiLower u.name = asciiLower t.name :=
      (eqIgnoreAsciiCase_eq_true_iff.mp hfound).trans (eqIgnoreAsciiCase_eq_true_iff.mp hname).symm
    rw [hu, List.inj_on_of_nodup_map hd (List.mem_of_find?_eq_some hu) ht hsame]

theorem map_replace_eq_set {types : List ItemType}
    (hd : (types.map fun t => asciiLower t.name).Nodup) {t u : ItemType} {i : Nat}
    (hu : types[i]? = some u) (hname : eqIgnoreAsciiCase u.name t.name = true) :
    types.map (fun v => if eqIgnoreAsciiCase v.name t.name then t else v) = types.set i t := by
  obtain ⟨hi, hui⟩ := List.getElem?_eq_some_iff.mp hu
  apply List.ext_getElem (by simp)
  intro j hj _
  rw [List.getElem_map, List.getElem_set]
  by_cases hij : i = j
  · subst hij
    simp [hui, hname]
  · have hj' : j < types.length := by simpa using hj
    have hother : eqIgnoreAsciiCase types[j].name t.name = false := by
      rw [eqIgnoreAsciiCase_eq_false_iff]
      intro heq
      have hsame : types[j] = types[i] :=
        List.inj_on_of_nodup_map hd (List.getElem_mem hj') (List.getElem_mem hi)
          (by rw [heq, hui, eqIgnoreAsciiCase_eq_true_iff.mp hname])
      exact hij ((List.Nodup.getElem_inj_iff (hd.of_map _)).mp hsame).symm
    simp [hother, hij]

theorem registerType_of_present {r : Registry} (hd : (r.types.map fun t => asciiLower t.name).Nodup)
    {t u : ItemType} {i : Nat} (hu : r.types[i]? = some u)
    (hname : eqIgnoreAsciiCase u.name t.name = true) :
    r.registerType t = (some u, { r with types := r.types.set i t }) := by
  have hfind : r.types.find? (fun v => eqIgnoreAsciiCase v.name t.name) = some u :=
    (find?_name_eq_some_iff hd).mpr ⟨List.mem_of_getElem? hu, hname⟩
  simp [registerType, hfind, map_replace_eq_set hd hu hname]

theorem registerType_of_absent {r : Registry} {t : ItemType}
    (h : ∀ u ∈ r.types, eqIgnoreAsciiCase u.name t.name = false) :
    r.registerType t = (none, { r with types := r.types ++ [t] }) := by
  have hfind : r.types.find? (fun u => eqIgnoreAsciiCase u.name t.name) = none :=
    List.find?_eq_none.mpr fun u hu => by simp [h u hu]
  simp [registerType, hfind]

/-- What the type table of a registry keeps, given the types registered into it in order. -/
structure TypeTable (r : Registry) (history : List ItemType) : Prop where
  /-- No two registered names are equal up to ASCII case. -/
  distinct : r.types.Pairwise fun a b => eqIgnoreAsciiCase a.name b.name = false
  /-- The names, up to ASCII case, in the order they were first registered. -/
  order : r.typeNames.map asciiLower = (history.map fun t => asciiLower t.name).eraseDups
  /-- Each registered type is the last one registered under its name. -/
  latest : ∀ t ∈ r.types, ∃ before after, history = before ++ t :: after ∧
    ∀ u ∈ after, eqIgnoreAsciiCase u.name t.name = false
  /-- Registering a type of a registered name gives back the type of that name and puts the new
  one in its place. -/
  replace : ∀ t i u, r.types[i]? = some u → eqIgnoreAsciiCase u.name t.name = true →
    r.registerType t = (some u, { r with types := r.types.set i t })
  /-- Registering a type of a new name gives nothing back and puts it last. -/
  append : ∀ t, (∀ u ∈ r.types, eqIgnoreAsciiCase u.name t.name = false) →
    r.registerType t = (none, { r with types := r.types ++ [t] })
  /-- A lookup finds the type whose name equals the trimmed query up to ASCII case. -/
  lookup : ∀ q t, r.itemType? q = some t ↔
    t ∈ r.types ∧ eqIgnoreAsciiCase t.name (trimWhite q) = true
  /-- A type whose name has no white space at its ends is found by its name. -/
  own_name : ∀ t ∈ r.types, trimWhite t.name = t.name → r.itemType? t.name = some t

theorem Tabulates.typeTable {r : Registry} {history : List ItemType}
    (h : Tabulates r.types history) : TypeTable r history where
  distinct := by
    refine (List.pairwise_map.mp (List.nodup_iff_pairwise_ne.mp h.nodup)).imp fun hne => ?_
    exact eqIgnoreAsciiCase_eq_false_iff.mpr hne
  order := by
    rw [typeNames, List.map_map]
    exact h.names
  latest := fun t ht => by
    obtain ⟨before, after, hhist, hafter⟩ := h.latest t ht
    exact ⟨before, after, hhist, fun u hu => eqIgnoreAsciiCase_eq_false_iff.mpr (hafter u hu)⟩
  replace := fun _ _ _ hu hname => registerType_of_present h.nodup hu hname
  append := fun _ h' => registerType_of_absent h'
  lookup := fun _ _ => find?_name_eq_some_iff h.nodup
  own_name := fun t ht htrim => by
    refine (find?_name_eq_some_iff h.nodup).mpr ⟨ht, ?_⟩
    rw [htrim, eqIgnoreAsciiCase_eq_true_iff]

end Registry

/-- The types a call registers. -/
def RegistryCall.registered : RegistryCall → List ItemType
  | .registerType t => [t]
  | _ => []

theorem RegistryCall.tabulates_apply {r : Registry} {history : List ItemType}
    (h : Registry.Tabulates r.types history) (c : RegistryCall) :
    Registry.Tabulates (c.apply r).types (history ++ c.registered) := by
  cases c with
  | compileSegment s o =>
    simpa [RegistryCall.apply, registered, keepsTypes_compileSegment s o r] using h
  | compileItem text o =>
    simpa [RegistryCall.apply, registered,
      (ItemPattern.segmentEffect_compile o text).keepsTypes r] using h
  | compileDependency u v o =>
    simpa [RegistryCall.apply, registered,
      (DependencyPattern.segmentEffect_compile u v o).keepsTypes r] using h
  | registerType t => exact h.register t
  | clearCache => simpa [RegistryCall.apply, registered, Registry.clearCache] using h

namespace Registry

/-- The registries a history of calls can lead to, with the types those calls registered, in
order: one a builder makes from its types, then any call a registry serves and any loading of a
projection set. -/
inductive Registered : Registry → List ItemType → Prop
  | build (ts : List ItemType) : Registered (ofTypes ts) ts
  | call {r : Registry} {history : List ItemType} (c : RegistryCall) :
    Registered r history → Registered (c.apply r) (history ++ c.registered)
  | load {r : Registry} {history : List ItemType} (c : ProjectionSetConfig) :
    Registered r history → Registered ((loadProjectionSet c).after r) (history ++ c.types)

theorem Registered.tabulates {r : Registry} {history : List ItemType} (hr : r.Registered history) :
    Tabulates r.types history := by
  induction hr with
  | build ts => exact tabulates_ofTypes ts
  | call c _ ih => exact RegistryCall.tabulates_apply ih c
  | @load r history c _ ih =>
    rw [loadProjectionSet_types]
    exact ih.foldl_register c.types _ _

/-- After any history of registrations, directly, by a builder or by loading projection sets,
interleaved with compilations and clearing the cache, the registered names are distinct up to
ASCII case and listed in the order they were first registered, each slot holding the type
registered last under its name; registering gives back the type of an equal name, if one is
there, and puts the new type in its place, or else appends it; a lookup finds the type whose name
equals the trimmed query up to ASCII case; and so every type whose name has no white space at
its ends is found by its own name. -/
theorem Registered.type_table {r : Registry} {history : List ItemType}
    (hr : r.Registered history) : r.TypeTable history :=
  hr.tabulates.typeTable

/-- A builder's two types, then a type of the second one's name in another case. -/
theorem Registered.type_table_replaced :
    let cls := ItemType.ofSpec "CLASS" ["NAMESPACE", "NAME"]
    let file := ItemType.ofSpec "FILE" ["PATH"]
    let dir := ItemType.ofSpec "file" ["DIR", "NAME"]
    let r := (RegistryCall.registerType dir).apply (ofTypes [cls, file])
    r.Registered ([cls, file] ++ [dir]) ∧ r.TypeTable ([cls, file] ++ [dir]) := by
  intro cls file dir r
  exact ⟨.call _ (.build _), Registered.type_table (.call _ (.build _))⟩

/-- A type whose name starts with a blank is registered, yet not found by its own name: the
lookup trims the query and compares it with the stored name, which is not trimmed. -/
theorem padded_name_not_found :
    let t := ItemType.ofSpec " A" ["X"]
    (ofTypes [t]).Registered [t] ∧ t ∈ (ofTypes [t]).types ∧ (ofTypes [t]).itemType? t.name = none := by
  intro t
  have htrim : trimWhite " A" = "A" := by
    simp [trimWhite, trimChars, dropWhiteFront, isWhiteSpace, RangeTable.contains,
      RangeTable.containsCode, RangeTable.search, whiteSpaceTable]
  have htypes : (ofTypes [t]).types = [t] := rfl
  refine ⟨.build _, by simp [htypes], ?_⟩
  simp only [itemType?, t, ItemType.ofSpec, htrim]
  decide

end Registry

end Conformance
