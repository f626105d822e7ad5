import ComponentDirective.Proofs.FieldReading

/-!
# How far a list field is read

A field of several types is read up to its first entry that is itself a list, and what is read is the longest beginning
of the field without such an entry (`Value.LongestFlat`). Each entry of it gives its type or one diagnostic, and so the
types and the diagnostics together count the entries (`Marker.readTypes_longestFlat`).
-/

namespace ComponentDirective

namespace Value

/-! ## The entries that are read -/

/-- The longest beginning of a list of values in which no value is a list. -/
structure LongestFlat (p vs : List Value) : Prop where
  initial : p <+: vs
  flat : ∀ v ∈ p, v.asList = none
  longest : ∀ q, q <+: vs → (∀ v ∈ q, v.asList = none) → q <+: p

theorem readable_cons {v : Value} (hv : v.asList = none) (vs : List Value) : readable (v :: vs) = v :: readable vs :=
  List.takeWhile_cons_of_pos (by rw [hv]; rfl)

theorem readable_append {front : List Value} (hflat : ∀ v ∈ front, v.asList = none) (vs : List Value) :
    readable (front ++ vs) = front ++ readable vs :=
  List.takeWhile_append_of_pos fun v hv => Option.isNone_iff_eq_none.2 (hflat v hv)

theorem longestFlat_readable (vs : List Value) : LongestFlat (readable vs) vs where
  initial := List.takeWhile_prefix _
  flat v hv := by
    have hnone := List.mem_takeWhile_imp (p := fun v : Value => v.asList.isNone) hv
    exact Option.isNone_iff_eq_none.1 hnone
  longest := by
    rintro q ⟨rest, rfl⟩ hq
    rw [readable_append hq]
    exact List.prefix_append ..

theorem LongestFlat.unique {p q vs : List Value} (hp : LongestFlat p vs) (hq : LongestFlat q vs) : p = q :=
  (hq.longest p hp.initial hp.flat).eq_of_length_le (hp.longest q hq.initial hq.flat).length_le

/-- Reading stops before the end exactly when an entry is a list. -/
theorem length_readable_lt_iff {vs : List Value} : (readable vs).length < vs.length ↔ ∃ nested, .list nested ∈ vs := by
  induction vs with
  | nil => simp [readable]
  | cons v vs ih =>
    cases hv : v.asList with
    | some nested =>
      obtain rfl := asList_eq_some_iff.1 hv
      simp [readable, asList]
    | none =>
      have hne : ∀ nested, Value.list nested ≠ v := by
        rintro nested rfl
        cases hv
      rw [readable_cons hv, List.length_cons, List.length_cons, Nat.add_lt_add_iff_right]
      simpa only [List.mem_cons, hne, false_or] using ih

/-- What stands in and behind the first entry that is a list is not looked at. -/
theorem readEntries_append_list (site member : String) (front nested nested' rest rest' : List Value) :
    readEntries site member (front ++ .list nested' :: rest') =
      readEntries site member (front ++ .list nested :: rest) := by
  induction front with
  | nil => rfl
  | cons v front ih =>
    cases hv : v.asList with
    | some vs =>
      -- the front itself has a list
      obtain rfl := asList_eq_some_iff.1 hv
      rfl
    | none =>
      rw [List.cons_append, List.cons_append, readEntries_cons site member hv, readEntries_cons site member hv, ih]

/-! ## What they give -/

/-- What is wrong with a value that is not a type. -/
def rejection (member : String) : Value → Finding
  | .unresolved _ => .generatedClass member
  | v => .notClassLiteral member v.shape

/-- A value is complained about exactly when it gives no type. -/
theorem complaint?_eq (member : String) (v : Value) :
    v.complaint? member = if v.asType.isNone then some (v.rejection member) else none := by
  cases v <;> rfl

theorem filterMap_complaint? (member : String) (vs : List Value) :
    vs.filterMap (complaint? member) = (vs.filter (·.asType.isNone)).map (rejection member) := by
  induction vs with
  | nil => rfl
  | cons v vs ih =>
    rw [List.filterMap_cons, complaint?_eq, ih]
    cases hv : v.asType with
    | none => simp [hv]
    | some t => simp [hv]

/-- Each value gives its type, or is rejected. -/
theorem length_filterMap_asType (vs : List Value) :
    (vs.filterMap asType).length + (vs.filter (·.asType.isNone)).length = vs.length := by
  induction vs with
  | nil => rfl
  | cons v vs ih =>
    cases hv : v.asType with
    | none =>
      simp only [List.filterMap_cons, hv, List.filter_cons, Option.isNone_none, if_true, List.length_cons]
      omega
    | some t =>
      simp only [List.filterMap_cons, hv, List.filter_cons, Option.isNone_some, Bool.false_eq_true, if_false,
        List.length_cons]
      omega

/-- The findings about a field: one for each entry that is read and is not a type, and one for a list that ends it. -/
theorem findings_eq (member : String) (vs : List Value) : findings member vs =
    ((readable vs).filter (·.asType.isNone)).map (rejection member) ++
      if (readable vs).length < vs.length then [.nestedList member] else [] := by
  rw [findings, filterMap_complaint?]
  congr 1
  by_cases hlt : (readable vs).length < vs.length
  · obtain ⟨nested, hmem⟩ := length_readable_lt_iff.1 hlt
    rw [if_pos hlt, if_neg fun hall => by simpa [asList] using List.all_eq_true.1 hall _ hmem]
  · rw [if_neg hlt, if_pos]
    rw [length_readable_lt_iff] at hlt
    refine List.all_eq_true.2 fun v hv => ?_
    cases hl : v.asList with
    | none => rfl
    | some nested =>
      obtain rfl := asList_eq_some_iff.1 hl
      exact absurd ⟨nested, hv⟩ hlt

end Value

/-! ## Fields -/

namespace Marker

variable {m : Marker} {member : String} (site : String)

/-- What a field that is written with a list gives and reports, by the entries that are read. -/
theorem readTypes_list {vs : List Value} (hv : m.value? member = some (.list vs)) :
    (m.readTypes member site).value = (Value.readable vs).filterMap Value.asType ∧
    (m.readTypes member site).diagnostics =
      ((Value.readable vs).filter (·.asType.isNone)).map (fun v => (v.rejection member).toDiagnostic site) ++
        if (Value.readable vs).length < vs.length then [(Finding.nestedList member).toDiagnostic site] else [] := by
  have hentries : m.entries member = vs := by
    rw [entries, hv]
    rfl
  rw [value_readTypes, diagnostics_readTypes, hentries, Value.findings_eq, List.map_append, List.map_map,
    apply_ite (List.map _)]
  exact ⟨rfl, rfl⟩

/-- **A list field gives the types of its longest flat beginning, and one diagnostic for all else that is met.** The
types stand in their order, `void` and repeated ones with them. Each other entry of the beginning is reported, and then
the nested list, if there is one; so types and diagnostics together count what was met. What stands in and behind the
first nested list changes nothing, a value by itself reads as the list of that value, and types that are written as a
list read back. -/
theorem readTypes_longestFlat (m : Marker) (member site : String) :
    (∀ vs, m.value? member = some (.list vs) → ∃ p, Value.LongestFlat p vs ∧
      (m.readTypes member site).value = p.filterMap Value.asType ∧
      (m.readTypes member site).diagnostics =
        (p.filter (·.asType.isNone)).map (fun v => (v.rejection member).toDiagnostic site) ++
          (if p.length < vs.length then [(Finding.nestedList member).toDiagnostic site] else []) ∧
      (p.length < vs.length ↔ ∃ nested, .list nested ∈ vs) ∧
      (m.readTypes member site).value.length + (m.readTypes member site).diagnostics.length =
        p.length + (if p.length < vs.length then 1 else 0) ∧
      ∀ d ∈ (m.readTypes member site).diagnostics, d.code = .invalidTypeReference ∧ d.site = some site) ∧
    (∀ m' : Marker, ∀ front nested nested' rest rest',
      m.value? member = some (.list (front ++ .list nested :: rest)) →
      m'.value? member = some (.list (front ++ .list nested' :: rest')) →
      m'.readTypes member site = m.readTypes member site) ∧
    (∀ m' : Marker, ∀ v, v.asList = none → m.value? member = some v → m'.value? member = some (.list [v]) →
      m'.readTypes member site = m.readTypes member site) ∧
    ∀ ts, m.value? member = some (.ofTypes ts) → m.readTypes member site = pure ts := by
  refine ⟨fun vs hv => ?_, fun m' front nested nested' rest rest' hv hv' => ?_, fun m' v hflat hv hv' => ?_,
    fun ts hv => ?_⟩
  · obtain ⟨hvalue, hdiag⟩ := readTypes_list site hv
    refine ⟨Value.readable vs, Value.longestFlat_readable vs, hvalue, hdiag, Value.length_readable_lt_iff, ?_,
      fun d hd => ⟨code_readTypes hd, ?_⟩⟩
    · have hcount := Value.length_filterMap_asType (Value.readable vs)
      rw [hvalue, hdiag, List.length_append, List.length_map]
      split <;> simp only [List.length_singleton, List.length_nil] <;> omega
    · rw [diagnostics_readTypes] at hd
      obtain ⟨f, -, rfl⟩ := List.mem_map.1 hd
      rfl
  · simp only [readTypes, hv, hv', Value.readTypes, Value.entries]
    exact Value.readEntries_append_list ..
  · simp only [readTypes, hv, hv']
    exact (Value.readTypes_entries site member hflat).symm
  · simp only [readTypes, hv]
    exact Value.readTypes_ofTypes site member ts

/-- Two fields with the same entries in front of a nested list, and two ways to write a single class. -/
theorem readTypes_longestFlat_nested :
    let core : TypeName := ⟨"demo.Core", by decide⟩
    let front : List Value := [.type core, .text "demo.Log", .type .void, .unresolved "demo.Generated", .type core]
    let modules (v : Value) : Marker := .ofWrites ⟨"autodagger.AutoComponent", by decide⟩ [("modules", v)]
    let m := modules (.list (front ++ [.list [.type core], .bool true]))
    let m' := modules (.list (front ++ [.list []]))
    (m.readTypes "modules" "demo.App").value = [core, .void, core] ∧
    (m.readTypes "modules" "demo.App").diagnostics.map (·.message) =
      ["modules must be a class literal, found string",
        "modules cannot reference generated class. Use the class that applies the @AutoComponent annotation.",
        "modules entries must be class literals, found a nested list"] ∧
    m'.readTypes "modules" "demo.App" = m.readTypes "modules" "demo.App" ∧
    (modules (.list [.int 3])).readTypes "modules" "demo.App" =
      (modules (.int 3)).readTypes "modules" "demo.App" ∧
    (modules (.ofTypes [.void, core])).readTypes "modules" "demo.App" = pure [.void, core] := by
  intro core front modules m m'
  have hvalue (v : Value) : (modules v).value? "modules" = some v := rfl
  obtain ⟨hlist, hnested, -, -⟩ := readTypes_longestFlat m "modules" "demo.App"
  obtain ⟨p, hp, htypes, hdiag, -⟩ := hlist _ (hvalue _)
  obtain rfl : p = front := (hp.unique (Value.longestFlat_readable _)).trans rfl
  refine ⟨htypes, ?_, hnested m' front _ _ _ _ (hvalue _) (hvalue _), ?_, ?_⟩
  · rw [hdiag]
    decide
  · exact (readTypes_longestFlat (modules (.int 3)) "modules" "demo.App").2.2.1 _ _ rfl (hvalue _) (hvalue _)
  · exact (readTypes_longestFlat (modules (.ofTypes [.void, core])) "modules" "demo.App").2.2.2 _ (hvalue _)

end Marker

end ComponentDirective
