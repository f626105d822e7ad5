import ComponentDirective.Proofs.FieldReading

/-!
# Directives with nothing wrong

A directive is valid when each of its fields holds what it is for, and no configuration stands beside a template
(`Marker.IsValid`). Reading a directive reports nothing exactly when the directive is valid
(`Settings.diagnostics_eq_nil_iff`), and then the settings are what is written (`Marker.names_readType`,
`Marker.lists_readTypes`).
-/

namespace ComponentDirective

namespace Marker

variable {m : Marker} {member site : String}

/-! ## Fields of one type -/

/-- A field of one type holds a type, if it is written. -/
def HoldsType (m : Marker) (member : String) : Prop := ∀ v, m.value? member = some v → ∃ t, v = .type t

/-- The type that a field names. Neither a field that is not written nor `void` names one. -/
inductive Names (m : Marker) (member : String) : Option TypeName → Prop
  | absent : m.value? member = none → m.Names member none
  | void {t : TypeName} : m.value? member = some (.type t) → t.isVoid = true → m.Names member none
  | written {t : TypeName} : m.value? member = some (.type t) → t.isVoid = false → m.Names member (some t)

theorem diagnostics_readType_eq_nil_iff : (m.readType member site).diagnostics = [] ↔ m.HoldsType member := by
  rw [diagnostics_readType, HoldsType]
  cases m.value? member with
  | none => simp
  | some v => simp [Value.complaint?_eq_none_iff]

theorem names_readType (site : String) (hm : m.HoldsType member) : m.Names member (m.readType member site).value := by
  rw [value_readType]
  cases hv : m.value? member with
  | none => exact .absent hv
  | some v =>
    obtain ⟨t, rfl⟩ := hm v hv
    simp only [Option.bind_some, Value.asType, Option.filter_some]
    cases ht : t.isVoid with
    | true => exact .void hv ht
    | false => exact .written hv ht

/-- A field that names a type is written with it. -/
theorem Names.eq_some_iff {o : Option TypeName} {t : TypeName} (hn : m.Names member o) :
    o = some t ↔ m.value? member = some (.type t) ∧ t.isVoid = false := by
  cases hn with
  | absent hv => simp [hv]
  | void hv ht =>
    simp only [hv, Option.some.injEq, Value.type.injEq, reduceCtorEq, false_iff]
    rintro ⟨rfl, hf⟩
    rw [ht] at hf
    cases hf
  | written hv ht =>
    simp only [hv, Option.some.injEq, Value.type.injEq]
    constructor
    · rintro rfl
      exact ⟨rfl, ht⟩
    · exact fun h => h.1

/-! ## Fields of several types -/

/-- A field of several types holds a type, or a list of types, if it is written. -/
def HoldsTypes (m : Marker) (member : String) : Prop := ∀ v, m.value? member = some v →
  (∃ t, v = .type t) ∨ ∃ entries, v = .list entries ∧ ∀ entry ∈ entries, ∃ t, entry = .type t

/-- The types that a field lists. A field that is not written lists none, and a type by itself is a list of one. -/
inductive Lists (m : Marker) (member : String) : List TypeName → Prop
  | absent : m.value? member = none → m.Lists member []
  | single {t : TypeName} : m.value? member = some (.type t) → m.Lists member [t]
  | written {ts : List TypeName} : m.value? member = some (.ofTypes ts) → m.Lists member ts

theorem diagnostics_readTypes_eq_nil_iff : (m.readTypes member site).diagnostics = [] ↔ m.HoldsTypes member := by
  rw [diagnostics_readTypes, List.map_eq_nil_iff, Value.findings_eq_nil_iff, HoldsTypes, entries]
  cases m.value? member with
  | none => simp
  | some v => cases v <;> simp [Value.entries]

/-- Values that are all types are the types of a list. -/
theorem exists_map_type : ∀ {entries : List Value}, (∀ entry ∈ entries, ∃ t, entry = .type t) →
    ∃ ts : List TypeName, entries = ts.map .type
  | [], _ => ⟨[], rfl⟩
  | v :: entries, hall => by
    obtain ⟨t, rfl⟩ := hall v List.mem_cons_self
    obtain ⟨ts, rfl⟩ := exists_map_type fun entry he => hall entry (List.mem_cons_of_mem _ he)
    exact ⟨t :: ts, rfl⟩

theorem lists_readTypes (site : String) (hm : m.HoldsTypes member) :
    m.Lists member (m.readTypes member site).value := by
  unfold readTypes
  cases hv : m.value? member with
  | none => exact .absent hv
  | some v =>
    rcases hm v hv with ⟨t, rfl⟩ | ⟨entries, rfl, hall⟩
    · exact .single hv
    · obtain ⟨ts, rfl⟩ := exists_map_type hall
      have hread := congrArg Recorded.value (Value.readTypes_ofTypes site member ts)
      simp only [Value.ofTypes] at hread
      simp only [hread]
      exact .written hv

/-- A field lists nothing when it is written with the empty list, if at all. -/
theorem Lists.eq_nil_iff {ts : List TypeName} (hl : m.Lists member ts) :
    ts = [] ↔ ∀ v, m.value? member = some v → v = .list [] := by
  cases hl with
  | absent hv => simp [hv]
  | single hv => simp [hv]
  | written hv => simp [hv, Value.ofTypes]

/-! ## Whole directives -/

/-- The fields of one type. -/
def typeMembers : List String := ["target", "fromTemplate"]

/-- The fields of several types, which make up a configuration of its own. -/
def listMembers : List String := ["dependencies", "modules", "superinterfaces"]

/-- A directive with nothing wrong. -/
structure IsValid (m : Marker) : Prop where
  types : ∀ member ∈ typeMembers, m.HoldsType member
  lists : ∀ member ∈ listMembers, m.HoldsTypes member
  /-- Beside a template, nothing is listed. -/
  exclusive : ∀ t, m.value? "fromTemplate" = some (.type t) → t.isVoid = false →
    ∀ member ∈ listMembers, ∀ v, m.value? member = some v → v = .list []

end Marker

namespace Settings

theorem diagnostics_read_eq_nil_iff {m : Marker} {site : String} : (read m site).diagnostics = [] ↔
    (∀ member ∈ Marker.typeMembers, m.HoldsType member) ∧ ∀ member ∈ Marker.listMembers, m.HoldsTypes member := by
  simp only [diagnostics_read, List.append_eq_nil_iff, Marker.diagnostics_readType_eq_nil_iff,
    Marker.diagnostics_readTypes_eq_nil_iff, Marker.typeMembers, Marker.listMembers, List.forall_mem_cons,
    List.not_mem_nil, false_imp_iff, implies_true, and_true, and_assoc]

theorem diagnostics_check_eq_nil_iff {s : Settings} {site : String} : (s.check site).diagnostics = [] ↔
    ∀ t, s.template = some t → s.dependencies = [] ∧ s.modules = [] ∧ s.superinterfaces = [] := by
  rw [diagnostics_check]
  cases s.template with
  | none => simp
  | some t => simp [isManual, and_assoc]

/-- **Nothing is reported about a directive exactly when it is valid.** -/
theorem diagnostics_eq_nil_iff {m : Marker} {site : String} :
    (read m site).diagnostics ++ ((read m site).value.check site).diagnostics = [] ↔ m.IsValid := by
  rw [List.append_eq_nil_iff, diagnostics_read_eq_nil_iff, diagnostics_check_eq_nil_iff]
  -- once the fields hold what they are for, the check sees what is written in them
  have hcheck (ht : ∀ member ∈ Marker.typeMembers, m.HoldsType member)
      (hl : ∀ member ∈ Marker.listMembers, m.HoldsTypes member) (t : TypeName) :
      ((read m site).value.template = some t → (read m site).value.dependencies = [] ∧
        (read m site).value.modules = [] ∧ (read m site).value.superinterfaces = []) ↔
      (m.value? "fromTemplate" = some (.type t) → t.isVoid = false →
        ∀ member ∈ Marker.listMembers, ∀ v, m.value? member = some v → v = .list []) := by
    have htemplate := (Marker.names_readType site (ht "fromTemplate" (by decide))).eq_some_iff (t := t)
    have hlist {member : String} (hmem : member ∈ Marker.listMembers) :=
      (Marker.lists_readTypes site (hl member hmem)).eq_nil_iff
    rw [value_read, htemplate, hlist (by decide), hlist (by decide), hlist (by decide), and_imp]
    simp only [Marker.listMembers, List.forall_mem_cons, List.not_mem_nil, false_imp_iff, implies_true, and_true]
  constructor
  · rintro ⟨⟨ht, hl⟩, hc⟩
    exact ⟨ht, hl, fun t => (hcheck ht hl t).1 (hc t)⟩
  · rintro ⟨ht, hl, hc⟩
    exact ⟨⟨ht, hl⟩, fun t => (hcheck ht hl t).2 (hc t)⟩

end Settings

/-- Whether a directive is valid is found by reading it. -/
instance (m : Marker) : Decidable m.IsValid :=
  decidable_of_iff ((Settings.read m "").diagnostics ++ ((Settings.read m "").value.check "").diagnostics = [])
    Settings.diagnostics_eq_nil_iff

end ComponentDirective
