import ComponentDirective.Settings
import Mathlib.Data.List.TakeWhile

/-!
# What the readers of a directive answer and report

A list field is read up to its first entry that is a list. The entries before it give their types
(`Value.value_readEntries`) or one finding each, and the entry that ends the reading gives one more
(`Value.diagnostics_readEntries`). All that the readers report is that something is not a type (`Settings.code_read`).
-/

namespace ComponentDirective

namespace Value

/-! ## Single values -/

theorem asList_eq_some_iff {v : Value} {vs : List Value} : v.asList = some vs ↔ v = .list vs := by
  cases v <;> simp [asList]

theorem asType_eq_some_iff {v : Value} {t : TypeName} : v.asType = some t ↔ v = .type t := by
  cases v <;> simp [asType]

/-- Nothing is wrong with a class literal, and only with a class literal. -/
theorem complaint?_eq_none_iff {member : String} {v : Value} : v.complaint? member = none ↔ ∃ t, v = .type t := by
  cases v <;> simp [complaint?]

theorem code_of_complaint? {member : String} {v : Value} {f : Finding} (hf : v.complaint? member = some f) :
    f.code = .invalidTypeReference := by
  cases v <;> simp [complaint?] at hf <;> subst hf <;> rfl

theorem value_readClass (site member : String) (v : Value) : (v.readClass site member).value = v.asType := by
  cases v <;> rfl

theorem diagnostics_readClass (site member : String) (v : Value) :
    (v.readClass site member).diagnostics = ((v.complaint? member).map (·.toDiagnostic site)).toList := by
  cases v <;> rfl

/-! ## Entries -/

/-- The entries that are read: those in front of the first one that is a list. -/
def readable (vs : List Value) : List Value := vs.takeWhile (·.asList.isNone)

/-- The findings about the entries of a field. -/
def findings (member : String) (vs : List Value) : List Finding :=
  (readable vs).filterMap (complaint? member) ++ if vs.all (·.asList.isNone) then [] else [.nestedList member]

theorem readEntries_cons (site member : String) {v : Value} (hv : v.asList = none) (vs : List Value) :
    readEntries site member (v :: vs) = do
      let head ← v.readClass site member
      let tail ← readEntries site member vs
      return head.toList ++ tail := by
  rw [readEntries]
  rintro vs rfl
  cases hv

theorem value_readEntries (site member : String) : ∀ vs : List Value,
    (readEntries site member vs).value = (readable vs).filterMap asType
  | [] => rfl
  | v :: vs => by
    have ih := value_readEntries site member vs
    cases hv : v.asList with
    | some entries =>
      obtain rfl := asList_eq_some_iff.1 hv
      rfl
    | none =>
      rw [readEntries_cons site member hv, readable, List.takeWhile_cons_of_pos (by rw [hv]; rfl)]
      simp only [Recorded.value_bind, value_readClass, Recorded.value_pure, ih, readable]
      cases ht : v.asType <;> simp [ht]

theorem diagnostics_readEntries (site member : String) : ∀ vs : List Value,
    (readEntries site member vs).diagnostics = (findings member vs).map (·.toDiagnostic site)
  | [] => rfl
  | v :: vs => by
    have ih := diagnostics_readEntries site member vs
    cases hv : v.asList with
    | some entries =>
      obtain rfl := asList_eq_some_iff.1 hv
      rfl
    | none =>
      rw [readEntries_cons site member hv, findings, readable, List.takeWhile_cons_of_pos (by rw [hv]; rfl)]
      simp only [Recorded.diagnostics_bind, diagnostics_readClass, Recorded.diagnostics_pure, List.append_nil, ih,
        findings, readable, List.all_cons, hv, Option.isNone_none, Bool.true_and]
      cases hc : v.complaint? member <;> simp [hc]

/-- Nothing is reported about entries exactly when each of them is a type. -/
theorem findings_eq_nil_iff {member : String} {vs : List Value} :
    findings member vs = [] ↔ ∀ v ∈ vs, ∃ t, v = .type t := by
  constructor
  · intro h v hv
    obtain ⟨hread, hflat⟩ := List.append_eq_nil_iff.1 h
    have hall : vs.all (·.asList.isNone) = true := by
      by_contra hne
      rw [if_neg hne] at hflat
      cases hflat
    rw [readable, List.takeWhile_eq_self_iff.2 (List.all_eq_true.1 hall)] at hread
    exact complaint?_eq_none_iff.1 (List.filterMap_eq_nil_iff.1 hread v hv)
  · intro h
    have hflat : ∀ v ∈ vs, v.asList.isNone = true := fun v hv => by
      obtain ⟨t, rfl⟩ := h v hv
      rfl
    rw [findings, readable, List.takeWhile_eq_self_iff.2 hflat, if_pos (List.all_eq_true.2 hflat), List.append_nil,
      List.filterMap_eq_nil_iff]
    exact fun v hv => complaint?_eq_none_iff.2 (h v hv)

theorem code_findings {member : String} {vs : List Value} {f : Finding} (hf : f ∈ findings member vs) :
    f.code = .invalidTypeReference := by
  rcases List.mem_append.1 hf with hf | hf
  · obtain ⟨v, -, hv⟩ := List.mem_filterMap.1 hf
    exact code_of_complaint? hv
  · split at hf
    · cases hf
    · obtain rfl := List.mem_singleton.1 hf
      rfl

end Value

/-! ## Fields -/

namespace Marker

variable (m : Marker) (member site : String)

theorem value_readType :
    (m.readType member site).value = ((m.value? member).bind Value.asType).filter (!·.isVoid) := by
  unfold readType
  cases m.value? member with
  | none => rfl
  | some v => rw [Recorded.value_bind, Value.value_readClass]; rfl

theorem diagnostics_readType : (m.readType member site).diagnostics =
    (((m.value? member).bind (Value.complaint? member)).map (·.toDiagnostic site)).toList := by
  unfold readType
  cases m.value? member with
  | none => rfl
  | some v => rw [Recorded.diagnostics_bind, Value.diagnostics_readClass]; exact List.append_nil _

/-- The entries of a list field; a field that is not written has none. -/
def entries : List Value := ((m.value? member).map Value.entries).getD []

theorem value_readTypes :
    (m.readTypes member site).value = (Value.readable (m.entries member)).filterMap Value.asType := by
  unfold readTypes entries
  cases m.value? member with
  | none => rfl
  | some v => exact Value.value_readEntries site member v.entries

theorem diagnostics_readTypes :
    (m.readTypes member site).diagnostics = (Value.findings member (m.entries member)).map (·.toDiagnostic site) := by
  unfold readTypes entries
  cases m.value? member with
  | none => rfl
  | some v => exact Value.diagnostics_readEntries site member v.entries

variable {m member site}

/-- What is reported about a field is a finding that something in it is not a type. -/
theorem exists_finding_readType {d : Diagnostic} (hd : d ∈ (m.readType member site).diagnostics) :
    ∃ f : Finding, f.code = .invalidTypeReference ∧ f.toDiagnostic site = d := by
  rw [diagnostics_readType, Option.mem_toList, Option.map_eq_some_iff] at hd
  obtain ⟨f, hf, hd⟩ := hd
  obtain ⟨v, -, hv⟩ := Option.bind_eq_some_iff.1 hf
  exact ⟨f, Value.code_of_complaint? hv, hd⟩

theorem exists_finding_readTypes {d : Diagnostic} (hd : d ∈ (m.readTypes member site).diagnostics) :
    ∃ f : Finding, f.code = .invalidTypeReference ∧ f.toDiagnostic site = d := by
  rw [diagnostics_readTypes] at hd
  obtain ⟨f, hf, hd⟩ := List.mem_map.1 hd
  exact ⟨f, Value.code_findings hf, hd⟩

theorem code_readType {d : Diagnostic} (hd : d ∈ (m.readType member site).diagnostics) :
    d.code = .invalidTypeReference := by
  obtain ⟨f, hf, rfl⟩ := exists_finding_readType hd
  exact hf

theorem code_readTypes {d : Diagnostic} (hd : d ∈ (m.readTypes member site).diagnostics) :
    d.code = .invalidTypeReference := by
  obtain ⟨f, hf, rfl⟩ := exists_finding_readTypes hd
  exact hf

end Marker

/-! ## Directives -/

namespace Settings

variable (m : Marker) (site : String)

theorem value_read : (read m site).value =
    ⟨(m.readType "target" site).value, (m.readType "fromTemplate" site).value,
      (m.readTypes "dependencies" site).value, (m.readTypes "modules" site).value,
      (m.readTypes "superinterfaces" site).value⟩ := rfl

theorem diagnostics_read : (read m site).diagnostics =
    (m.readType "target" site).diagnostics ++ (m.readType "fromTemplate" site).diagnostics ++
      (m.readTypes "dependencies" site).diagnostics ++ (m.readTypes "modules" site).diagnostics ++
      (m.readTypes "superinterfaces" site).diagnostics := by
  simp only [read, Recorded.diagnostics_bind, Recorded.diagnostics_pure, List.append_nil, List.append_assoc]

variable {m site}

theorem exists_finding_read {d : Diagnostic} (hd : d ∈ (read m site).diagnostics) :
    ∃ f : Finding, f.code = .invalidTypeReference ∧ f.toDiagnostic site = d := by
  simp only [diagnostics_read, List.mem_append] at hd
  rcases hd with (((hd | hd) | hd) | hd) | hd
  · exact Marker.exists_finding_readType hd
  · exact Marker.exists_finding_readType hd
  · exact Marker.exists_finding_readTypes hd
  · exact Marker.exists_finding_readTypes hd
  · exact Marker.exists_finding_readTypes hd

theorem code_read {d : Diagnostic} (hd : d ∈ (read m site).diagnostics) : d.code = .invalidTypeReference := by
  obtain ⟨f, hf, rfl⟩ := exists_finding_read hd
  exact hf

theorem diagnostics_check (s : Settings) (site : String) : (s.check site).diagnostics =
    if s.template.isSome && s.isManual then [Finding.templateWithConfiguration.toDiagnostic site] else [] := by
  unfold check
  split <;> rfl

end Settings

end ComponentDirective
