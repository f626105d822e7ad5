import ComponentDirective.Scope
import Mathlib.Data.List.Basic

/-!
# What the search for a scope answers and reports

The search looks up the types of markers one after another. It fails with the first look-up that fails (`Host.fault?`),
and then reports nothing. Otherwise its answer is the first scope of the element or, when the element has none, of the
component (`Host.value_scope`), and it reports the further scopes of that declaration (`Host.diagnostics_scope`).
-/

namespace ComponentDirective

namespace Host

variable (h : Host) (scopeKind : TypeName)

/-! ## Markers that lead nowhere -/

/-- Why the type of a marker cannot be looked up: a declaration is said to declare it, and is not answered. -/
def fault? (m : Marker) : Option ModelError :=
  match h.declarationOf m.type with
  | none => none
  | some id =>
    match h.declaration id with
    | .error e => some e
    | .ok _ => none

theorem fault?_eq_some_iff {m : Marker} {e : ModelError} :
    h.fault? m = some e ↔ ∃ id, h.declarationOf m.type = some id ∧ h.declaration id = .error e := by
  unfold fault?
  cases hm : h.declarationOf m.type with
  | none => simp
  | some id => cases hid : h.declaration id <;> simp [hid]

theorem fault?_eq_none_iff {m : Marker} :
    h.fault? m = none ↔ ∀ id, h.declarationOf m.type = some id → ∃ d, h.declaration id = .ok d := by
  unfold fault?
  cases hm : h.declarationOf m.type with
  | none => simp
  | some id => cases hid : h.declaration id <;> simp [hid]

/-- Of these markers one leads nowhere, and those in front of it can be looked up. A marker leads nowhere when a
declaration is said to declare its type, and is not answered. -/
inductive BreaksOff : List Marker → ModelError → Prop
  | here {m : Marker} {ms : List Marker} {id : DeclId} {e : ModelError} :
    h.declarationOf m.type = some id → h.declaration id = .error e → BreaksOff (m :: ms) e
  | later {m : Marker} {ms : List Marker} {e : ModelError} :
    (∀ id, h.declarationOf m.type = some id → ∃ d, h.declaration id = .ok d) → BreaksOff ms e → BreaksOff (m :: ms) e

variable {h} in
theorem breaksOff_iff {ms : List Marker} {e : ModelError} : h.BreaksOff ms e ↔ ms.findSome? h.fault? = some e := by
  constructor
  · intro hb
    induction hb with
    | here hm hid =>
      rw [List.findSome?_cons, h.fault?_eq_some_iff.2 ⟨_, hm, hid⟩]
    | later hm _ ih => rw [List.findSome?_cons, h.fault?_eq_none_iff.2 hm, ih]
  · intro hf
    induction ms with
    | nil => cases hf
    | cons m ms ih =>
      rw [List.findSome?_cons] at hf
      cases hm : h.fault? m with
      | some e' =>
        obtain ⟨id, hid, he⟩ := h.fault?_eq_some_iff.1 hm
        obtain rfl : e' = e := by simpa [hm] using hf
        exact .here hid he
      | none =>
        rw [hm] at hf
        exact .later (h.fault?_eq_none_iff.1 hm) (ih hf)

/-- Whether a marker defines a scope, as far as its type can be looked up. -/
def isScope (m : Marker) : Bool := h.definesScope m.type scopeKind matches .ok true

theorem definesScope_eq (m : Marker) : h.definesScope m.type scopeKind =
    match h.fault? m with
    | some e => .error e
    | none => .ok (h.isScope scopeKind m) := by
  unfold fault? isScope definesScope
  cases h.declarationOf m.type with
  | none => rfl
  | some id =>
    cases hid : h.declaration id with
    | error e => simp [hid]
    | ok d => cases hb : d.bears scopeKind <;> simp [hid, hb]

/-! ## The scan of one declaration -/

/-- A scan fails at the first marker that leads nowhere, and finds the scopes when there is none. -/
theorem value_markedScopes : ∀ ms : List Marker, (h.markedScopes scopeKind ms).value =
    match ms.findSome? h.fault? with
    | some e => .error e
    | none => .ok (ms.filter (h.isScope scopeKind))
  | [] => rfl
  | m :: ms => by
    have ih := value_markedScopes ms
    rw [markedScopes, definesScope_eq, List.findSome?_cons]
    cases h.fault? m with
    | some e => rfl
    | none =>
      cases hs : h.isScope scopeKind m with
      | false => simpa [hs] using ih
      | true =>
        simp only [Recorded.value_bind, ih, hs, List.filter_cons_of_pos]
        cases ms.findSome? h.fault? <;> rfl

/-- A scan reports nothing by itself. -/
theorem diagnostics_markedScopes : ∀ ms : List Marker, (h.markedScopes scopeKind ms).diagnostics = []
  | [] => rfl
  | m :: ms => by
    have ih := diagnostics_markedScopes ms
    rw [markedScopes]
    split
    · rfl
    · exact ih
    · rw [Recorded.diagnostics_bind, Recorded.diagnostics_bind, ih]
      cases (h.markedScopes scopeKind ms).value <;> rfl

/-- The diagnostics of a declaration with these scopes: one for each scope behind the first one. -/
def conflicts (site : String) : List Marker → List Diagnostic
  | [] => []
  | first :: extra => extra.map fun m => (Finding.extraScope scopeKind m.type first.type).toDiagnostic site

theorem conflicts_eq_nil_iff {site : String} : ∀ {scopes : List Marker},
    conflicts scopeKind site scopes = [] ↔ scopes.length ≤ 1
  | [] => by simp [conflicts]
  | [_] => by simp [conflicts]
  | _ :: _ :: _ => by simp [conflicts]

theorem diagnostics_reportExtra (site : String) (first : Marker) : ∀ extra : List Marker,
    (reportExtra site scopeKind first extra).diagnostics = conflicts scopeKind site (first :: extra)
  | [] => rfl
  | m :: extra => by
    rw [reportExtra, Recorded.diagnostics_bind, diagnostics_reportExtra site first extra]
    rfl

section Scan

variable {h} {id : DeclId} {d : Declaration} (hd : h.declaration id = .ok d)
include hd

theorem value_scopeOn : (h.scopeOn scopeKind id).value =
    match d.markers.findSome? h.fault? with
    | some e => .error e
    | none => .ok (d.markers.filter (h.isScope scopeKind)).head? := by
  simp only [scopeOn, hd, Recorded.value_bind, value_markedScopes]
  cases d.markers.findSome? h.fault? with
  | some e => rfl
  | none => cases d.markers.filter (h.isScope scopeKind) <;> rfl

theorem diagnostics_scopeOn : (h.scopeOn scopeKind id).diagnostics =
    match d.markers.findSome? h.fault? with
    | some _ => []
    | none => conflicts scopeKind d.name.text (d.markers.filter (h.isScope scopeKind)) := by
  simp only [scopeOn, hd, Recorded.diagnostics_bind, diagnostics_markedScopes, value_markedScopes, List.nil_append]
  cases d.markers.findSome? h.fault? with
  | some e => rfl
  | none =>
    cases d.markers.filter (h.isScope scopeKind) with
    | nil => rfl
    | cons first extra =>
      simp only [Recorded.diagnostics_bind, diagnostics_reportExtra, Recorded.diagnostics_pure, List.append_nil]

end Scan

/-- A scan that succeeds has found its declaration and the types of all its markers; it answers the first scope and
reports the others. -/
theorem exists_of_scopeOn_ok {h : Host} {scopeKind : TypeName} {id : DeclId} {scope : Option Marker}
    (hv : (h.scopeOn scopeKind id).value = .ok scope) : ∃ d, h.declaration id = .ok d ∧
      d.markers.findSome? h.fault? = none ∧ scope = (d.markers.filter (h.isScope scopeKind)).head? ∧
      (h.scopeOn scopeKind id).diagnostics =
        conflicts scopeKind d.name.text (d.markers.filter (h.isScope scopeKind)) := by
  cases hd : h.declaration id with
  | error e => simp [scopeOn, hd] at hv
  | ok d =>
    rw [value_scopeOn scopeKind hd] at hv
    rw [diagnostics_scopeOn scopeKind hd]
    cases hf : d.markers.findSome? h.fault? with
    | some e => simp [hf] at hv
    | none =>
      rw [hf] at hv
      exact ⟨d, rfl, hf, (Except.ok.inj hv).symm, rfl⟩

/-! ## The search for a component -/

section Search

variable {h} {element component : DeclId} {el co : Declaration}
  (hel : h.declaration element = .ok el) (hco : h.declaration component = .ok co)
include hel

/-- A marker of the element that leads nowhere ends the search. -/
theorem value_scope_of_fault {e : ModelError} (he : el.markers.findSome? h.fault? = some e) :
    (h.scope scopeKind element component).value = .error e := by
  have hv := value_scopeOn scopeKind hel
  rw [he] at hv
  simp only [scope, Recorded.value_bind, hv]
  rfl

include hco

/-- When every marker can be looked up, the first scope of the element is found, and else that of the component. -/
theorem value_scope (hef : el.markers.findSome? h.fault? = none) (hcf : co.markers.findSome? h.fault? = none) :
    (h.scope scopeKind element component).value =
      .ok (el.markers.filter (h.isScope scopeKind) ++ co.markers.filter (h.isScope scopeKind)).head? := by
  have hev := value_scopeOn scopeKind hel
  have hcv := value_scopeOn scopeKind hco
  rw [hef] at hev
  rw [hcf] at hcv
  simp only [scope, Recorded.value_bind, hev]
  cases hs : el.markers.filter (h.isScope scopeKind) with
  | cons first extra => rfl
  | nil =>
    simp only [List.head?_nil, List.nil_append]
    split
    · next hec =>
      obtain rfl : el = co := by rw [hec, hco] at hel; exact (Except.ok.inj hel).symm
      rw [hs]
      rfl
    · exact hcv

/-- Only the declaration whose scope is found is searched for further ones. -/
theorem diagnostics_scope (hef : el.markers.findSome? h.fault? = none) (hcf : co.markers.findSome? h.fault? = none) :
    (h.scope scopeKind element component).diagnostics =
      if el.markers.filter (h.isScope scopeKind) = [] then
        conflicts scopeKind co.name.text (co.markers.filter (h.isScope scopeKind))
      else conflicts scopeKind el.name.text (el.markers.filter (h.isScope scopeKind)) := by
  have hev := value_scopeOn scopeKind hel
  have hed := diagnostics_scopeOn scopeKind hel
  have hcd := diagnostics_scopeOn scopeKind hco
  rw [hef] at hev hed
  rw [hcf] at hcd
  simp only [scope, Recorded.diagnostics_bind, hev, hed]
  cases hs : el.markers.filter (h.isScope scopeKind) with
  | cons first extra => simp
  | nil =>
    simp only [List.head?_nil, conflicts, List.nil_append, if_true]
    split
    · next hec =>
      obtain rfl : el = co := by rw [hec, hco] at hel; exact (Except.ok.inj hel).symm
      rw [hs]
      rfl
    · exact hcd

end Search

end Host

end ComponentDirective
