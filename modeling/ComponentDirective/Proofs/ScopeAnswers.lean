import ComponentDirective.Proofs.ScopePlaces
import ComponentDirective.Session

/-!
# Which scope applies, and which are reported beside it

A marker is a scope when its type is declared and the declaration bears the scope annotation (`Host.IsScope`). The
scopes of the element come first, and those of the component only count when the element has none and is another
declaration. The first scope that counts is the answer, and the others of the same declaration are reported against it
(`Host.scope_applies`). A search that fails reports nothing (`Host.diagnostics_scope_of_error`).
-/

namespace ComponentDirective

namespace Host

variable (h : Host) (scopeKind : TypeName)

/-! ## Scopes -/

/-- A marker is a scope: its type is declared, and the declaration, of whatever kind, bears the scope annotation. -/
def IsScope (m : Marker) : Prop :=
  ∃ id d, h.declarationOf m.type = some id ∧ h.declaration id = .ok d ∧ ∃ a ∈ d.markers, a.type = scopeKind

theorem isScope_iff {m : Marker} : h.isScope scopeKind m = true ↔ h.IsScope scopeKind m := by
  unfold isScope definesScope IsScope
  cases h.declarationOf m.type with
  | none => simp
  | some id =>
    cases hid : h.declaration id with
    | error e => simp [hid]
    | ok d =>
      have hbears : d.bears scopeKind = true ↔ ∃ a ∈ d.markers, a.type = scopeKind := Declaration.bears_iff
      cases hb : d.bears scopeKind <;> simpa [hid, hb] using hbears

instance (m : Marker) : Decidable (h.IsScope scopeKind m) := decidable_of_iff _ (h.isScope_iff scopeKind)

/-- The scopes among the markers of a declaration, in their order. A declaration that is not answered has none. -/
def scopesOf (id : DeclId) : List Marker :=
  match h.declaration id with
  | .error _ => []
  | .ok d => d.markers.filter (h.IsScope scopeKind ·)

variable {h scopeKind}

theorem scopesOf_eq {id : DeclId} {d : Declaration} (hd : h.declaration id = .ok d) :
    h.scopesOf scopeKind id = d.markers.filter (h.isScope scopeKind) := by
  simp only [scopesOf, hd, ← isScope_iff, Bool.decide_eq_true]

/-! ## The search -/

theorem scopeOn_ok {id : DeclId} {scope : Option Marker} (hv : (h.scopeOn scopeKind id).value = .ok scope) :
    (∃ d, h.declaration id = .ok d) ∧ scope = (h.scopesOf scopeKind id).head? ∧
      (h.scopeOn scopeKind id).diagnostics = conflicts scopeKind (h.site id) (h.scopesOf scopeKind id) := by
  obtain ⟨d, hd, -, hfirst, hdiag⟩ := exists_of_scopeOn_ok hv
  simp only [site, hd, scopesOf_eq hd]
  exact ⟨⟨d, rfl⟩, hfirst, hdiag⟩

/-- A scan that fails reports nothing, whatever scopes it has met. -/
theorem diagnostics_scopeOn_of_error {id : DeclId} {e : ModelError} (hv : (h.scopeOn scopeKind id).value = .error e) :
    (h.scopeOn scopeKind id).diagnostics = [] := by
  cases hd : h.declaration id with
  | error e' => simp [scopeOn, hd]
  | ok d =>
    rw [value_scopeOn scopeKind hd] at hv
    rw [diagnostics_scopeOn scopeKind hd]
    cases hf : d.markers.findSome? h.fault? with
    | some e' => rfl
    | none => simp [hf] at hv

/-- A search that fails reports nothing: when it fails on the component, the element has no scope to report. -/
theorem diagnostics_scope_of_error {element component : DeclId} {e : ModelError}
    (hv : (h.scope scopeKind element component).value = .error e) :
    (h.scope scopeKind element component).diagnostics = [] := by
  rw [value_scope_eq] at hv
  rw [diagnostics_scope_eq]
  rcases hel : (h.scopeOn scopeKind element).value with e' | _ | m
  · rw [diagnostics_scopeOn_of_error hel, List.nil_append]
  · obtain ⟨-, hnone, hdiag⟩ := scopeOn_ok hel
    rw [hdiag, List.head?_eq_none_iff.1 hnone.symm]
    simp only [hel] at hv ⊢
    by_cases hsame : element = component
    · simp [hsame] at hv
    · rw [if_neg hsame] at hv ⊢
      exact diagnostics_scopeOn_of_error hv
  · simp [hel] at hv

variable (h scopeKind) in
/-- The declaration whose scopes count: the element when it has any, and otherwise the component. -/
def scopeSource (element component : DeclId) : DeclId :=
  if h.scopesOf scopeKind element = [] then component else element

/-- A search that succeeds answers and reports as the scan of the declaration whose scopes count. -/
theorem scope_ok {element component : DeclId} {scope : Option Marker}
    (hv : (h.scope scopeKind element component).value = .ok scope) :
    let source := h.scopeSource scopeKind element component
    (∃ d, h.declaration element = .ok d) ∧ (∃ d, h.declaration source = .ok d) ∧
      scope = (h.scopesOf scopeKind source).head? ∧
      (h.scope scopeKind element component).diagnostics =
        conflicts scopeKind (h.site source) (h.scopesOf scopeKind source) := by
  rw [value_scope_eq] at hv
  rw [diagnostics_scope_eq]
  rcases hel : (h.scopeOn scopeKind element).value with e | _ | m
  · simp [hel] at hv
  · -- the element has no scope and reports nothing
    obtain ⟨hknown, hnone, hdiag⟩ := scopeOn_ok hel
    have hE : h.scopesOf scopeKind element = [] := List.head?_eq_none_iff.1 hnone.symm
    simp only [hel] at hv
    simp only [scopeSource, hdiag, hE, conflicts, List.nil_append, if_true]
    by_cases hsame : element = component
    · rw [if_pos hsame] at hv ⊢
      rw [← hsame, hE]
      exact ⟨hknown, hknown, (Except.ok.inj hv).symm, rfl⟩
    · rw [if_neg hsame] at hv ⊢
      exact ⟨hknown, scopeOn_ok hv⟩
  · -- the element has a scope, and the component is not looked up
    obtain ⟨hknown, hfirst, hdiag⟩ := scopeOn_ok hel
    have hE : h.scopesOf scopeKind element ≠ [] := by
      intro hnil
      rw [hnil] at hfirst
      cases hfirst
    rw [hel] at hv
    simp only [scopeSource, if_neg hE, List.append_nil]
    exact ⟨hknown, hknown, (Except.ok.inj hv).symm.trans hfirst, hdiag⟩

/-- **The first scope of the element applies, or else that of the component.** A search that succeeds answers the first
scope of the first of the two that has any; the component is only searched when the element has none and is another
declaration. Each further scope of the declaration that is answered from is reported against that declaration, and no
scope of the other one. A search that fails leaves what has been reported as it is. -/
theorem scope_applies (h : Host) (scopeKind : TypeName) (element component : DeclId) (session : Session) :
    let search := h.scope scopeKind element component
    let E := h.scopesOf scopeKind element
    let C := h.scopesOf scopeKind component
    (∀ scope, search.value = .ok scope →
      scope = (if E ≠ [] then E.head? else if component ≠ element then C.head? else none) ∧
      (session.keep search).diagnostics = session.diagnostics ++
        (if E ≠ [] then conflicts scopeKind (h.site element) E
          else if component ≠ element then conflicts scopeKind (h.site component) C else []) ∧
      (∃ d, h.declaration element = .ok d) ∧
      (E = [] → component ≠ element → ∃ d, h.declaration component = .ok d)) ∧
    ∀ e, search.value = .error e → (session.keep search).diagnostics = session.diagnostics := by
  intro search E C
  constructor
  · intro scope hv
    obtain ⟨hknown, hsource, hfirst, hdiag⟩ := scope_ok hv
    rw [Session.diagnostics_keep, hdiag, hfirst]
    by_cases hE : E = []
    · have hcount : h.scopeSource scopeKind element component = component := if_pos hE
      rw [hcount] at hsource ⊢
      rw [if_neg (not_not.2 hE), if_neg (not_not.2 hE)]
      by_cases hsame : component = element
      · have hC : h.scopesOf scopeKind component = [] := by rw [hsame]; exact hE
        rw [if_neg (not_not.2 hsame), if_neg (not_not.2 hsame), hC]
        exact ⟨rfl, rfl, hknown, fun _ _ => hsource⟩
      · rw [if_pos hsame, if_pos hsame]
        exact ⟨rfl, rfl, hknown, fun _ _ => hsource⟩
    · have hcount : h.scopeSource scopeKind element component = element := if_neg hE
      rw [hcount, if_pos hE, if_pos hE]
      exact ⟨rfl, rfl, hknown, fun hnil => absurd hnil hE⟩
  · intro e hv
    rw [Session.diagnostics_keep, diagnostics_scope_of_error hv, List.append_nil]

/-- A directive with three entries that are no types, and with a template beside a class that is listed. -/
def crowdedDirective : Marker :=
  .ofWrites ⟨"autodagger.AutoComponent", .refl true⟩ [("modules", .type ⟨"demo.Core", .refl true⟩),
    ("target", .unresolved "demo.Generated"), ("fromTemplate", .type ⟨"demo.Base", .refl true⟩),
    ("dependencies", .list [.type ⟨"void", .refl true⟩, .text "demo.Log", .list [], .bool true])]

/-- An interface `demo.App` with this directive and three scopes, two of them of one type; a class `demo.Page` with it,
two scopes and a marker that leads nowhere: its type is said to be declared by a number that nothing has. A marker type
`demo.Carrier` has a directive and no scope. -/
def strandedHost : Host :=
  (Store.host (.ofChanges [.scopeMarker "demo.PerApp" ⟨"javax.inject.Scope", .refl true⟩,
    .declare "demo.PerUser" .classType, .annotate ⟨1⟩ (.plain ⟨"javax.inject.Scope", .refl true⟩),
    .declare "demo.App" .interfaceType, .annotate ⟨2⟩ (.plain ⟨"demo.PerUser", .refl true⟩),
    .annotate ⟨2⟩ crowdedDirective, .annotate ⟨2⟩ (.plain ⟨"demo.PerApp", .refl true⟩),
    .annotate ⟨2⟩ (.plain ⟨"demo.PerUser", .refl true⟩),
    .declare "demo.Page" .classType, .annotate ⟨3⟩ crowdedDirective,
    .annotate ⟨3⟩ (.plain ⟨"demo.PerApp", .refl true⟩), .annotate ⟨3⟩ (.plain ⟨"demo.PerUser", .refl true⟩),
    .annotate ⟨3⟩ (.plain ⟨"demo.Lost", .refl true⟩),
    .declare "demo.Carrier" .markerType,
    .annotate ⟨4⟩ (.ofWrites ⟨"autodagger.AutoComponent", .refl true⟩ [("target", .int 3)])])).withFaults
  ⟨[(⟨"demo.Lost", .refl true⟩, some ⟨9⟩)], [], none⟩

/-- The scopes of `demo.App` are found on it as the element, beside a component that nobody asks for, and as the
component; a search that starts at `demo.Page` fails and reports none of the scopes that it has met. -/
theorem scope_applies_stranded :
    let search := strandedHost.scope ⟨"javax.inject.Scope", by decide⟩
    let perUser : Marker := .plain ⟨"demo.PerUser", by decide⟩
    let earlier : Diagnostic := ⟨.unreadableDirective, "unknown declaration #5", some "#5"⟩
    let conflict (extra : String) : Diagnostic := ⟨.multipleScopes,
      "Class annotated with @AutoComponent cannot have several scopes (@Scope): @" ++ extra ++
        " conflicts with @PerUser.", some "demo.App"⟩
    let session : Session := { Session.start with diagnostics := [earlier] }
    (search ⟨2⟩ ⟨9⟩).value = .ok (some perUser) ∧
    (session.keep (search ⟨2⟩ ⟨9⟩)).diagnostics = [earlier, conflict "PerApp", conflict "PerUser"] ∧
    (search ⟨0⟩ ⟨2⟩).value = .ok (some perUser) ∧
    (session.keep (search ⟨0⟩ ⟨2⟩)).diagnostics = [earlier, conflict "PerApp", conflict "PerUser"] ∧
    (search ⟨3⟩ ⟨2⟩).value = .error (.unknownDeclaration ⟨9⟩) ∧
    (session.keep (search ⟨3⟩ ⟨2⟩)).diagnostics = [earlier] := by
  intro search perUser earlier conflict session
  have helement : (search ⟨2⟩ ⟨9⟩).value = .ok (some perUser) := by rfl
  have hcomponent : (search ⟨0⟩ ⟨2⟩).value = .ok (some perUser) := by rfl
  have hfailed : (search ⟨3⟩ ⟨2⟩).value = .error (.unknownDeclaration ⟨9⟩) := by rfl
  obtain ⟨-, hdiag, -⟩ := (scope_applies strandedHost _ ⟨2⟩ ⟨9⟩ session).1 _ helement
  obtain ⟨-, hdiag', -⟩ := (scope_applies strandedHost _ ⟨0⟩ ⟨2⟩ session).1 _ hcomponent
  exact ⟨helement, hdiag.trans (by decide), hcomponent, hdiag'.trans (by decide), hfailed,
    (scope_applies strandedHost _ ⟨3⟩ ⟨2⟩ session).2 _ hfailed⟩

end Host

end ComponentDirective
