import ComponentDirective.Proofs.ExtractionReports

/-!
# Why an extraction fails

An extraction fails when its component, its element or the directive cannot be found, and then it has reported nothing;
or when a marker that leads nowhere breaks off the search for the scope, and then it has reported what is wrong with the
directive, but no conflict of scopes (`Extractor.Fails`). The failure is the one of the first cause that applies, and it
is recorded last (`Extractor.extract_fails_iff`).
-/

namespace ComponentDirective

/-! ## Searches that break off -/

namespace Host

variable {h : Host} {scopeKind : TypeName}

/-- A search on known declarations fails when it breaks off on the element, or on the component that is searched in its
place. -/
theorem value_scope_eq_error_iff {element component : DeclId} {el co : Declaration}
    (hel : h.declaration element = .ok el) (hco : h.declaration component = .ok co) {e : ModelError} :
    (h.scope scopeKind element component).value = .error e ↔ h.BreaksOff el.markers e ∨
      ((∀ e', ¬h.BreaksOff el.markers e') ∧ h.scopesOf scopeKind element = [] ∧ element ≠ component ∧
        h.BreaksOff co.markers e) := by
  simp only [breaksOff_iff]
  -- the component is only reached when nothing is wrong with the element and it has no scope
  cases hef : el.markers.findSome? h.fault? with
  | some e' => simp [value_scope_of_fault scopeKind hel hef]
  | none =>
    have hev := value_scopeOn scopeKind hel
    rw [hef, ← scopesOf_eq hel] at hev
    rw [value_scope_eq, hev]
    cases hE : h.scopesOf scopeKind element with
    | cons first extra => simp
    | nil =>
      by_cases hsame : element = component
      · simp [hsame]
      · simp only [List.head?_nil, if_neg hsame, value_scopeOn scopeKind hco]
        cases co.markers.findSome? h.fault? <;> simp [hsame]

end Host

/-! ## Extractions -/

/-- What is reported about a directive by itself: what is wrong with its fields, and then a template that was read
beside a list in which something was read. -/
def Marker.reports (m : Marker) (site : String) : List Diagnostic :=
  m.fieldReports site ++
    if (m.readType "fromTemplate" site).value.isSome &&
      listMembers.any fun member => !(m.readTypes member site).value.isEmpty then
      [Finding.templateWithConfiguration.toDiagnostic site]
    else []

theorem Marker.reports_eq (m : Marker) (site : String) :
    m.reports site = (Settings.read m site).diagnostics ++ ((Settings.read m site).value.check site).diagnostics := by
  rw [Settings.diagnostics_read_eq_fieldReports, Settings.diagnostics_check, reports, Settings.isManual,
    Settings.value_read]
  simp only [listMembers, List.any_cons, List.any_nil, Bool.or_false, Bool.or_assoc]

theorem Marker.code_reports {m : Marker} {site : String} {d : Diagnostic} (hd : d ∈ m.reports site) :
    d.code = .invalidTypeReference ∨ d.code = .templateWithConfiguration := by
  rw [reports_eq] at hd
  rcases List.mem_append.1 hd with hd | hd
  · exact .inl (Settings.code_read hd)
  · exact .inr (Settings.code_check hd)

namespace Extractor

variable (x : Extractor) (r : Request) (site : String)

/-- Why an extraction fails, and what it has reported by then; the causes exclude each other. -/
inductive Fails : ExtractError → List Diagnostic → Prop
  | unknownComponent {e : ModelError} : x.host.declaration r.component = .error e → Fails (.model e) []
  | unknownElement {co : Declaration} {e : ModelError} :
    x.host.declaration r.component = .ok co → x.host.declaration r.element = .error e → Fails (.model e) []
  | noDirective {co el : Declaration} :
    x.host.declaration r.component = .ok co → x.host.declaration r.element = .ok el →
    (∀ m ∈ el.markers, m.type ≠ x.directive) → Fails (.directiveNotFound el.name x.directive) []
  /-- A marker of the element leads nowhere, whatever scopes stand in front of it. -/
  | strandedElement {el co : Declaration} {m : Marker} {e : ModelError} :
    x.host.Leads x.directive r el co m → x.host.BreaksOff el.markers e → Fails (.model e) (m.reports site)
  /-- The element has no scope, and a marker of the component leads nowhere. -/
  | strandedComponent {el co : Declaration} {m : Marker} {e : ModelError} :
    x.host.Leads x.directive r el co m → (∀ e', ¬x.host.BreaksOff el.markers e') →
    x.host.scopesOf x.scopeKind r.element = [] → r.element ≠ r.component → x.host.BreaksOff co.markers e →
    Fails (.model e) (m.reports site)

variable {x r site}

/-- Once its directive is found, an extraction fails with the search for the scope, which has reported nothing. -/
theorem attempt_of_scope_error {el co : Declaration} {m : Marker} (hl : x.host.Leads x.directive r el co m)
    {e : ModelError} (hv : (x.host.scope x.scopeKind r.element r.component).value = .error e) :
    (x.attempt r site).value = .error (.model e) ∧ (x.attempt r site).diagnostics = m.reports site := by
  rw [value_attempt site hl.component hl.element hl.directive, diagnostics_attempt site hl.component hl.element
    hl.directive, Host.diagnostics_scope_of_error hv, hv, List.append_nil, Marker.reports_eq]
  exact ⟨rfl, rfl⟩

theorem attempt_of_fails {e : ExtractError} {reported : List Diagnostic} (hf : x.Fails r site e reported) :
    (x.attempt r site).value = .error e ∧ (x.attempt r site).diagnostics = reported := by
  cases hf with
  | unknownComponent hco =>
    simp only [attempt, hco]
    exact ⟨rfl, rfl⟩
  | unknownElement hco hel =>
    simp only [attempt, hco, hel]
    exact ⟨rfl, rfl⟩
  | @noDirective co el hco hel hm =>
    have hnone : el.find? x.directive = none := by
      rw [Declaration.find?, List.find?_eq_none]
      exact fun m hmem => by simpa [Marker.isOf] using hm m hmem
    simp only [attempt, hco, hel, hnone]
    exact ⟨rfl, rfl⟩
  | strandedElement hl hb =>
    exact attempt_of_scope_error hl ((Host.value_scope_eq_error_iff hl.element hl.component).2 (.inl hb))
  | strandedComponent hl hnone hE hne hb =>
    exact attempt_of_scope_error hl
      ((Host.value_scope_eq_error_iff hl.element hl.component).2 (.inr ⟨hnone, hE, hne, hb⟩))

/-- An extraction that fails has one of the causes. -/
theorem exists_fails {e : ExtractError} (hv : (x.attempt r site).value = .error e) :
    ∃ reported, x.Fails r site e reported := by
  -- the look-ups are made in this order, and the first that fails is the cause
  cases hco : x.host.declaration r.component with
  | error e' =>
    obtain rfl : .model e' = e := by simpa [attempt, hco] using hv
    exact ⟨_, .unknownComponent hco⟩
  | ok co =>
    cases hel : x.host.declaration r.element with
    | error e' =>
      obtain rfl : .model e' = e := by simpa [attempt, hco, hel] using hv
      exact ⟨_, .unknownElement hco hel⟩
    | ok el =>
      cases hm : el.find? x.directive with
      | none =>
        obtain rfl : .directiveNotFound el.name x.directive = e := by simpa [attempt, hco, hel, hm] using hv
        refine ⟨_, .noDirective hco hel fun m hmem => ?_⟩
        simpa [Marker.isOf] using List.find?_eq_none.1 hm m hmem
      | some m =>
        rw [value_attempt site hco hel hm] at hv
        cases hs : (x.host.scope x.scopeKind r.element r.component).value with
        | ok scope => simp [hs] at hv
        | error e' =>
          obtain rfl : .model e' = e := by simpa [hs] using hv
          rcases (Host.value_scope_eq_error_iff hel hco).1 hs with hb | ⟨hnone, hE, hne, hb⟩
          · exact ⟨_, .strandedElement ⟨hel, hco, hm⟩ hb⟩
          · exact ⟨_, .strandedComponent ⟨hel, hco, hm⟩ hnone hE hne hb⟩

/-- **When an extraction fails, why, and what it leaves behind.** It fails exactly for the first cause that applies. The
failure is then reported, once and last, and attributed as all else that is wrong with the directive. Nothing comes
before it when the component, the element or the directive is not found; and what comes before it otherwise is wrong
with the fields of the directive, and never a conflict of scopes. -/
theorem extract_fails_iff (x : Extractor) (r : Request) (site : String) (e : ExtractError) (session : Session) :
    ((x.extract r site).value = .error e ↔ ∃ reported, x.Fails r site e reported) ∧
    ∀ reported, x.Fails r site e reported →
      (session.keep (x.extract r site)).diagnostics =
        session.diagnostics ++ (reported ++ [⟨.unreadableDirective, e.message, some site⟩]) ∧
      ∀ d ∈ reported, d.code = .invalidTypeReference ∨ d.code = .templateWithConfiguration := by
  rw [value_extract]
  refine ⟨⟨exists_fails, fun ⟨_, hf⟩ => (attempt_of_fails hf).1⟩, fun reported hf => ⟨?_, fun d hd => ?_⟩⟩
  · obtain ⟨hv, hdiag⟩ := attempt_of_fails hf
    rw [Session.diagnostics_keep, diagnostics_extract, hv, hdiag]
  · cases hf with
    | unknownComponent => cases hd
    | unknownElement => cases hd
    | noDirective => cases hd
    | strandedElement => exact Marker.code_reports hd
    | strandedComponent => exact Marker.code_reports hd

/-- All five causes: the component or the element is unknown, the element `demo.PerApp` has no directive, and the marker
of `demo.Page` that leads nowhere is met on the element, behind two scopes, and on the component. -/
theorem extract_fails_iff_stranded :
    let x : Extractor := ⟨Host.strandedHost, ⟨"autodagger.AutoComponent", by decide⟩,
      ⟨"javax.inject.Scope", by decide⟩, false⟩
    let earlier : Diagnostic := ⟨.invalidTypeReference, "target must be a class literal, found list", some "demo.Old"⟩
    let session : Session := { Session.start with diagnostics := [earlier] }
    let reported (r : Request) := (session.keep (x.extract r "demo.Main")).diagnostics
    let unreadable (message : String) : Diagnostic := ⟨.unreadableDirective, message, some "demo.Main"⟩
    reported ⟨⟨2⟩, ⟨9⟩⟩ = [earlier, unreadable "unknown declaration #9"] ∧
    reported ⟨⟨8⟩, ⟨2⟩⟩ = [earlier, unreadable "unknown declaration #8"] ∧
    reported ⟨⟨0⟩, ⟨2⟩⟩ = [earlier, unreadable "demo.PerApp is not annotated with @AutoComponent"] ∧
    (reported ⟨⟨3⟩, ⟨3⟩⟩).map (·.code) = [.invalidTypeReference, .invalidTypeReference, .invalidTypeReference,
      .invalidTypeReference, .templateWithConfiguration, .unreadableDirective] ∧
    reported ⟨⟨4⟩, ⟨3⟩⟩ = [earlier, ⟨.invalidTypeReference, "target must be a class literal, found integer",
      some "demo.Main"⟩, unreadable "unknown declaration #9"] := by
  intro x earlier session reported unreadable
  have hpage : x.host.Leads x.directive ⟨⟨3⟩, ⟨3⟩⟩ _ _ _ := ⟨rfl, rfl, rfl⟩
  have hcarrier : x.host.Leads x.directive ⟨⟨4⟩, ⟨3⟩⟩ _ _ _ := ⟨rfl, rfl, rfl⟩
  refine ⟨?_, ?_, ?_, ?_, ?_⟩
  · exact ((extract_fails_iff x ⟨⟨2⟩, ⟨9⟩⟩ "demo.Main" _ session).2 _ (.unknownComponent rfl)).1.trans (by decide)
  · exact ((extract_fails_iff x ⟨⟨8⟩, ⟨2⟩⟩ "demo.Main" _ session).2 _ (.unknownElement rfl rfl)).1.trans (by decide)
  · exact ((extract_fails_iff x ⟨⟨0⟩, ⟨2⟩⟩ "demo.Main" _ session).2 _
      (.noDirective rfl rfl (by decide))).1.trans (by decide)
  · have hfails : x.Fails ⟨⟨3⟩, ⟨3⟩⟩ "demo.Main" (.model (.unknownDeclaration ⟨9⟩)) _ :=
      .strandedElement hpage (Host.breaksOff_iff.2 rfl)
    exact (congrArg _ ((extract_fails_iff x ⟨⟨3⟩, ⟨3⟩⟩ "demo.Main" _ session).2 _ hfails).1).trans (by decide)
  · have hfails : x.Fails ⟨⟨4⟩, ⟨3⟩⟩ "demo.Main" (.model (.unknownDeclaration ⟨9⟩)) _ :=
      .strandedComponent hcarrier (fun e hb => nomatch Host.breaksOff_iff.1 hb) rfl (by decide)
        (Host.breaksOff_iff.2 rfl)
    exact ((extract_fails_iff x ⟨⟨4⟩, ⟨3⟩⟩ "demo.Main" _ session).2 _ hfails).1.trans (by decide)

end Extractor

end ComponentDirective
