import ComponentDirective.Component
import ComponentDirective.Proofs.FieldReading
import ComponentDirective.Proofs.ScopeSearch

/-!
# What one extraction answers and reports

Once component, element and directive are found, an extraction fails exactly when the search for the scope fails
(`Extractor.value_attempt`), and it reports what the readers, the check and the search report
(`Extractor.diagnostics_attempt`). The failure itself is the only finding of its code, and the last one
(`Extractor.unreadable_extract`). An extraction that succeeds has found all that it looked for
(`Extractor.exists_of_extract_ok`).
-/

namespace ComponentDirective

/-! ## Codes -/

/-- A choice by code keeps all of the diagnostics with one code, or none. -/
theorem Diagnostic.filter_code {ds : List Diagnostic} {code : Code} (h : ∀ d ∈ ds, d.code = code) (p : Code → Bool) :
    ds.filter (fun d => p d.code) = if p code then ds else [] := by
  split
  · next hp => exact List.filter_eq_self.2 fun d hd => by rw [h d hd, hp]
  · next hp => exact List.filter_eq_nil_iff.2 fun d hd => by rwa [h d hd]

namespace Host

variable {h : Host} {scopeKind : TypeName} {d : Diagnostic}

theorem code_conflicts {site : String} : ∀ {scopes : List Marker}, d ∈ conflicts scopeKind site scopes →
    d.code = .multipleScopes
  | [], hd => by cases hd
  | _ :: _, hd => by
    obtain ⟨m, -, rfl⟩ := List.mem_map.1 hd
    rfl

theorem code_scopeOn {id : DeclId} (hd : d ∈ (h.scopeOn scopeKind id).diagnostics) : d.code = .multipleScopes := by
  cases hid : h.declaration id with
  | error e =>
    simp only [scopeOn, hid, Recorded.diagnostics_pure] at hd
    cases hd
  | ok decl =>
    rw [diagnostics_scopeOn scopeKind hid] at hd
    split at hd
    · cases hd
    · exact code_conflicts hd

theorem code_scope {element component : DeclId} (hd : d ∈ (h.scope scopeKind element component).diagnostics) :
    d.code = .multipleScopes := by
  rw [scope, Recorded.diagnostics_bind] at hd
  rcases List.mem_append.1 hd with hd | hd
  · exact code_scopeOn hd
  · split at hd
    · split at hd
      · cases hd
      · exact code_scopeOn hd
    · cases hd

end Host

theorem Settings.code_check {s : Settings} {site : String} {d : Diagnostic} (hd : d ∈ (s.check site).diagnostics) :
    d.code = .templateWithConfiguration := by
  rw [diagnostics_check] at hd
  split at hd
  · obtain rfl := List.mem_singleton.1 hd
    rfl
  · cases hd

theorem Descriptor.diagnostics_announce (d : Descriptor) (component : TypeName) (warnUnscoped : Bool) :
    (d.announce component warnUnscoped).diagnostics = [] := by
  unfold announce
  split <;> rfl

/-- Of the component's declaration a descriptor holds the name at most. -/
theorem Descriptor.ofSettings_congr {a b : Declaration} (hname : a.name = b.name) :
    ofSettings a = ofSettings b := by
  funext id s scope
  rw [ofSettings, ofSettings, hname]

/-! ## Reading a directive -/

/-- What a request leads to: its element, its component, and the first directive on the element. -/
structure Host.Leads (h : Host) (directive : TypeName) (r : Request) (el co : Declaration) (m : Marker) : Prop where
  element : h.declaration r.element = .ok el
  component : h.declaration r.component = .ok co
  directive : el.find? directive = some m

namespace Extractor

variable (x : Extractor) (r : Request) (site : String)

theorem value_readDirective (component : Declaration) (m : Marker) :
    (x.readDirective r component m site).value =
      match (x.host.scope x.scopeKind r.element r.component).value with
      | .error e => .error (.model e)
      | .ok scope => .ok (.ofSettings component r.component (Settings.read m site).value scope) := by
  simp only [readDirective, Recorded.value_bind]
  cases (x.host.scope x.scopeKind r.element r.component).value <;> rfl

theorem diagnostics_readDirective (component : Declaration) (m : Marker) :
    (x.readDirective r component m site).diagnostics = (Settings.read m site).diagnostics ++
      ((Settings.read m site).value.check site).diagnostics ++
      (x.host.scope x.scopeKind r.element r.component).diagnostics := by
  simp only [readDirective, Recorded.diagnostics_bind, List.append_assoc]
  cases (x.host.scope x.scopeKind r.element r.component).value with
  | error e => simp
  | ok scope => simp [Descriptor.diagnostics_announce]

/-- The three parts of what is reported have codes of their own, so a choice by code keeps whole parts. -/
theorem filter_readDirective (component : Declaration) (m : Marker) (p : Code → Bool) :
    (x.readDirective r component m site).diagnostics.filter (fun d => p d.code) =
      (if p .invalidTypeReference then (Settings.read m site).diagnostics else []) ++
      (if p .templateWithConfiguration then ((Settings.read m site).value.check site).diagnostics else []) ++
      (if p .multipleScopes then (x.host.scope x.scopeKind r.element r.component).diagnostics else []) := by
  rw [diagnostics_readDirective, List.filter_append, List.filter_append,
    Diagnostic.filter_code (fun _ => Settings.code_read), Diagnostic.filter_code (fun _ => Settings.code_check),
    Diagnostic.filter_code (fun _ => Host.code_scope)]

section Found

variable {x r} {component element : Declaration} {m : Marker} (hco : x.host.declaration r.component = .ok component)
  (hel : x.host.declaration r.element = .ok element) (hm : element.find? x.directive = some m)
include hco hel hm

theorem attempt_eq : x.attempt r site = x.readDirective r component m site := by
  simp only [attempt, hco, hel, hm]

theorem value_attempt : (x.attempt r site).value =
    match (x.host.scope x.scopeKind r.element r.component).value with
    | .error e => .error (.model e)
    | .ok scope => .ok (.ofSettings component r.component (Settings.read m site).value scope) := by
  rw [attempt_eq site hco hel hm, value_readDirective]

theorem diagnostics_attempt : (x.attempt r site).diagnostics = (Settings.read m site).diagnostics ++
    ((Settings.read m site).value.check site).diagnostics ++
    (x.host.scope x.scopeKind r.element r.component).diagnostics := by
  rw [attempt_eq site hco hel hm, diagnostics_readDirective]

end Found

/-- A failed look-up of component, element or directive reports nothing by itself. -/
theorem attempt_eq_or (x : Extractor) (r : Request) (site : String) : (∃ e, x.attempt r site = pure (.error e)) ∨
    ∃ component m, x.attempt r site = x.readDirective r component m site := by
  unfold attempt
  split
  · exact .inl ⟨_, rfl⟩
  · split
    · exact .inl ⟨_, rfl⟩
    · split
      · exact .inl ⟨_, rfl⟩
      · exact .inr ⟨_, _, rfl⟩

/-- What comes before the failure is recorded has other codes. -/
theorem code_attempt {d : Diagnostic} (hd : d ∈ (x.attempt r site).diagnostics) :
    d.code ≠ .unreadableDirective := by
  rcases attempt_eq_or x r site with ⟨e, he⟩ | ⟨component, m, hm⟩
  · rw [he] at hd
    cases hd
  · rw [hm, diagnostics_readDirective] at hd
    rcases List.mem_append.1 hd with hd | hd
    · rcases List.mem_append.1 hd with hd | hd
      · rw [Settings.code_read hd]
        decide
      · rw [Settings.code_check hd]
        decide
    · rw [Host.code_scope hd]
      decide

/-! ## The record of the failure -/

theorem diagnostics_extract : (x.extract r site).diagnostics = (x.attempt r site).diagnostics ++
    match (x.attempt r site).value with
    | .ok _ => []
    | .error e => [⟨.unreadableDirective, e.message, some site⟩] := by
  rw [extract, Recorded.diagnostics_bind]
  cases (x.attempt r site).value <;> rfl

theorem unreadable_extract : (x.extract r site).diagnostics.filter (·.code = .unreadableDirective) =
    match (x.attempt r site).value with
    | .ok _ => []
    | .error e => [⟨.unreadableDirective, e.message, some site⟩] := by
  have hnone : (x.attempt r site).diagnostics.filter (·.code = .unreadableDirective) = [] :=
    List.filter_eq_nil_iff.2 fun d hd => by simpa using code_attempt x r site hd
  rw [diagnostics_extract, List.filter_append, hnone]
  cases (x.attempt r site).value <;> rfl

/-! ## Successful extractions -/

variable {x r site}

/-- An extraction that does not fail records nothing behind the reading of the directive. -/
theorem extract_eq_attempt {d : Descriptor} (hd : (x.attempt r site).value = .ok d) :
    x.extract r site = x.attempt r site := by
  refine Recorded.ext (value_extract x r site) ?_
  rw [extract, Recorded.events_bind, hd]
  exact List.append_nil _

/-- **What a successful extraction has found.** Component, element, directive and scope are answered, and the descriptor
is made of them. -/
theorem exists_of_extract_ok {d : Descriptor} (hd : (x.extract r site).value = .ok d) : ∃ component element m scope,
    x.host.declaration r.component = .ok component ∧ x.host.declaration r.element = .ok element ∧
    element.find? x.directive = some m ∧ (x.host.scope x.scopeKind r.element r.component).value = .ok scope ∧
    d = .ofSettings component r.component (Settings.read m site).value scope ∧
    x.extract r site = x.readDirective r component m site := by
  rw [value_extract] at hd
  have heq := extract_eq_attempt hd
  cases hco : x.host.declaration r.component with
  | error e => simp [attempt, hco] at hd
  | ok component =>
    cases hel : x.host.declaration r.element with
    | error e => simp [attempt, hco, hel] at hd
    | ok element =>
      cases hm : element.find? x.directive with
      | none => simp [attempt, hco, hel, hm] at hd
      | some m =>
        rw [attempt_eq site hco hel hm] at hd heq
        rw [value_readDirective] at hd
        cases hs : (x.host.scope x.scopeKind r.element r.component).value with
        | error e => simp [hs] at hd
        | ok scope =>
          rw [hs] at hd
          exact ⟨component, element, m, scope, rfl, rfl, hm, rfl, (Except.ok.inj hd).symm, heq⟩

end Extractor

end ComponentDirective
