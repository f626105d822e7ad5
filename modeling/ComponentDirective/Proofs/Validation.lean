import ComponentDirective.Proofs.StoreRuns
import ComponentDirective.Proofs.ValidDirectives

/-!
# Validation finds what is wrong, and nothing else

On a store, a request reports nothing exactly when its directive is valid and not more than one scope applies
(`Extractor.diagnostics_task_eq_nil_iff`). Then its descriptor holds what is written (`Extractor.exists_task`). A whole
run has errors exactly when one of its requests reports something (`hasErrors_of_changes`).
-/

namespace ComponentDirective

namespace Host

/-- Not more than one scope applies: the scopes of the component only count when the element has none. -/
structure ScopesFit (h : Host) (scopeKind : TypeName) (r : Request) (el co : Declaration) : Prop where
  element : (el.markers.filter (h.isScope scopeKind)).length ≤ 1
  component : el.markers.filter (h.isScope scopeKind) = [] → r.component ≠ r.element →
    (co.markers.filter (h.isScope scopeKind)).length ≤ 1

/-- A descriptor that holds what is written: the fields of the directive one by one, the component's own type for a
target that is not named, and the scope of the element or else of the component. -/
structure Describes (h : Host) (scopeKind : TypeName) (r : Request) (el co : Declaration) (m : Marker)
    (d : Descriptor) : Prop where
  component : d.component = r.component
  target : ∃ named, m.Names "target" named ∧ d.target = named.getD co.name
  template : m.Names "fromTemplate" d.template
  dependencies : m.Lists "dependencies" d.dependencies
  modules : m.Lists "modules" d.modules
  superinterfaces : m.Lists "superinterfaces" d.superinterfaces
  scope : d.scope = (el.markers.find? (h.isScope scopeKind)).or (co.markers.find? (h.isScope scopeKind))

variable {h : Host} {directive : TypeName} {r : Request} {el co : Declaration} {m : Marker}

theorem Discovered.exists_leads (hr : h.Discovered directive r) : ∃ el co m, h.Leads directive r el co m := by
  obtain ⟨⟨co, hco, -⟩, el, hel, hb, -⟩ := hr
  obtain ⟨m, hm⟩ := Option.isSome_iff_exists.1 hb
  exact ⟨el, co, m, hel, hco, hm⟩

theorem Closed.diagnostics_scope_eq_nil_iff (hc : h.Closed) (hl : h.Leads directive r el co m) (scopeKind : TypeName) :
    (h.scope scopeKind r.element r.component).diagnostics = [] ↔ h.ScopesFit scopeKind r el co := by
  rw [diagnostics_scope scopeKind hl.element hl.component (hc.findSome?_fault? _) (hc.findSome?_fault? _)]
  split
  · next hnone =>
    rw [conflicts_eq_nil_iff]
    constructor
    · exact fun hlen => ⟨by simp [hnone], fun _ _ => hlen⟩
    · rintro ⟨-, hfit⟩
      by_cases hsame : r.component = r.element
      · -- the component is the element, which has no scope
        have hco := hl.component
        rw [hsame, hl.element] at hco
        cases hco
        simp [hnone]
      · exact hfit hnone hsame
  · next hsome =>
    rw [conflicts_eq_nil_iff]
    exact ⟨fun hlen => ⟨hlen, fun hnone => absurd hnone hsome⟩, fun hfit => hfit.element⟩

end Host

/-! ## One request -/

namespace Extractor

variable {x : Extractor} (hc : x.host.Closed) {r : Request} {el co : Declaration} {m : Marker}
  (hl : x.host.Leads x.directive r el co m)
include hc hl

theorem value_task : (x.task r).value = .ok (.ofSettings co r.component
    (Settings.read m (x.host.site r.component)).value
    ((el.markers.find? (x.host.isScope x.scopeKind)).or (co.markers.find? (x.host.isScope x.scopeKind)))) := by
  rw [task, value_extract, value_attempt _ hl.component hl.element hl.directive,
    Host.value_scope x.scopeKind hl.element hl.component (hc.findSome?_fault? _) (hc.findSome?_fault? _)]
  simp only [List.head?_append, List.head?_filter]

/-- A request reports nothing exactly when nothing is wrong with its directive and its scopes. -/
theorem diagnostics_task_eq_nil_iff :
    (x.task r).diagnostics = [] ↔ m.IsValid ∧ x.host.ScopesFit x.scopeKind r el co := by
  have hv := value_task hc hl
  rw [task, value_extract] at hv
  rw [task, diagnostics_extract, hv, List.append_nil, diagnostics_attempt _ hl.component hl.element hl.directive,
    List.append_eq_nil_iff, Settings.diagnostics_eq_nil_iff, hc.diagnostics_scope_eq_nil_iff hl]

/-- The descriptor of a valid directive holds what is written. -/
theorem exists_task (hm : m.IsValid) : ∃ d, (x.task r).value = .ok d ∧ x.host.Describes x.scopeKind r el co m d := by
  refine ⟨_, value_task hc hl, rfl, ⟨_, ?_, rfl⟩, ?_, ?_, ?_, ?_, rfl⟩
  · exact Marker.names_readType _ (hm.types "target" (by decide))
  · exact Marker.names_readType _ (hm.types "fromTemplate" (by decide))
  · exact Marker.lists_readTypes _ (hm.lists "dependencies" (by decide))
  · exact Marker.lists_readTypes _ (hm.lists "modules" (by decide))
  · exact Marker.lists_readTypes _ (hm.lists "superinterfaces" (by decide))

end Extractor

/-! ## Whole runs -/

/-- A run has no errors exactly when none of its requests reports anything. -/
theorem hasErrors_eq_false_iff {x : Extractor} {requests : List Request} {report : Report}
    (hi : Interleaves (requests.map fun r => (x.task r).diagnostics) report.diagnostics) :
    report.hasErrors = false ↔ ∀ r ∈ requests, (x.task r).diagnostics = [] := by
  rw [Report.hasErrors, Bool.not_eq_false', hi.perm.isEmpty_eq, List.isEmpty_iff, List.flatten_eq_nil_iff,
    List.forall_mem_map]

/-- Requests that all have a descriptor have them in the same order. -/
theorem forall₂_splitOutcomes {R : Request → Descriptor → Prop} {answer : Request → Extractor.Outcome} :
    ∀ {requests : List Request}, (∀ r ∈ requests, ∃ d, answer r = .ok d ∧ R r d) →
    List.Forall₂ R requests (splitOutcomes (requests.map fun r => (r, answer r))).1
  | [], _ => .nil
  | r :: requests, hall => by
    obtain ⟨d, hd, hR⟩ := hall r List.mem_cons_self
    rw [List.map_cons, hd, splitOutcomes]
    exact .cons hR (forall₂_splitOutcomes fun r' hr' => hall r' (List.mem_cons_of_mem _ hr'))

/-- **Validation is sound and complete.** Whatever history of changes has built a store, a whole run on it has no errors
exactly when each discovered request leads to a valid directive and not more than one scope applies. And when it has no
errors, nothing was lost: the descriptors hold what is written, one for each request. -/
theorem hasErrors_of_changes (changes : List Store.Change) {o : Options} {directive scopeKind : TypeName}
    (hd : o.directive = .ok directive) (hs : o.scopeKind = .ok scopeKind) (schedule : List Nat) :
    let h := (Store.ofChanges changes).host
    ∃ requests run, h.discover o = .ok requests ∧ perform h o schedule = .ok run ∧
      (run.value.hasErrors = false ↔ ∀ r ∈ requests, ∃ el co m, h.Leads directive r el co m ∧ m.IsValid ∧
        h.ScopesFit scopeKind r el co) ∧
      (run.value.hasErrors = false → List.Forall₂ (fun r d => ∃ el co m, h.Leads directive r el co m ∧
        h.Describes scopeKind r el co m d) requests run.value.descriptors) := by
  intro h
  have hc : h.Closed := (Store.sound_ofChanges changes).closed_host
  obtain ⟨requests, hr⟩ := hc.exists_discover hd
  obtain ⟨run, hrun, hdesc, -, hdiag⟩ := perform_ok (Extractor.ofOptions_ok h hd hs) hr schedule
  have hiff : run.value.hasErrors = false ↔ ∀ r ∈ requests, ∃ el co m, h.Leads directive r el co m ∧ m.IsValid ∧
      h.ScopesFit scopeKind r el co := by
    refine (hasErrors_eq_false_iff hdiag).trans (forall₂_congr fun r hmem => ?_)
    constructor
    · intro hnil
      obtain ⟨el, co, m, hl⟩ := (Host.discovered_of_discover hd hr hmem).exists_leads
      exact ⟨el, co, m, hl, (Extractor.diagnostics_task_eq_nil_iff hc hl).1 hnil⟩
    · rintro ⟨el, co, m, hl, hfit⟩
      exact (Extractor.diagnostics_task_eq_nil_iff hc hl).2 hfit
  refine ⟨requests, run, hr, hrun, hiff, fun hnone => ?_⟩
  rw [hdesc]
  refine forall₂_splitOutcomes fun r hmem => ?_
  obtain ⟨el, co, m, hl, hm, -⟩ := hiff.1 hnone r hmem
  obtain ⟨d, hvalue, hdescribes⟩ := Extractor.exists_task (x := ⟨h, directive, scopeKind, o.warnUnscoped⟩) hc hl hm
  exact ⟨d, hvalue, el, co, m, hl, hdescribes⟩

/-- A directive that lists one dependency by itself is valid, and the dependency is in the descriptor. -/
theorem hasErrors_of_changes_dependency :
    let dependency : TypeName := ⟨"demo.Core", by decide⟩
    let directive : TypeName := ⟨"autodagger.AutoComponent", by decide⟩
    let changes : List Store.Change := [.declare "demo.App" .classType,
      .annotate ⟨0⟩ (.ofWrites directive [("dependencies", .type dependency)])]
    Options.default.directive = .ok directive ∧
    Options.default.scopeKind = .ok ⟨"javax.inject.Scope", by decide⟩ ∧
    ∃ run, perform (Store.ofChanges changes).host .default [] = .ok run ∧ run.value.hasErrors = false ∧
      run.value.descriptors.map (·.dependencies) = [[dependency]] := by
  intro dependency directive changes
  let m : Marker := .ofWrites directive [("dependencies", .type dependency)]
  let app : Declaration := ⟨⟨0⟩, ⟨"demo.App", by decide⟩, .classType, [m]⟩
  have hfound : (Store.ofChanges changes).host.discover .default = .ok [.direct ⟨0⟩] := by decide
  have hwritten : m.value? "dependencies" = some (.type dependency) := by decide
  have happ : (Store.ofChanges changes).host.declaration ⟨0⟩ = .ok app := by rfl
  have hleads : (Store.ofChanges changes).host.Leads directive (.direct ⟨0⟩) app app m := ⟨happ, happ, by rfl⟩
  have hvalid : m.IsValid := by decide
  have hfit : (Store.ofChanges changes).host.ScopesFit ⟨"javax.inject.Scope", by decide⟩ (.direct ⟨0⟩) app app :=
    ⟨by decide, fun _ hne => absurd rfl hne⟩
  obtain ⟨requests, run, hr, hrun, hiff, hkept⟩ := hasErrors_of_changes changes Options.directive_default
    Options.scopeKind_default []
  rw [hfound] at hr
  cases hr
  have hnone : run.value.hasErrors = false := hiff.2 fun r hmem => by
    obtain rfl := List.mem_singleton.1 hmem
    exact ⟨app, app, m, hleads, hvalid, hfit⟩
  refine ⟨Options.directive_default, Options.scopeKind_default, run, hrun, hnone, ?_⟩
  have hall := hkept hnone
  generalize run.value.descriptors = descriptors at hall ⊢
  cases hall with
  | @cons _ d _ _ hone hrest =>
    cases hrest
    obtain ⟨el, co, m', hl, hdescribes⟩ := hone
    obtain rfl : app = el := Except.ok.inj (happ.symm.trans hl.element)
    obtain rfl : m = m' := Option.some.inj (hleads.directive.symm.trans hl.directive)
    have hlists := hdescribes.dependencies
    rw [List.map_singleton]
    generalize d.dependencies = listed at hlists ⊢
    cases hlists with
    | absent hv =>
      rw [hwritten] at hv
      cases hv
    | single hv =>
      rw [hwritten] at hv
      cases hv
      rfl
    | written hv =>
      rw [hwritten] at hv
      cases hv

end ComponentDirective
