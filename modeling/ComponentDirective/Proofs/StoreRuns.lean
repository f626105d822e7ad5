import ComponentDirective.Options.Reading
import ComponentDirective.Proofs.EmbeddedHosts
import ComponentDirective.Proofs.StoreInvariant
import Mathlib.Data.List.Forall2

/-!
# Runs on stores

Whatever history of changes has built a store, its host is closed (`Store.Sound.closed_host`). A whole run on it fails
nowhere, as long as the names of the options are names of types (`perform_of_changes`), which the reader of options has
checked (`Options.isNamed_of_parse`).
-/

namespace ComponentDirective

/-! ## Options -/

/-- Both names of the options are names of types. -/
structure Options.IsNamed (o : Options) : Prop where
  directive : ∃ name, o.directive = .ok name
  scopeKind : ∃ name, o.scopeKind = .ok name

theorem Options.checkNames_eq_ok_iff {o checked : Options} : o.checkNames = .ok checked ↔ o = checked ∧ o.IsNamed := by
  constructor
  · intro h
    unfold checkNames at h
    split at h
    · cases h
    · next directive hd =>
      split at h
      · cases h
      · next scopeKind hs => exact ⟨Except.ok.inj h, ⟨directive, hd⟩, scopeKind, hs⟩
  · rintro ⟨rfl, ⟨directive, hd⟩, scopeKind, hs⟩
    simp only [checkNames, hd, hs]

/-- Options that were read have names of types. -/
theorem Options.isNamed_of_parse {text : String} {o : Options} (h : parse text = .ok o) : o.IsNamed := by
  unfold parse at h
  split at h
  · cases h
  · split at h
    · cases h
    · obtain ⟨rfl, hnamed⟩ := checkNames_eq_ok_iff.1 h
      exact hnamed

/-! ## Stores -/

/-- A sound store gives away only numbers that it knows. -/
theorem Store.Sound.closed_host {s : Store} (h : s.Sound) : s.host.Closed where
  listed := h.mem_declarationIds_iff
  declared hid := h.exists_declaration_idOf? hid
  denied := declaration_of_error

/-- **A whole run on a store fails nowhere.** Discovery succeeds, every discovered request has its descriptor, and no
failure is reported; hosts that answer more than the store run in the same way, so no query of such a run fails. When
requests are made up, each is answered, and fails exactly for what is wrong with itself. -/
theorem perform_of_changes (changes : List Store.Change) {o : Options}
    (hnames : (∃ text, Options.parse text = .ok o) ∨ o.IsNamed) :
    let h := (Store.ofChanges changes).host
    ∃ directive requests, o.directive = .ok directive ∧ h.discover o = .ok requests ∧
      (∀ schedule, ∃ run, perform h o schedule = .ok run ∧ run.value.failures = [] ∧
        (∀ d ∈ run.value.diagnostics, d.code ≠ .unreadableDirective) ∧
        run.value.descriptors.map (·.component) = requests.map (·.component)) ∧
      (∀ wide : Host, wide.Extends h → wide.discover o = h.discover o ∧
        ∀ schedule, perform wide o schedule = perform h o schedule) ∧
      ∀ made journal schedule, ∃ run, extractAll h o made journal schedule = .ok run ∧
        List.Forall₂ (fun r outcome => ∀ e, outcome = .error e ↔ h.Unreadable directive r e) made run.value := by
  intro h
  have hc : h.Closed := (Store.sound_ofChanges changes).closed_host
  obtain ⟨⟨directive, hd⟩, scopeKind, hs⟩ : o.IsNamed := hnames.elim (fun ⟨_, hp⟩ => Options.isNamed_of_parse hp) id
  have hx := Extractor.ofOptions_ok h hd hs
  obtain ⟨requests, hr⟩ := hc.exists_discover hd
  refine ⟨directive, requests, hd, hr, fun schedule => ?_, fun wide hw => ?_, fun made journal schedule => ?_⟩
  · obtain ⟨run, hrun, hdesc, hfail, hdiag⟩ := perform_ok hx hr schedule
    obtain ⟨hnone, hall⟩ := splitOutcomes_of_faults fun r hmem =>
      Extractor.value_task_of_discovered (x := ⟨h, directive, scopeKind, o.warnUnscoped⟩)
        (Host.discovered_of_discover hd hr hmem)
    simp only [hc.firstFault?_eq_none, Option.map_none, List.filterMap_none] at hnone
    simp only [hc.firstFault?_eq_none, Option.isNone_none, List.filter_true] at hall
    refine ⟨run, hrun, hfail.trans hnone, fun d hmem hcode => ?_, by rw [hdesc, hall]⟩
    -- a diagnostic of this code would be the record of a failure
    have hrecord : (requests.map fun r =>
        (Extractor.task ⟨h, directive, scopeKind, o.warnUnscoped⟩ r).diagnostics).flatten.filter
          (·.code = .unreadableDirective) = [] := by rw [unreadable_flatten, hnone, List.map_nil]
    exact List.filter_eq_nil_iff.1 hrecord d (hdiag.perm.subset hmem) (decide_eq_true hcode)
  · exact ⟨hc.discover_of_extends hw o, fun schedule => hc.perform_of_extends hw hd hs schedule⟩
  · obtain ⟨written, hrun, -⟩ := extractAll_ok hx made journal schedule
    refine ⟨_, hrun, List.forall₂_map_right_iff.2 (List.forall₂_same.2 fun r _ e => ?_)⟩
    exact hc.error_iff

/-- A store on which changes have failed, and which holds one component with a directive. -/
theorem perform_of_changes_component :
    let changes : List Store.Change := [.declare "demo.App" .classType, .declare "demo..App" .classType,
      .annotate ⟨7⟩ (.plain ⟨"demo.Lost", by decide⟩), .annotate ⟨0⟩ (.plain ⟨"autodagger.AutoComponent", by decide⟩)]
    Options.default.IsNamed ∧
    ∃ run, perform (Store.ofChanges changes).host .default [] = .ok run ∧ run.value.failures = [] ∧
      run.value.descriptors.map (·.component) = [⟨0⟩] := by
  intro changes
  have hnames : Options.default.IsNamed := ⟨⟨_, Options.directive_default⟩, _, Options.scopeKind_default⟩
  have hfound : (Store.ofChanges changes).host.discover .default = .ok [.direct ⟨0⟩] := by decide
  obtain ⟨directive, requests, -, hr, hruns, -⟩ := perform_of_changes changes (.inr hnames)
  obtain ⟨run, hrun, hfail, -, hcomp⟩ := hruns []
  rw [hfound] at hr
  cases hr
  exact ⟨hnames, run, hrun, hfail, hcomp⟩

end ComponentDirective
