import ComponentDirective.Proofs.DiagnosticLines
import ComponentDirective.Proofs.RunJournal
import ComponentDirective.Proofs.ScopeAnswers

/-!
# To which declarations diagnostics are attributed

A conflict of scopes is attributed to the declaration that carries the scopes, and all else that is reported for a
request to its component (`Host.Attributed`). This holds of everything that an extraction reports, whether it succeeds
or fails (`Extractor.attributed_task`), and so of every diagnostic that a run can report (`Reportable`). Each of them is
attributed to a name or a number, so its line tells which diagnostic it is (`lines_of_reportable`).
-/

namespace ComponentDirective

/-! ## One extraction -/

namespace Host

variable {h : Host} {scopeKind : TypeName} {r : Request} {d : Diagnostic}

variable (h scopeKind r) in
/-- A diagnostic of a request is attributed where it belongs. A scope behind the first one is reported against the
declaration that carries both, which is the element or the component. All else is reported against the component, by its
number if the component is unknown. -/
inductive Attributed : Diagnostic → Prop
  | named {co : Declaration} {code : Code} {message : String} : h.declaration r.component = .ok co →
    code ≠ .multipleScopes → Attributed ⟨code, message, some co.name.text⟩
  | numbered {e : ModelError} {code : Code} {message : String} : h.declaration r.component = .error e →
    code ≠ .multipleScopes → Attributed ⟨code, message, some r.component.text⟩
  | conflict {id : DeclId} {carrier : Declaration} {first m : Marker} {extra : List Marker} :
    id = r.element ∨ id = r.component → h.declaration id = .ok carrier →
    h.scopesOf scopeKind id = first :: extra → m ∈ extra →
    Attributed ((Finding.extraScope scopeKind m.type first.type).toDiagnostic carrier.name.text)

theorem Attributed.isPlaced (ha : h.Attributed scopeKind r d) : d.IsPlaced := by
  cases ha with
  | named => exact ⟨_, rfl, TypeName.colon_not_mem _⟩
  | numbered => exact ⟨_, rfl, DeclId.colon_not_mem _⟩
  | conflict => exact ⟨_, rfl, TypeName.colon_not_mem _⟩

theorem attributed_site {code : Code} (message : String) (hcode : code ≠ .multipleScopes) :
    h.Attributed scopeKind r ⟨code, message, some (h.site r.component)⟩ := by
  unfold site
  cases hco : h.declaration r.component with
  | error e => exact .numbered hco hcode
  | ok co => exact .named hco hcode

theorem attributed_scopeOn {id : DeclId} (hid : id = r.element ∨ id = r.component)
    (hd : d ∈ (h.scopeOn scopeKind id).diagnostics) : h.Attributed scopeKind r d := by
  cases hv : (h.scopeOn scopeKind id).value with
  | error e =>
    rw [diagnostics_scopeOn_of_error hv] at hd
    cases hd
  | ok scope =>
    obtain ⟨⟨carrier, hc⟩, -, hconflicts⟩ := scopeOn_ok hv
    rw [hconflicts] at hd
    cases hs : h.scopesOf scopeKind id with
    | nil =>
      rw [hs] at hd
      cases hd
    | cons first extra =>
      rw [hs] at hd
      obtain ⟨m, hm, rfl⟩ := List.mem_map.1 hd
      simp only [site, hc]
      exact .conflict hid hc hs hm

theorem attributed_scope (hd : d ∈ (h.scope scopeKind r.element r.component).diagnostics) :
    h.Attributed scopeKind r d := by
  rw [diagnostics_scope_eq] at hd
  rcases List.mem_append.1 hd with hd | hd
  · exact attributed_scopeOn (.inl rfl) hd
  · split at hd
    · split at hd
      · cases hd
      · exact attributed_scopeOn (.inr rfl) hd
    · cases hd

end Host

namespace Extractor

variable {x : Extractor} {r : Request} {d : Diagnostic}

theorem attributed_readDirective {component : Declaration} {m : Marker}
    (hd : d ∈ (x.readDirective r component m (x.host.site r.component)).diagnostics) :
    x.host.Attributed x.scopeKind r d := by
  rw [diagnostics_readDirective, Settings.diagnostics_check] at hd
  rcases List.mem_append.1 hd with hd | hd
  · rcases List.mem_append.1 hd with hd | hd
    · obtain ⟨f, hf, rfl⟩ := Settings.exists_finding_read hd
      exact Host.attributed_site f.message (by rw [hf]; decide)
    · split at hd
      · obtain rfl := List.mem_singleton.1 hd
        exact Host.attributed_site _ (by decide)
      · cases hd
  · exact Host.attributed_scope hd

/-- **All that is reported for a request is attributed where it belongs,** in whatever way its extraction ends. -/
theorem attributed_task (hd : d ∈ (x.task r).diagnostics) : x.host.Attributed x.scopeKind r d := by
  rw [task, diagnostics_extract] at hd
  rcases List.mem_append.1 hd with hd | hd
  · rcases attempt_eq_or x r (x.host.site r.component) with ⟨e, hpure⟩ | ⟨component, m, hread⟩
    · rw [hpure] at hd
      cases hd
    · rw [hread] at hd
      exact attributed_readDirective hd
  · split at hd
    · cases hd
    · obtain rfl := List.mem_singleton.1 hd
      exact Host.attributed_site _ (by decide)

end Extractor

/-! ## Runs -/

/-- Diagnostics that can be reported: what the extraction of some requests of some host appends to a journal, and what
stands in the report of a whole run. -/
inductive Reportable : Diagnostic → Prop
  | appended {h : Host} {o : Options} {requests : List Request} {journal : List Event} {schedule : List Nat}
    {run : Recorded (List Extractor.Outcome)} {added : List Diagnostic} {d : Diagnostic} :
    extractAll h o requests journal schedule = .ok run →
    run.diagnostics = journal.filterMap Event.diagnostic? ++ added → d ∈ added → Reportable d
  | performed {h : Host} {o : Options} {schedule : List Nat} {run : Recorded Report} {d : Diagnostic} :
    perform h o schedule = .ok run → d ∈ run.value.diagnostics → Reportable d

/-- The diagnostics of requests are attributed in every interleaving of them. -/
theorem isPlaced_of_interleaves {x : Extractor} {requests : List Request} {ds : List Diagnostic}
    (hi : Interleaves (requests.map fun r => (x.task r).diagnostics) ds) : ∀ d ∈ ds, d.IsPlaced := by
  intro d hd
  obtain ⟨own, hown, hmem⟩ := List.mem_flatten.1 (hi.perm.mem_iff.1 hd)
  obtain ⟨r, -, rfl⟩ := List.mem_map.1 hown
  exact (Extractor.attributed_task hmem).isPlaced

/-- The diagnostics that requests append are an interleaving of those that they report alone. -/
theorem extractAll_appends {h : Host} {o : Options} {x : Extractor} (hx : Extractor.ofOptions h o = .ok x)
    (requests : List Request) (journal : List Event) (schedule : List Nat) : ∃ run added,
    extractAll h o requests journal schedule = .ok run ∧
    run.diagnostics = journal.filterMap Event.diagnostic? ++ added ∧
    Interleaves (requests.map fun r => (x.task r).diagnostics) added := by
  obtain ⟨written, hrun, hw⟩ := extractAll_ok hx requests journal schedule
  refine ⟨_, _, hrun, List.filterMap_append, ?_⟩
  rw [← map_diagnostics_task]
  exact hw.filterMap Event.diagnostic?

theorem Reportable.isPlaced {d : Diagnostic} (hd : Reportable d) : d.IsPlaced := by
  cases hd with
  | @appended h o requests journal schedule run added _ hrun hadded hmem =>
    cases hx : Extractor.ofOptions h o with
    | error e => simp [extractAll, hx] at hrun
    | ok x =>
      obtain ⟨run', added', hrun', hadded', hi⟩ := extractAll_appends hx requests journal schedule
      obtain rfl : run = run' := Except.ok.inj (hrun.symm.trans hrun')
      obtain rfl : added = added' := List.append_cancel_left (hadded.symm.trans hadded')
      exact isPlaced_of_interleaves hi _ hmem
  | @performed h o schedule run _ hrun hmem =>
    obtain ⟨x, requests, hx, hr⟩ := exists_of_perform_ok hrun
    obtain ⟨run', hrun', -, -, hi⟩ := perform_ok hx hr schedule
    obtain rfl : run = run' := Except.ok.inj (hrun.symm.trans hrun')
    exact isPlaced_of_interleaves hi _ hmem

/-- **Every diagnostic is attributed, and its line tells which it is.** What requests append to a journal interleaves
what each of them reports alone, and all that a request reports is attributed to its component, or, if it is a conflict
of scopes, to the declaration that carries them. Of diagnostics that can be reported, by whatever runs, no two have the
same line; so two lists of them have the same sorted lines exactly when each diagnostic is in both equally often. -/
theorem lines_of_reportable :
    (∀ (h : Host) (o : Options) (directive scopeKind : TypeName),
      o.directive = .ok directive → o.scopeKind = .ok scopeKind → ∀ requests journal schedule,
      let alone (r : Request) := Extractor.extract ⟨h, directive, scopeKind, o.warnUnscoped⟩ r (h.site r.component)
      (∃ run added, extractAll h o requests journal schedule = .ok run ∧
        run.diagnostics = journal.filterMap Event.diagnostic? ++ added ∧
        Interleaves (requests.map fun r => (alone r).diagnostics) added) ∧
      ∀ r, ∀ d ∈ (alone r).diagnostics, h.Attributed scopeKind r d) ∧
    (∀ d d', Reportable d → Reportable d' → d.format = d'.format →
      d.code = d'.code ∧ d.site = d'.site ∧ d.message = d'.message) ∧
    ∀ ds ds' : List Diagnostic, (∀ d ∈ ds, Reportable d) → (∀ d ∈ ds', Reportable d) →
      (sortLines (ds.map Diagnostic.format) = sortLines (ds'.map Diagnostic.format) ↔ ds.Perm ds') := by
  refine ⟨fun h o directive scopeKind hd hs requests journal schedule => ⟨?_, fun r d => ?_⟩,
    fun d d' hd hd' hline => ?_, fun ds ds' hds hds' => ?_⟩
  · exact extractAll_appends (Extractor.ofOptions_ok h hd hs) requests journal schedule
  · exact Extractor.attributed_task (x := ⟨h, directive, scopeKind, o.warnUnscoped⟩)
  · obtain rfl := Diagnostic.format_inj hd.isPlaced hd'.isPlaced hline
    exact ⟨rfl, rfl, rfl⟩
  · exact Diagnostic.sortLines_format_eq_iff (fun d hd => (hds d hd).isPlaced) fun d hd => (hds' d hd).isPlaced

/-- Two runs over the same requests, one in turn and one in the opposite order: a conflict that `demo.App` carries, an
entry of `demo.Tool` that is no type, and a component that is unknown. The lines are the same up to their order; they
are not those of another list of the same diagnostics. -/
theorem lines_of_reportable_contested :
    let directive : TypeName := ⟨"autodagger.AutoComponent", by decide⟩
    let scopeKind : TypeName := ⟨"javax.inject.Scope", by decide⟩
    let requests : List Request := [.direct ⟨2⟩, .direct ⟨3⟩, .indirect ⟨3⟩ ⟨9⟩]
    let extraScope : Diagnostic := ⟨.multipleScopes,
      "Class annotated with @AutoComponent cannot have several scopes (@Scope): @PerUser conflicts with @PerApp.",
      some "demo.App"⟩
    let noType : Diagnostic :=
      ⟨.invalidTypeReference, "modules must be a class literal, found string", some "demo.Tool"⟩
    let unknown : Diagnostic := ⟨.unreadableDirective, "unknown declaration #9", some "#9"⟩
    Options.default.directive = .ok directive ∧ Options.default.scopeKind = .ok scopeKind ∧
    contestedHost.Attributed scopeKind (.direct ⟨2⟩) extraScope ∧
    contestedHost.Attributed scopeKind (.direct ⟨3⟩) noType ∧
    contestedHost.Attributed scopeKind (.indirect ⟨3⟩ ⟨9⟩) unknown ∧
    ∃ run run', extractAll contestedHost .default requests [] [] = .ok run ∧
      extractAll contestedHost .default requests [] [2, 1, 1] = .ok run' ∧
      run.diagnostics = [extraScope, noType, unknown] ∧ run'.diagnostics = [unknown, noType, extraScope] ∧
      (∃ d d', run.diagnostics[0]? = some d ∧ run'.diagnostics[2]? = some d' ∧ d.format = d'.format ∧
        d.code = d'.code ∧ d.site = d'.site ∧ d.message = d'.message) ∧
      sortLines (run.diagnostics.map Diagnostic.format) = sortLines (run'.diagnostics.map Diagnostic.format) ∧
      sortLines (run.diagnostics.map Diagnostic.format) ≠
        sortLines ([extraScope, noType, noType].map Diagnostic.format) := by
  intro directive scopeKind requests extraScope noType unknown
  have hd : Options.default.directive = .ok directive := Options.directive_default
  have hs : Options.default.scopeKind = .ok scopeKind := Options.scopeKind_default
  obtain ⟨hruns, hinj, hsorted⟩ := lines_of_reportable
  obtain ⟨⟨run, -, hrun, -⟩, hown⟩ := hruns contestedHost .default directive scopeKind hd hs requests [] []
  obtain ⟨⟨run', -, hrun', -⟩, -⟩ := hruns contestedHost .default directive scopeKind hd hs requests [] [2, 1, 1]
  have hread : ∀ {schedule run ds}, extractAll contestedHost .default requests [] schedule = .ok run →
      (extractAll contestedHost .default requests [] schedule).map (·.diagnostics) = .ok ds → run.diagnostics = ds := by
    intro schedule run ds hrun hmap
    rw [hrun] at hmap
    exact Except.ok.inj hmap
  have hds : run.diagnostics = [extraScope, noType, unknown] := hread hrun (by decide)
  have hds' : run'.diagnostics = [unknown, noType, extraScope] := hread hrun' (by decide)
  have hreportable : ∀ d ∈ run.diagnostics, Reportable d := fun d => .appended hrun rfl
  have hreportable' : ∀ d ∈ run'.diagnostics, Reportable d := fun d => .appended hrun' rfl
  have hother : ∀ d ∈ [extraScope, noType, noType], d ∈ run.diagnostics := by rw [hds]; decide
  refine ⟨hd, hs, hown _ _ (by decide), hown _ _ (by decide), hown _ _ (by decide), run, run', hrun, hrun', hds, hds',
    ⟨extraScope, extraScope, by rw [hds]; rfl, by rw [hds']; rfl, rfl, ?_⟩, ?_, ?_⟩
  · exact hinj extraScope extraScope (hreportable _ (hds ▸ List.mem_cons_self)) (hreportable' _ (hds' ▸ by decide)) rfl
  · exact (hsorted _ _ hreportable hreportable').2 (by rw [hds, hds']; decide)
  · exact mt (hsorted _ _ hreportable fun d hd => hreportable d (hother d hd)).1 (by rw [hds]; decide)

end ComponentDirective
