import ComponentDirective.Proofs.ExtractionJournal
import ComponentDirective.Proofs.Overlap
import ComponentDirective.Store
import Mathlib.Data.List.Forall2
import Mathlib.Data.List.Perm.Basic

/-!
# What a whole run notes in its journal

The journal of a run interleaves those of its extractions and closes with the numbers of the report. So its events are,
in some order, the diagnostics of the report, the announcements of its descriptors, and the scopes that were found on
the way (`perform_journal`). When no request fails, the scopes are those of the descriptors and those that conflict
with them (`Extractor.length_scopes_tasks`).
-/

namespace ComponentDirective

/-! ## Announcements -/

/-- The announcements of descriptors are an end for each of them, and the warnings. -/
theorem announcements_perm (warn : Bool) (named : List (Descriptor × TypeName)) :
    (named.flatMap fun p => (p.1.announce p.2 warn).endings).Perm
      (named.map (fun p => .extracted p.2 p.1.target p.1.dependencies.length p.1.modules.length
          p.1.superinterfaces.length p.1.isScoped) ++
        if warn then (named.filter fun p => !p.1.isScoped).map fun p => .unscoped p.2 else []) := by
  simp only [Descriptor.endings_announce]
  refine (List.flatMap_append_perm named _ _).symm.trans (List.perm_append_comm.trans ?_)
  refine (List.Perm.of_eq (List.map_eq_flatMap ..).symm).append (.of_eq ?_)
  induction named with
  | nil => cases warn <;> rfl
  | cons p named ih =>
    rw [List.flatMap_cons, ih]
    cases warn with
    | false => rfl
    | true => cases hs : p.1.isScoped <;> simp [hs]

/-! ## The requests of a run -/

namespace Extractor

variable (x : Extractor) (requests : List Request)

/-- The answers of requests, each with its request. -/
def answers : List (Request × Outcome) := requests.map fun r => (r, (x.task r).value)

/-- Requests announce the descriptors among their answers, each under the name of its component. -/
theorem endings_tasks : ∃ names, List.Forall₂ (fun d name => ∃ c, x.host.declaration d.component = .ok c ∧
    c.name = name) (splitOutcomes (x.answers requests)).1 names ∧
    (requests.flatMap fun r => (x.task r).endings) = ((splitOutcomes (x.answers requests)).1.zip names).flatMap fun p =>
      (p.1.announce p.2 x.warnUnscoped).endings := by
  induction requests with
  | nil => exact ⟨[], .nil, rfl⟩
  | cons r requests ih =>
    obtain ⟨names, hnames, hends⟩ := ih
    rw [List.flatMap_cons, hends, answers, List.map_cons]
    cases hv : (x.task r).value with
    | error e =>
      rw [task, endings_of_error x r _ hv]
      exact ⟨names, hnames, rfl⟩
    | ok d =>
      obtain ⟨c, hc, hd⟩ := endings_of_ok x r _ hv
      rw [task, hd]
      exact ⟨c.name :: names, .cons ⟨c, hc, rfl⟩ hnames, rfl⟩

/-- When no request fails, each scope that is noted is that of a descriptor, or conflicts with one. -/
theorem length_scopes_tasks (hnone : (splitOutcomes (x.answers requests)).2 = []) :
    (requests.flatMap fun r => (x.task r).scopes).length =
      ((splitOutcomes (x.answers requests)).1.filter (·.isScoped)).length +
        ((requests.flatMap fun r => (x.task r).diagnostics).filter (·.code = .multipleScopes)).length := by
  induction requests with
  | nil => rfl
  | cons r requests ih =>
    rw [answers, List.map_cons] at hnone ⊢
    cases hv : (x.task r).value with
    | error e =>
      rw [hv] at hnone
      cases hnone
    | ok d =>
      rw [hv] at hnone
      have hrest := ih hnone
      have hfirst := (length_scopes_extract x r _ hv).1
      have hscope : d.scope.toList.length = if d.isScoped then 1 else 0 := by
        rw [Descriptor.isScoped]
        cases d.scope <;> rfl
      rw [List.flatMap_cons, List.flatMap_cons, List.length_append, List.filter_append, List.length_append, hrest,
        show (x.task r).scopes.length = _ from hfirst, hscope, splitOutcomes, List.filter_cons]
      cases hs : d.isScoped with
      | false =>
        simp only [Bool.false_eq_true, if_false, answers, task]
        omega
      | true =>
        simp only [if_true, List.length_cons, answers, task]
        omega

end Extractor

/-! ## Whole runs -/

/-- A run that ends has read the names in the options and discovered its requests. -/
theorem exists_of_perform_ok {h : Host} {o : Options} {schedule : List Nat} {run : Recorded Report}
    (hrun : perform h o schedule = .ok run) : ∃ x requests, Extractor.ofOptions h o = .ok x ∧
      h.discover o = .ok requests := by
  cases hr : h.discover o with
  | error e => simp [perform, hr] at hrun
  | ok requests =>
    cases hx : Extractor.ofOptions h o with
    | error e => simp [perform, hr, extractAll, hx] at hrun
    | ok x => exact ⟨x, requests, rfl, rfl⟩

/-- An extractor has the host and the leave to warn that it was given. -/
theorem Extractor.ofOptions_fields {h : Host} {o : Options} {x : Extractor} (hx : ofOptions h o = .ok x) :
    x.host = h ∧ x.warnUnscoped = o.warnUnscoped := by
  unfold ofOptions at hx
  split at hx
  · cases hx
  · split at hx
    · cases hx
    · cases hx
      exact ⟨rfl, rfl⟩

/-- **The journal and the report of a run account for each other.** The last event gives the lengths of the three lists
of the report, and its components and failures are together as many as the requests. The others are, in some order, the
diagnostics of the report, the end of the extraction of each descriptor, a warning for each descriptor without a scope
if the options ask for it, and the scopes that were found. A successful extraction finds no scope if its descriptor has
none, and else its scope and one for each conflict; so a run without failures finds the scopes of its descriptors and
one for each conflict. -/
theorem perform_journal (h : Host) (o : Options) (schedule : List Nat) :
    (∀ run, perform h o schedule = .ok run → ∃ requests names log, ∃ scopes : List TypeName,
      h.discover o = .ok requests ∧
      run.value.descriptors.length + run.value.failures.length = requests.length ∧
      run.events = log ++ [.finished run.value.descriptors.length run.value.failures.length
        run.value.diagnostics.length] ∧
      List.Forall₂ (fun d name => ∃ c, h.declaration d.component = .ok c ∧ c.name = name) run.value.descriptors names ∧
      log.Perm (run.value.diagnostics.map .diagnosed ++ scopes.map .scopeFound ++
        ((run.value.descriptors.zip names).map (fun p => .extracted p.2 p.1.target p.1.dependencies.length
            p.1.modules.length p.1.superinterfaces.length p.1.isScoped) ++
          if o.warnUnscoped then ((run.value.descriptors.zip names).filter fun p => !p.1.isScoped).map fun p =>
            .unscoped p.2
          else [])) ∧
      (run.value.failures = [] → scopes.length = (run.value.descriptors.filter (·.isScoped)).length +
        (run.value.diagnostics.filter (·.code = .multipleScopes)).length)) ∧
    ∀ (x : Extractor) (r : Request) (site : String) (d : Descriptor), (x.extract r site).value = .ok d →
      (x.extract r site).scopes.length =
        if d.isScoped then 1 + ((x.extract r site).diagnostics.filter (·.code = .multipleScopes)).length else 0 := by
  refine ⟨fun run hrun => ?_, fun x r site d hd => ?_⟩
  · obtain ⟨x, requests, hx, hr⟩ := exists_of_perform_ok hrun
    obtain ⟨hhost, hwarn⟩ := Extractor.ofOptions_fields hx
    obtain ⟨log, run', hrun', hw, hdesc, hfail, hdiag, hevents⟩ := perform_written hx hr schedule
    obtain rfl : run = run' := Except.ok.inj (hrun.symm.trans hrun')
    obtain ⟨names, hnames, hends⟩ := x.endings_tasks requests
    have hperm : log.Perm (requests.flatMap fun r => (x.task r).events) := List.flatMap_def .. ▸ hw.perm
    refine ⟨requests, names, log, log.filterMap Event.scope?, hr, ?_, hevents, ?_, ?_, fun hnone => ?_⟩
    · rw [hdesc, hfail, splitOutcomes_length, List.length_map]
    · rw [hdesc, ← hhost]
      exact hnames
    · rw [hdiag, hdesc, ← hwarn]
      refine (Event.perm_kinds log).trans (List.Perm.append_left _ ?_)
      refine List.Perm.trans ?_ (announcements_perm x.warnUnscoped _)
      have hsame := hperm.filter Event.isEnding
      rw [List.filter_flatMap] at hsame
      exact hends ▸ hsame
    · rw [hfail] at hnone
      have hscopes := (hperm.filterMap Event.scope?).length_eq
      have hdiags := ((hperm.filterMap Event.diagnostic?).filter (·.code = .multipleScopes)).length_eq
      rw [List.filterMap_flatMap] at hscopes hdiags
      rw [hdiag, hdesc, hscopes, hdiags]
      exact x.length_scopes_tasks requests hnone
  · obtain ⟨hlen, hnone⟩ := Extractor.length_scopes_extract x r site hd
    rw [hlen, Descriptor.isScoped]
    cases hs : d.scope with
    | none =>
      rw [hnone hs]
      rfl
    | some m => rfl

/-- A component `demo.App` has two scopes, and a component `demo.Tool` has none; the directive of the latter lists a
module that is no type. -/
def contestedHost : Host :=
  Store.host (.ofChanges [.scopeMarker "demo.PerApp" ⟨"javax.inject.Scope", .refl true⟩,
    .scopeMarker "demo.PerUser" ⟨"javax.inject.Scope", .refl true⟩,
    .declare "demo.App" .classType, .annotate ⟨2⟩ (.plain ⟨"autodagger.AutoComponent", .refl true⟩),
    .annotate ⟨2⟩ (.plain ⟨"demo.PerApp", .refl true⟩), .annotate ⟨2⟩ (.plain ⟨"demo.PerUser", .refl true⟩),
    .declare "demo.Tool" .classType,
    .annotate ⟨3⟩ (.ofWrites ⟨"autodagger.AutoComponent", .refl true⟩ [("modules", .list [.text "demo.Core"])])])

/-- The run over both components finds two scopes for the one conflict, warns of the component without a scope, and
ends with two components, no failure and two diagnostics. -/
theorem perform_journal_contested :
    ∃ run names log, ∃ scopes : List TypeName,
      perform contestedHost { Options.default with warnUnscoped := true } [1, 0] = .ok run ∧ run.value.failures = [] ∧
      (run.value.diagnostics.filter (·.code = .multipleScopes)).length = 1 ∧ scopes.length = 2 ∧
      run.events = log ++ [.finished 2 0 2] ∧
      log.Perm (run.value.diagnostics.map .diagnosed ++ scopes.map .scopeFound ++
        ((run.value.descriptors.zip names).map (fun p => .extracted p.2 p.1.target p.1.dependencies.length
            p.1.modules.length p.1.superinterfaces.length p.1.isScoped) ++
          ((run.value.descriptors.zip names).filter fun p => !p.1.isScoped).map fun p => .unscoped p.2)) := by
  obtain ⟨hruns, -⟩ := perform_journal contestedHost { Options.default with warnUnscoped := true } [1, 0]
  have hrun : (perform contestedHost { Options.default with warnUnscoped := true } [1, 0]).map (fun run =>
      (run.value.failures.length, run.value.descriptors.length, run.value.diagnostics.length,
        (run.value.descriptors.filter (·.isScoped)).length,
        (run.value.diagnostics.filter (·.code = .multipleScopes)).length)) = .ok (0, 2, 2, 1, 1) := by decide
  cases hperform : perform contestedHost { Options.default with warnUnscoped := true } [1, 0] with
  | error e =>
    rw [hperform] at hrun
    cases hrun
  | ok run =>
    rw [hperform] at hrun
    simp only [Except.map, Except.ok.injEq, Prod.mk.injEq] at hrun
    obtain ⟨hfail, hdesc, hdiag, hscoped, hconflicts⟩ := hrun
    obtain ⟨-, names, log, scopes, -, -, hevents, -, hperm, hlen⟩ := hruns run hperform
    have hnone := List.eq_nil_of_length_eq_zero hfail
    refine ⟨run, names, log, scopes, rfl, hnone, hconflicts, ?_, ?_, hperm⟩
    · rw [hlen hnone, hscoped, hconflicts]
    · rw [hevents, hfail, hdesc, hdiag]

end ComponentDirective
