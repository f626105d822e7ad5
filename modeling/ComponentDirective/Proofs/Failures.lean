import ComponentDirective.Proofs.Discovered
import ComponentDirective.Proofs.Extraction
import ComponentDirective.Proofs.Overlap

/-!
# Which discovered requests fail

Discovery has looked up nearly everything that extraction looks up again. What it has not looked up are the types of the
markers that stand on a carrier, so a discovered request fails exactly when one of these leads nowhere
(`Extractor.value_task_of_discovered`), and a whole run that discovers its requests ends with a report
(`perform_failures`).
-/

namespace ComponentDirective

/-- The failure of the first marker on a declaration that leads nowhere. -/
def Host.firstFault? (h : Host) (id : DeclId) : Option ModelError :=
  match h.declaration id with
  | .error _ => none
  | .ok d => d.markers.findSome? h.fault?

/-- A declaration has a first fault when it stands in its list of markers behind markers that can be looked up. -/
theorem Host.firstFault?_eq_some_iff {h : Host} {id : DeclId} {e : ModelError} : h.firstFault? id = some e ↔
    ∃ d before m after lost, h.declaration id = .ok d ∧ d.markers = before ++ m :: after ∧
      (∀ b ∈ before, ∀ i, h.declarationOf b.type = some i → ∃ c, h.declaration i = .ok c) ∧
      h.declarationOf m.type = some lost ∧ h.declaration lost = .error e := by
  unfold firstFault?
  cases h.declaration id with
  | error _ => simp
  | ok d =>
    simp only [List.findSome?_eq_some_iff, fault?_eq_some_iff, fault?_eq_none_iff, Except.ok.injEq]
    constructor
    · rintro ⟨before, m, after, hms, ⟨lost, hm, hlost⟩, hbefore⟩
      exact ⟨d, before, m, after, lost, rfl, hms, hbefore, hm, hlost⟩
    · rintro ⟨_, before, m, after, lost, rfl, hms, hbefore, hm, hlost⟩
      exact ⟨before, m, after, hms, ⟨lost, hm, hlost⟩, hbefore⟩

/-! ## One request -/

namespace Extractor

variable {x : Extractor} {r : Request}

/-- A discovered request fails with the first fault of its element, and has a descriptor otherwise. -/
theorem value_task_of_discovered (hr : x.host.Discovered x.directive r) :
    (∃ e, x.host.firstFault? r.element = some e ∧ (x.task r).value = .error (.model e)) ∨
    (x.host.firstFault? r.element = none ∧ ∃ d, (x.task r).value = .ok d ∧ d.component = r.component) := by
  obtain ⟨⟨component, hco, -, hcf⟩, element, hel, hb, -⟩ := hr
  obtain ⟨m, hm⟩ := Option.isSome_iff_exists.1 hb
  have hv := value_attempt (x.host.site r.component) hco hel hm
  simp only [task, value_extract, hv, Host.firstFault?, hel]
  cases hef : element.markers.findSome? x.host.fault? with
  | some e => exact .inl ⟨e, rfl, by rw [Host.value_scope_of_fault x.scopeKind hel hef]⟩
  | none => exact .inr ⟨rfl, _, by rw [Host.value_scope x.scopeKind hel hco hef hcf], rfl⟩

/-- Only an element that is not the component can have a fault. -/
theorem isIndirect_of_firstFault? {h : Host} {directive : TypeName} (hr : h.Discovered directive r) {e : ModelError}
    (he : h.firstFault? r.element = some e) : r.isIndirect = true := by
  obtain ⟨⟨component, hco, -, hcf⟩, -⟩ := hr
  by_contra hdirect
  have hsame : r.element = r.component := by simpa [Request.isIndirect] using hdirect
  simp [Host.firstFault?, hsame, hco, hcf] at he

end Extractor

/-! ## Whole runs -/

/-- The failures of a whole run are the diagnostics of their code. -/
theorem unreadable_flatten (x : Extractor) (requests : List Request) :
    (requests.map fun r => (x.task r).diagnostics).flatten.filter (·.code = .unreadableDirective) =
      (splitOutcomes (requests.map fun r => (r, (x.task r).value))).2.map fun f =>
        ⟨.unreadableDirective, f.2.message, some (x.host.site f.1.component)⟩ := by
  induction requests with
  | nil => rfl
  | cons r requests ih =>
    have hr : (x.task r).diagnostics.filter (·.code = .unreadableDirective) = _ :=
      Extractor.unreadable_extract x r (x.host.site r.component)
    rw [← Extractor.value_extract] at hr
    rw [List.map_cons, List.flatten_cons, List.filter_append, ih, hr, List.map_cons]
    change _ ++ _ = (splitOutcomes ((r, (x.extract r (x.host.site r.component)).value) :: _)).2.map _
    cases (x.extract r (x.host.site r.component)).value <;> rfl

/-- Requests that fail with their faults and have a descriptor otherwise, kept apart. -/
theorem splitOutcomes_of_faults {fault : Request → Option ModelError} {answer : Request → Extractor.Outcome} :
    ∀ {requests : List Request},
    (∀ r ∈ requests, (∃ e, fault r = some e ∧ answer r = .error (.model e)) ∨
      (fault r = none ∧ ∃ d, answer r = .ok d ∧ d.component = r.component)) →
    (splitOutcomes (requests.map fun r => (r, answer r))).2 =
      requests.filterMap (fun r => (fault r).map fun e => (r, .model e)) ∧
    (splitOutcomes (requests.map fun r => (r, answer r))).1.map (·.component) =
      (requests.filter fun r => (fault r).isNone).map (·.component)
  | [], _ => ⟨rfl, rfl⟩
  | r :: requests, h => by
    obtain ⟨ihf, ihd⟩ := splitOutcomes_of_faults fun r' hr' => h r' (List.mem_cons_of_mem _ hr')
    rcases h r List.mem_cons_self with ⟨e, he, ha⟩ | ⟨hnone, d, ha, hcomp⟩
    · rw [List.map_cons, ha, splitOutcomes, ihf, ihd]
      simp [he]
    · rw [List.map_cons, ha, splitOutcomes, ihf, List.map_cons, ihd]
      simp [hnone, hcomp]

/-- **Which requests of a whole run fail.** Once discovery succeeds, the run ends with a report. A request fails exactly
when it is indirect and a marker on its carrier leads nowhere, and with the failure of the first such marker. The
failures and the components of the descriptors are the requests, kept apart in their order, and each failure is reported
once. -/
theorem perform_failures (h : Host) {o : Options} {directive scopeKind : TypeName} (hd : o.directive = .ok directive)
    (hs : o.scopeKind = .ok scopeKind) {requests : List Request} (hr : h.discover o = .ok requests)
    (schedule : List Nat) :
    let fails (r : Request) := (h.firstFault? r.element).isSome
    (∀ r ∈ requests, fails r = true ↔ r.isIndirect = true ∧ ∃ d m lost e, h.declaration r.element = .ok d ∧
      m ∈ d.markers ∧ h.declarationOf m.type = some lost ∧ h.declaration lost = .error e) ∧
    ∃ run, perform h o schedule = .ok run ∧
      run.value.failures.map (·.1) = requests.filter fails ∧
      run.value.descriptors.map (·.component) = (requests.filter fun r => !fails r).map (·.component) ∧
      (∀ f ∈ run.value.failures, ∃ d before m after lost e, h.declaration f.1.element = .ok d ∧
        d.markers = before ++ m :: after ∧
        (∀ b ∈ before, ∀ i, h.declarationOf b.type = some i → ∃ c, h.declaration i = .ok c) ∧
        h.declarationOf m.type = some lost ∧ h.declaration lost = .error e ∧ f.2 = .model e) ∧
      (run.value.diagnostics.filter (·.code = .unreadableDirective)).Perm
        (run.value.failures.map fun f => ⟨.unreadableDirective, f.2.message, some (h.site f.1.component)⟩) := by
  intro fails
  have hdisc : ∀ r ∈ requests, h.Discovered directive r := fun r hmem => Host.discovered_of_discover hd hr hmem
  refine ⟨fun r hmem => ?_, ?_⟩
  · constructor
    · intro hf
      obtain ⟨e, he⟩ := Option.isSome_iff_exists.1 hf
      obtain ⟨d, before, m, after, lost, hel, hms, -, hm, hlost⟩ := Host.firstFault?_eq_some_iff.1 he
      exact ⟨Extractor.isIndirect_of_firstFault? (hdisc r hmem) he, d, m, lost, e, hel, by simp [hms], hm, hlost⟩
    · rintro ⟨-, d, m, lost, e, hel, hm, hmt, hlost⟩
      have hfault : h.fault? m = some e := (h.fault?_eq_some_iff).2 ⟨lost, hmt, hlost⟩
      simp only [fails, Host.firstFault?, hel]
      exact List.findSome?_isSome_iff.2 ⟨m, hm, by rw [hfault]; rfl⟩
  · obtain ⟨run, hrun, hdesc, hfail, hdiag⟩ := perform_ok (Extractor.ofOptions_ok h hd hs) hr schedule
    have hsplit := splitOutcomes_of_faults fun r hmem =>
      Extractor.value_task_of_discovered (x := ⟨h, directive, scopeKind, o.warnUnscoped⟩) (hdisc r hmem)
    rw [← hfail, ← hdesc] at hsplit
    obtain ⟨hfaults, hcomponents⟩ := hsplit
    refine ⟨run, hrun, ?_, ?_, fun f hf => ?_, ?_⟩
    · rw [hfaults, List.map_filterMap, ← List.filterMap_eq_filter]
      refine List.filterMap_congr fun r _ => ?_
      cases hr : h.firstFault? r.element <;> simp [fails, hr, Option.guard]
    · rw [hcomponents]
      simp only [fails, Option.not_isSome]
    · rw [hfaults] at hf
      obtain ⟨r, -, hr⟩ := List.mem_filterMap.1 hf
      obtain ⟨e, he, rfl⟩ := Option.map_eq_some_iff.1 hr
      obtain ⟨d, before, m, after, lost, hel, hms, hbefore, hm, hlost⟩ := Host.firstFault?_eq_some_iff.1 he
      exact ⟨d, before, m, after, lost, e, hel, hms, hbefore, hm, hlost, rfl⟩
    · have hperm := hdiag.perm.filter (·.code = .unreadableDirective)
      rw [unreadable_flatten, ← hfail] at hperm
      exact hperm

/-- The one request of the host with a marker that leads nowhere fails, and its failure is reported once. -/
theorem perform_failures_dangling :
    Options.default.directive = .ok ⟨"autodagger.AutoComponent", by decide⟩ ∧
    Options.default.scopeKind = .ok ⟨"javax.inject.Scope", by decide⟩ ∧
    danglingHost.discover .default = .ok [.indirect ⟨1⟩ ⟨0⟩] ∧
    ∃ run, perform danglingHost .default [] = .ok run ∧ run.value.failures.map (·.1) = [.indirect ⟨1⟩ ⟨0⟩] ∧
      run.value.descriptors.map (·.component) = [] ∧
      (run.value.diagnostics.filter (·.code = .unreadableDirective)).length = 1 := by
  have hr : danglingHost.discover .default = .ok [.indirect ⟨1⟩ ⟨0⟩] := by decide
  have hfails : (danglingHost.firstFault? ⟨1⟩).isSome = true := by decide
  obtain ⟨-, run, hrun, hfail, hdesc, -, hperm⟩ :=
    perform_failures danglingHost Options.directive_default Options.scopeKind_default hr []
  simp only [Request.indirect, List.filter_cons, hfails, if_true, List.filter_nil] at hfail
  simp only [Request.indirect, List.filter_cons, hfails, Bool.not_true, Bool.false_eq_true, if_false, List.filter_nil,
    List.map_nil] at hdesc
  refine ⟨Options.directive_default, Options.scopeKind_default, hr, run, hrun, hfail, hdesc, ?_⟩
  have hlen := congrArg List.length hfail
  rw [List.length_map] at hlen
  rw [hperm.length_eq, List.length_map, hlen]
  rfl

end ComponentDirective
