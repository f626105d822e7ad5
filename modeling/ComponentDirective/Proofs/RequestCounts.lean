import ComponentDirective.Proofs.RunJournal
import ComponentDirective.Proofs.UsedUpNumbers
import ComponentDirective.Proofs.Validation

/-!
# How often a request is discovered

A request is found at the number of its component, and as often as discovery comes to that number
(`Host.count_flatMap_requestsOf`). On a store that has a number for each declaration, this is once for a direct request,
and once for each marker of the carrier's type for an indirect one (`Store.Sound.count_requestsOf`). So requests repeat
only when a component is marked twice in the same way, and otherwise no two descriptors come from one request
(`count_discovered`). A number that is given twice makes requests repeat too (`count_discovered_used_up`).
-/

namespace ComponentDirective

namespace Host

variable {h : Host} {directive : TypeName} {r : Request}

/-! ## Counting requests -/

/-- A component gives a direct request once, and an indirect one as often as its markers lead to the carrier. -/
theorem count_requestsOf {co : Declaration} (hco : h.declaration r.component = .ok co)
    (hk : co.isMarkerType = false) : (h.requestsOf directive r.component).count r =
      (if co.bears directive = true ∧ r.element = r.component then 1 else 0) +
        co.markers.countP fun m => h.carrier? directive m = some r.element := by
  simp only [requestsOf, hco, hk, Bool.false_eq_true, if_false, List.count_append, List.count_filterMap]
  congr 1
  · have hdirect : Request.direct r.component = r ↔ r.element = r.component := by
      cases r
      simp [Request.direct, eq_comm]
    cases co.bears directive <;> simp [List.count_singleton, hdirect]
  · refine List.countP_congr fun m _ => ?_
    cases r
    simp [Request.indirect]

/-- A request is found at the number of its component, each time that discovery comes to it. -/
theorem count_flatMap_requestsOf : ∀ ids : List DeclId, (ids.flatMap (h.requestsOf directive)).count r =
    ids.count r.component * (h.requestsOf directive r.component).count r
  | [] => by simp
  | id :: ids => by
    rw [List.flatMap_cons, List.count_append, count_flatMap_requestsOf ids]
    by_cases hid : id = r.component
    · rw [hid, List.count_cons_self, Nat.succ_mul, Nat.add_comm]
    · have hnone : (h.requestsOf directive id).count r = 0 :=
        List.count_eq_zero.2 fun hr => hid (of_mem_requestsOf hr).1.symm
      rw [hnone, Nat.zero_add, List.count_cons_of_ne hid]

variable (h directive) in
/-- How often a request is to be listed: once for a component that carries the directive, and once for each marker of
the type that the element declares when the element is a marker type that carries the directive. -/
def listings (r : Request) : Nat :=
  match h.declaration r.element, h.declaration r.component with
  | .ok el, .ok co =>
    if co.isMarkerType || !el.bears directive then 0
    else if r.element = r.component then 1
    else if el.isMarkerType then co.markers.countP (·.isOf el.name)
    else 0
  | _, _ => 0

/-- The request of a component itself is to be listed once. -/
theorem listings_direct {component : DeclId} {co : Declaration} (hco : h.declaration component = .ok co)
    (hk : co.isMarkerType = false) (hb : co.bears directive = true) :
    h.listings directive (.direct component) = 1 := by
  simp [listings, Request.direct, hco, hk, hb]

variable (h directive) in
/-- No component bears two markers of one type whose declaration carries the directive. -/
def MarkedOnce : Prop :=
  ∀ component co carrier el, h.declaration component = .ok co → co.kind ≠ .markerType →
    h.declaration carrier = .ok el → el.kind = .markerType → el.bears directive = true →
    co.markers.countP (·.isOf el.name) ≤ 1

/-- Each request is to be listed at most once exactly when no component is marked twice in the same way. -/
theorem listings_le_one_iff : (∀ r, h.listings directive r ≤ 1) ↔ h.MarkedOnce directive := by
  constructor
  · intro hle component co carrier el hco hck hel hek hb
    have hne : carrier ≠ component := by
      rintro rfl
      rw [hco] at hel
      cases hel
      exact hck hek
    have hmarker : el.isMarkerType = true := Declaration.isMarkerType_iff.2 hek
    have hcomp : co.isMarkerType = false := Bool.eq_false_iff.2 (mt Declaration.isMarkerType_iff.1 hck)
    simpa [listings, hel, hco, hcomp, hb, hne, hmarker] using hle ⟨carrier, component⟩
  · intro honce r
    unfold listings
    split
    · next el co hel hco =>
      split
      · exact Nat.zero_le 1
      · next hnot =>
        obtain ⟨hcomp, hb⟩ : co.isMarkerType = false ∧ el.bears directive = true := by simpa using hnot
        split
        · exact Nat.le_refl 1
        · split
          · next hmarker =>
            exact honce _ co _ el hco (fun hk => by simp [Declaration.isMarkerType, hk] at hcomp) hel
              (Declaration.isMarkerType_iff.1 hmarker) hb
          · exact Nat.zero_le 1
    · exact Nat.zero_le 1

end Host

/-! ## Stores -/

namespace Store

variable {s : Store} {directive : TypeName} {r : Request} (h : s.Sound) (hsize : s.size ≤ UInt32.size)
include h hsize

/-- The markers that lead to a carrier are those of the type that it declares. -/
theorem Sound.countP_carrier? {id : DeclId} {d : Declaration} (hd : s.host.declaration id = .ok d) (ms : List Marker) :
    (ms.countP fun m => s.host.carrier? directive m = some id) =
      if d.isMarkerType && d.bears directive then ms.countP (·.isOf d.name) else 0 := by
  have hiff : ∀ m, s.host.carrier? directive m = some id ↔
      m.isOf d.name = true ∧ (d.isMarkerType && d.bears directive) = true := fun m => by
    rw [Host.carrier?_eq_some_iff, h.declarationOf_eq_some_iff hsize, hd]
    simp only [Except.ok.injEq, exists_eq_left', Marker.isOf, beq_iff_eq, Bool.and_eq_true,
      Declaration.isMarkerType_iff, Declaration.bears_iff, eq_comm (a := m.type)]
  simp only [hiff]
  cases d.isMarkerType && d.bears directive <;> simp

theorem Sound.count_requestsOf : (s.host.requestsOf directive r.component).count r = s.host.listings directive r := by
  unfold Host.listings
  cases hco : s.host.declaration r.component with
  | error e =>
    have hnone : s.host.requestsOf directive r.component = [] := by simp only [Host.requestsOf, hco]
    rw [hnone]
    cases s.host.declaration r.element <;> rfl
  | ok co =>
    cases hk : co.isMarkerType with
    | true =>
      have hnone : s.host.requestsOf directive r.component = [] := by simp [Host.requestsOf, hco, hk]
      rw [hnone]
      cases s.host.declaration r.element <;> simp [hk]
    | false =>
      rw [Host.count_requestsOf hco hk]
      cases hel : s.host.declaration r.element with
      | error e =>
        have hne : r.element ≠ r.component := fun hsame => by
          rw [hsame, hco] at hel
          cases hel
        have hlost : ∀ m ∈ co.markers, s.host.carrier? directive m ≠ some r.element := fun m _ hm => by
          obtain ⟨-, d, hd, -⟩ := Host.carrier?_eq_some_iff.1 hm
          rw [hel] at hd
          cases hd
        simpa [hne] using hlost
      | ok el =>
        rw [h.countP_carrier? hsize hel]
        by_cases hsame : r.element = r.component
        · -- a direct request: the component leads to no carrier that it is itself
          rw [hsame, hco] at hel
          cases hel
          cases hb : co.bears directive <;> simp [hk, hb, hsame]
        · cases hb : el.bears directive <;> cases hm : el.isMarkerType <;> simp [hk, hb, hm, hsame]

end Store

/-! ## Whole runs -/

/-- On a closed host each discovered request has its descriptor. -/
theorem Host.Closed.exists_answered {h : Host} (hc : h.Closed) {o : Options} {directive : TypeName}
    (hd : o.directive = .ok directive) {requests : List Request} (hr : h.discover o = .ok requests)
    {schedule : List Nat} {run : Recorded Report} (hrun : perform h o schedule = .ok run) :
    ∃ scopeKind, o.scopeKind = .ok scopeKind ∧ List.Forall₂ (fun r d => d.component = r.component ∧
      (Extractor.task ⟨h, directive, scopeKind, o.warnUnscoped⟩ r).value = .ok d) requests run.value.descriptors := by
  obtain ⟨scopeKind, hs⟩ : ∃ scopeKind, o.scopeKind = .ok scopeKind := by
    obtain ⟨x, -, hx, -⟩ := exists_of_perform_ok hrun
    cases hs : o.scopeKind with
    | error e => simp [Extractor.ofOptions, hd, hs] at hx
    | ok scopeKind => exact ⟨scopeKind, rfl⟩
  refine ⟨scopeKind, hs, ?_⟩
  obtain ⟨run', hrun', hdesc, -⟩ := perform_ok (Extractor.ofOptions_ok h hd hs) hr schedule
  obtain rfl : run' = run := Except.ok.inj (hrun'.symm.trans hrun)
  rw [hdesc]
  refine forall₂_splitOutcomes fun r hmem => ?_
  obtain ⟨el, co, m, hl⟩ := (Host.discovered_of_discover hd hr hmem).exists_leads
  have hv := Extractor.value_task (x := ⟨h, directive, scopeKind, o.warnUnscoped⟩) hc hl
  exact ⟨_, hv, rfl, hv⟩

/-- **No component is discovered twice by accident.** Whatever history of changes has built a store, a request is listed
only at the number of its component. As long as each declaration has a number of its own, this is once for a component
with the directive, once for each marker of the element's type for an element that is a marker type with the directive,
and never otherwise. So the requests are distinct exactly when no component bears two markers of one type that carries
the directive; then no two descriptors of a run come from one element and component. -/
theorem count_discovered (changes : List Store.Change) {o : Options} {directive : TypeName}
    (hd : o.directive = .ok directive) :
    let s := Store.ofChanges changes
    let h := s.host
    ∃ requests, h.discover o = .ok requests ∧
      (∀ r, requests.count r = h.declarationIds.count r.component * (h.requestsOf directive r.component).count r) ∧
      (s.size ≤ UInt32.size →
        (∀ r, requests.count r = h.listings directive r) ∧
        (requests.Nodup ↔ h.MarkedOnce directive) ∧
        ∀ schedule run, perform h o schedule = .ok run → ∃ scopeKind, ∃ answered : List (Request × Descriptor),
          o.scopeKind = .ok scopeKind ∧ answered.map Prod.fst = requests ∧
          answered.map Prod.snd = run.value.descriptors ∧
          (∀ p ∈ answered, p.2.component = p.1.component ∧
            (Extractor.task ⟨h, directive, scopeKind, o.warnUnscoped⟩ p.1).value = .ok p.2) ∧
          (h.MarkedOnce directive → (answered.map fun p => (p.1.element, p.2.component)).Nodup)) := by
  intro s h
  have hsound : s.Sound := Store.sound_ofChanges changes
  have hc : h.Closed := hsound.closed_host
  refine ⟨_, hc.discover_eq hd, fun r => Host.count_flatMap_requestsOf _, fun hsize => ?_⟩
  have hcount : ∀ r, (h.declarationIds.flatMap (h.requestsOf directive)).count r = h.listings directive r := by
    intro r
    rw [Host.count_flatMap_requestsOf, hsound.count_requestsOf hsize]
    by_cases hlisted : r.component ∈ h.declarationIds
    · rw [List.count_eq_one_of_mem (hsound.nodup_declarationIds hsize) hlisted, Nat.one_mul]
    · -- nothing is known under a number that is not listed
      have hnone : h.listings directive r = 0 := by
        unfold Host.listings
        rw [hc.declaration_of_not_listed hlisted]
        cases h.declaration r.element <;> rfl
      rw [hnone, Nat.mul_zero]
  have hnodup : (h.declarationIds.flatMap (h.requestsOf directive)).Nodup ↔ h.MarkedOnce directive := by
    rw [List.nodup_iff_count_le_one, ← Host.listings_le_one_iff]
    simp only [hcount]
  refine ⟨hcount, hnodup, fun schedule run hrun => ?_⟩
  obtain ⟨scopeKind, hs, hall⟩ := hc.exists_answered hd (hc.discover_eq hd) hrun
  have hfst := List.map_fst_zip (Nat.le_of_eq hall.length_eq)
  obtain ⟨-, hzip⟩ := List.forall₂_iff_zip.1 hall
  refine ⟨scopeKind, _, hs, hfst, List.map_snd_zip (Nat.le_of_eq hall.length_eq.symm), fun p hp => hzip hp,
    fun honce => ?_⟩
  have hdistinct : ((List.zip _ run.value.descriptors).map Prod.fst).Nodup := hfst.symm ▸ hnodup.2 honce
  refine (List.Nodup.of_map _ hdistinct).map_on fun p hp q hq hpq => ?_
  obtain ⟨helement, hcomponent⟩ := Prod.mk.inj hpq
  rw [(hzip hp).1, (hzip hq).1] at hcomponent
  exact List.inj_on_of_nodup_map hdistinct hp hq (congrArg₂ Request.mk helement hcomponent)

/-- A component with two directives and one marker of a type that carries the directive gives two distinct requests,
although the type was declared again and made a scope. Another marker of this type repeats one of them. -/
theorem count_discovered_repeated :
    let directive : TypeName := ⟨"autodagger.AutoComponent", by decide⟩
    let shared : Marker := .plain ⟨"demo.Shared", by decide⟩
    let changes : List Store.Change := [.declare "demo.Shared" .markerType, .annotate ⟨0⟩ (.plain directive),
      .declare "demo.App" .classType, .annotate ⟨1⟩ (.plain directive), .annotate ⟨1⟩ shared,
      .declare " demo.Shared" .interfaceType, .scopeMarker "demo.Shared" ⟨"javax.inject.Scope", by decide⟩,
      .annotate ⟨1⟩ (.plain directive)]
    let once := (Store.ofChanges changes).host
    let twice := (Store.ofChanges (changes ++ [.annotate ⟨1⟩ shared])).host
    Options.default.directive = .ok directive ∧ (Store.ofChanges changes).size ≤ UInt32.size ∧
    once.MarkedOnce directive ∧ once.discover .default = .ok [.direct ⟨1⟩, .indirect ⟨0⟩ ⟨1⟩] ∧
    (∃ run, perform once .default [] = .ok run ∧ ∃ answered : List (Request × Descriptor),
      answered.map Prod.snd = run.value.descriptors ∧ answered.map Prod.fst = [.direct ⟨1⟩, .indirect ⟨0⟩ ⟨1⟩] ∧
      (answered.map fun p => (p.1.element, p.2.component)).Nodup) ∧
    ¬twice.MarkedOnce directive ∧ twice.listings directive (.indirect ⟨0⟩ ⟨1⟩) = 2 := by
  intro directive shared changes once twice
  have hsize : (Store.ofChanges changes).size ≤ UInt32.size := by decide
  have hsize' : (Store.ofChanges (changes ++ [.annotate ⟨1⟩ shared])).size ≤ UInt32.size := by decide
  have hfound : once.discover .default = .ok [.direct ⟨1⟩, .indirect ⟨0⟩ ⟨1⟩] := by decide
  have hfound' : twice.discover .default = .ok [.direct ⟨1⟩, .indirect ⟨0⟩ ⟨1⟩, .indirect ⟨0⟩ ⟨1⟩] := by decide
  obtain ⟨requests, hr, -, hcounts⟩ := count_discovered changes Options.directive_default
  obtain rfl := Except.ok.inj (hr.symm.trans hfound)
  obtain ⟨-, hnodup, hanswered⟩ := hcounts hsize
  obtain ⟨requests', hr', -, hcounts'⟩ :=
    count_discovered (changes ++ [.annotate ⟨1⟩ shared]) Options.directive_default
  obtain rfl := Except.ok.inj (hr'.symm.trans hfound')
  obtain ⟨hcount', hnodup', -⟩ := hcounts' hsize'
  have honce : once.MarkedOnce directive := hnodup.1 (by decide)
  refine ⟨Options.directive_default, hsize, honce, hfound, ?_, fun hnot => absurd (hnodup'.2 hnot) (by decide),
    (hcount' _).symm.trans (by decide)⟩
  obtain ⟨run, hrun, -⟩ :=
    perform_ok (Extractor.ofOptions_ok once Options.directive_default Options.scopeKind_default) hfound []
  obtain ⟨scopeKind, answered, -, hfst, hsnd, -, hdistinct⟩ := hanswered [] run hrun
  exact ⟨run, hrun, answered, hsnd, hfst, hdistinct honce⟩

/-- A component with the directive and a crowd of as many declarations as there are numbers. The last one shares the
number of the component, whose request is to be listed once. It is discovered twice, and gets two descriptors. -/
theorem count_discovered_used_up :
    let directive : TypeName := ⟨"autodagger.AutoComponent", by decide⟩
    let changes : List Store.Change :=
      [.declare "demo.App" .classType, .annotate ⟨0⟩ (.plain directive)] ++ Store.crowd UInt32.size
    let s := Store.ofChanges changes
    Options.default.directive = .ok directive ∧ s.size = UInt32.size + 1 ∧
    s.host.listings directive (.direct ⟨0⟩) = 1 ∧ s.host.MarkedOnce directive ∧
    s.host.discover .default = .ok [.direct ⟨0⟩, .direct ⟨0⟩] ∧
    ∃ run, perform s.host .default [] = .ok run ∧ run.value.descriptors.map (·.component) = [⟨0⟩, ⟨0⟩] := by
  intro directive changes s
  let first : List Store.Change := [.declare "demo.App" .classType, .annotate ⟨0⟩ (.plain directive)]
  let app : Declaration := ⟨⟨0⟩, ⟨"demo.App", by decide⟩, .classType, [.plain directive]⟩
  have hdotted : ∀ name ∈ (Store.ofChanges first).names, '.' ∈ name.text.toList := by decide
  have hfirst : (Store.ofChanges first).size = 1 := rfl
  have halone : (Store.ofChanges first).Alone directive ⟨0⟩ app := ⟨rfl, by decide, by decide, by decide⟩
  have hsize := Store.size_crowd hdotted UInt32.size
  have hfound := Store.discover_crowd hdotted Options.directive_default halone UInt32.size
  have hknown := Store.declaration_crowd_of_ok hdotted UInt32.size halone.known
  have hclass : ∀ {id d}, (Store.ofChanges (first ++ Store.crowd UInt32.size)).host.declaration id = .ok d →
      d.kind = .classType := by
    intro id d hd
    rcases Store.declaration_crowd hdotted hd with hd | ⟨hk, -⟩
    · obtain rfl : d = app := List.mem_singleton.1 (Store.mem_of_declaration hd)
      rfl
    · exact hk
  have hs : Store.ofChanges (first ++ Store.crowd UInt32.size) = s := rfl
  rw [hfirst] at hfound hsize
  rw [hs] at hsize hfound hknown hclass
  replace hfound : s.host.discover .default = .ok [.direct ⟨0⟩, .direct ⟨0⟩] := hfound.trans (by decide)
  refine ⟨Options.directive_default, hsize.trans (Nat.add_comm ..), ?_, ?_, hfound, ?_⟩
  · exact Host.listings_direct hknown halone.notMarkerType halone.carries
  · intro component co carrier el _ _ hel hek _
    cases (hclass hel).symm.trans hek
  · obtain ⟨run, hrun, -⟩ :=
      perform_ok (Extractor.ofOptions_ok s.host Options.directive_default Options.scopeKind_default) hfound []
    obtain ⟨scopeKind, -, hanswered⟩ :=
      (Store.sound_ofChanges changes).closed_host.exists_answered Options.directive_default hfound hrun
    refine ⟨run, hrun, ?_⟩
    generalize run.value.descriptors = ds at hanswered ⊢
    obtain _ | ⟨⟨hfst, -⟩, _ | ⟨⟨hsnd, -⟩, _ | _⟩⟩ := hanswered
    rw [List.map_cons, List.map_cons, hfst, hsnd]
    rfl

end ComponentDirective
