import ComponentDirective.Proofs.UsedUpNumbers

/-!
# The order of declarations

When the same names are declared in another order, their declarations get other numbers. `Store.renumber` leads from the
numbers of one store to those of another by the names, and between stores with the same contents it is a bijection
(`SameContents.renumbers`) that embeds the host of the one into that of the other (`SameContents.embeds`). So
extraction differs in nothing but the numbers and the order of the requests, and those of one component stay in order
(`perform_of_reordered`). When numbers are given twice, the order decides who shares a number, and there is no such
bijection (`perform_of_reordered_used_up`).
-/

namespace ComponentDirective

/-! ## Outcomes under other numbers -/

/-- The order of the requests is that of descriptors and failures. -/
theorem splitOutcomes_perm {outcomes outcomes' : List (Request × Extractor.Outcome)} (hp : outcomes.Perm outcomes') :
    (splitOutcomes outcomes).1.Perm (splitOutcomes outcomes').1 ∧
      (splitOutcomes outcomes).2.Perm (splitOutcomes outcomes').2 := by
  rw [splitOutcomes_eq, splitOutcomes_eq]
  exact ⟨hp.filterMap _, hp.filterMap _⟩

theorem splitOutcomes_rename (f : DeclId → DeclId) : ∀ outcomes : List (Request × Extractor.Outcome),
    splitOutcomes (outcomes.map fun a => (a.1.rename f, a.2.rename f)) =
      ((splitOutcomes outcomes).1.map (Descriptor.rename f),
        (splitOutcomes outcomes).2.map fun a => (a.1.rename f, a.2))
  | [] => rfl
  | (r, .ok d) :: rest => by
    change splitOutcomes ((r.rename f, .ok (d.rename f)) :: rest.map _) = _
    rw [splitOutcomes, splitOutcomes_rename f rest]
    rfl
  | (r, .error e) :: rest => by
    change splitOutcomes ((r.rename f, .error e) :: rest.map _) = _
    rw [splitOutcomes, splitOutcomes_rename f rest]
    rfl

/-- The report `b` is the report `a` under other numbers and in another order. -/
structure Report.Renumbered (f : DeclId → DeclId) (a b : Report) : Prop where
  descriptors : b.descriptors.Perm (a.descriptors.map (Descriptor.rename f))
  failures : b.failures.Perm (a.failures.map fun failure => (failure.1.rename f, failure.2))
  diagnostics : b.diagnostics.Perm a.diagnostics

namespace Host

/-! ## The requests of one component -/

theorem component_of_mem_requestsOf {h : Host} {directive : TypeName} {id : DeclId} {r : Request}
    (hr : r ∈ h.requestsOf directive id) : r.component = id := by
  unfold requestsOf at hr
  split at hr
  · cases hr
  · split at hr
    · cases hr
    · rcases List.mem_append.1 hr with hr | hr
      · split at hr
        · obtain rfl := List.mem_singleton.1 hr
          rfl
        · cases hr
      · obtain ⟨m, -, hm⟩ := List.mem_filterMap.1 hr
        obtain ⟨carrier, -, rfl⟩ := Option.map_eq_some_iff.1 hm
        rfl

/-- Among the requests of declarations that are listed once, those of one component are what it gives. -/
theorem filter_component (h : Host) (directive : TypeName) {id : DeclId} : ∀ {ids : List DeclId}, ids.Nodup → id ∈ ids →
    (ids.flatMap (h.requestsOf directive)).filter (·.component = id) = h.requestsOf directive id
  | i :: ids, hnodup, hid => by
    obtain ⟨hout, hnodup⟩ := List.nodup_cons.1 hnodup
    rw [List.flatMap_cons, List.filter_append]
    by_cases hi : id = i
    · subst hi
      have hown : (h.requestsOf directive id).filter (·.component = id) = h.requestsOf directive id :=
        List.filter_eq_self.2 fun r hr => decide_eq_true (component_of_mem_requestsOf hr)
      have hothers : (ids.flatMap (h.requestsOf directive)).filter (·.component = id) = [] := by
        refine List.filter_eq_nil_iff.2 fun r hr hcomp => ?_
        obtain ⟨j, hj, hrj⟩ := List.mem_flatMap.1 hr
        rw [component_of_mem_requestsOf hrj] at hcomp
        exact hout (of_decide_eq_true hcomp ▸ hj)
      rw [hown, hothers, List.append_nil]
    · have hfirst : (h.requestsOf directive i).filter (·.component = id) = [] :=
        List.filter_eq_nil_iff.2 fun r hr hcomp => by
          rw [component_of_mem_requestsOf hr] at hcomp
          exact hi (of_decide_eq_true hcomp).symm
      rw [hfirst, List.nil_append]
      exact filter_component h directive hnodup (List.mem_of_ne_of_mem hi hid)

/-! ## Runs on hosts with other numbers -/

section Renumbered

variable {h wide : Host} {directive scopeKind : TypeName} {f : DeclId → DeclId} {o : Options}
  (he : h.Embeds directive scopeKind f wide) (hc : h.Closed) (hcw : wide.Closed)
  (hids : (h.declarationIds.map f).Perm wide.declarationIds) (hd : o.directive = .ok directive)
include he hc hcw hids hd

/-- Discovery finds the same requests, in the order of the other numbers. -/
theorem Embeds.exists_discover : ∃ requests requests', h.discover o = .ok requests ∧ wide.discover o = .ok requests' ∧
    requests'.Perm (requests.map (Request.rename f)) ∧
    (wide.declarationIds.Nodup → ∀ id ∈ h.declarationIds, requests'.filter (·.component = f id) =
      (requests.filter (·.component = id)).map (Request.rename f)) := by
  refine ⟨_, _, hc.discover_eq hd, hcw.discover_eq hd, ?_, fun hnodup id hid => ?_⟩
  · refine (hids.symm.flatMap_right _).trans (List.Perm.of_eq ?_)
    rw [List.flatMap_map, List.map_flatMap]
    exact List.flatMap_congr fun id hid => he.requestsOf_rename hc hid
  · have hnodup' : h.declarationIds.Nodup := (hids.nodup_iff.2 hnodup).of_map f
    rw [filter_component wide directive hnodup (hids.subset (List.mem_map_of_mem hid)),
      filter_component h directive hnodup' hid, he.requestsOf_rename hc hid]

/-- Whole runs end with the same report, in the order of the other numbers. -/
theorem Embeds.perform_renumbered (hs : o.scopeKind = .ok scopeKind) (schedule schedule' : List Nat) :
    ∃ run run', perform h o schedule = .ok run ∧ perform wide o schedule' = .ok run' ∧
      run.value.Renumbered f run'.value := by
  obtain ⟨requests, requests', hr, hr', hperm, -⟩ := he.exists_discover hc hcw hids hd
  obtain ⟨run, hrun, hdesc, hfail, hdiag⟩ := perform_ok (Extractor.ofOptions_ok h hd hs) hr schedule
  obtain ⟨run', hrun', hdesc', hfail', hdiag'⟩ := perform_ok (Extractor.ofOptions_ok wide hd hs) hr' schedule'
  have htask : ∀ r ∈ requests, Extractor.task ⟨wide, directive, scopeKind, o.warnUnscoped⟩ (r.rename f) =
      Extractor.Outcome.rename f <$> Extractor.task ⟨h, directive, scopeKind, o.warnUnscoped⟩ r := by
    intro r hmem
    obtain ⟨⟨co, hco, -⟩, el, hel, -⟩ := discovered_of_discover hd hr hmem
    exact he.task_rename hc (hc.listed.2 ⟨el, hel⟩) (hc.listed.2 ⟨co, hco⟩) _
  have houtcomes : (requests'.map fun r =>
        (r, (Extractor.task ⟨wide, directive, scopeKind, o.warnUnscoped⟩ r).value)).Perm
      ((requests.map fun r => (r, (Extractor.task ⟨h, directive, scopeKind, o.warnUnscoped⟩ r).value)).map
        fun a => (a.1.rename f, a.2.rename f)) := by
    refine (hperm.map _).trans (List.Perm.of_eq ?_)
    rw [List.map_map, List.map_map]
    exact List.map_congr_left fun r hmem => by
      simp only [Function.comp_apply, htask r hmem, Recorded.value_map]
  obtain ⟨hsplit, hsplit'⟩ := splitOutcomes_perm houtcomes
  rw [splitOutcomes_rename, ← hdesc, ← hdesc'] at hsplit
  rw [splitOutcomes_rename, ← hfail, ← hfail'] at hsplit'
  refine ⟨run, run', hrun, hrun', hsplit, hsplit', hdiag'.perm.trans (List.Perm.trans ?_ hdiag.perm.symm)⟩
  refine (hperm.map _).flatten.trans (List.Perm.of_eq (congrArg List.flatten ?_))
  rw [List.map_map]
  exact List.map_congr_left fun r hmem => by
    simp only [Function.comp_apply, htask r hmem, Recorded.diagnostics_map]

end Renumbered

end Host

/-! ## Stores with the same contents -/

/-- Equal in all but the number. -/
structure Declaration.SameContent (d e : Declaration) : Prop where
  name : e.name = d.name
  kind : e.kind = d.kind
  markers : e.markers = d.markers

namespace Store

variable {s t : Store}

/-- The same names are declared, with the same kinds and the same markers, in whatever order. -/
structure SameContents (s t : Store) : Prop where
  forward : ∀ d ∈ s.declarations, ∃ e ∈ t.declarations, d.SameContent e
  backward : ∀ e ∈ t.declarations, ∃ d ∈ s.declarations, d.SameContent e

/-- The number that a store has for the name which another store declares under a number. -/
def renumber (s t : Store) (id : DeclId) : DeclId :=
  match s.get? id with
  | some d => t.numberFor d.name
  | none => id

/-- A bijection from the numbers of one store to those of another one by equal names. -/
structure Renumbers (s t : Store) (f : DeclId → DeclId) : Prop where
  named : ∀ {id d}, s.host.declaration id = .ok d → ∃ e, t.host.declaration (f id) = .ok e ∧ e.name = d.name
  listed : (s.host.declarationIds.map f).Perm t.host.declarationIds
  distinct : t.host.declarationIds.Nodup

namespace SameContents

variable (hst : s.SameContents t) (hs : s.Sound) (ht : t.Sound)
include hst hs ht

theorem size_eq : s.size = t.size := by
  have hnames : s.names.Perm t.names := by
    refine (List.perm_ext_iff_of_nodup hs.nodup_names ht.nodup_names).2 fun name => ?_
    constructor
    · intro hname
      obtain ⟨d, hd, rfl⟩ := List.mem_map.1 hname
      obtain ⟨e, he, hsame⟩ := hst.forward d hd
      exact List.mem_map.2 ⟨e, he, hsame.name⟩
    · intro hname
      obtain ⟨e, he, rfl⟩ := List.mem_map.1 hname
      obtain ⟨d, hd, hsame⟩ := hst.backward e he
      exact List.mem_map.2 ⟨d, hd, hsame.name.symm⟩
  simpa [names, size] using hnames.length_eq

variable (hsize : s.size ≤ UInt32.size)
include hsize

theorem size_le : t.size ≤ UInt32.size := hst.size_eq hs ht ▸ hsize

/-- The declaration of the new number has the same content. -/
theorem declaration_renumber {id : DeclId} {d : Declaration} (hd : s.host.declaration id = .ok d) :
    ∃ e, t.host.declaration (s.renumber t id) = .ok e ∧ d.SameContent e := by
  have hsize' := hst.size_le hs ht hsize
  have hget : s.get? id = some d := declaration_eq_ok_iff.1 hd
  obtain ⟨e, he, hsame⟩ := hst.forward d (List.mem_of_getElem? hget)
  have hknown := ht.declaration_id hsize' he
  have hnumber : t.idOf? d.name = some e.id := (ht.declarationOf_eq_some_iff hsize').2 ⟨e, hknown, hsame.name⟩
  have hrenumber : s.renumber t id = e.id := by
    simp only [renumber, hget, numberFor, hnumber, Option.getD_some]
  exact ⟨e, hrenumber ▸ hknown, hsame⟩

/-- Every number of the other store is the number of a name that this store declares. -/
theorem exists_renumber {i : DeclId} {e : Declaration} (he : t.host.declaration i = .ok e) :
    ∃ id d, s.host.declaration id = .ok d ∧ d.SameContent e ∧ s.renumber t id = i := by
  obtain ⟨d, hd, hsame⟩ := hst.backward e (mem_of_declaration he)
  have hknown := hs.declaration_id hsize hd
  obtain ⟨e', he', hsame'⟩ := hst.declaration_renumber hs ht hsize hknown
  exact ⟨d.id, d, hknown, hsame, ht.number_eq_of_name he' he (hsame'.name.trans hsame.name.symm)⟩

theorem renumber_injective {i j : DeclId} (hi : i ∈ s.host.declarationIds) (hj : j ∈ s.host.declarationIds)
    (hij : s.renumber t i = s.renumber t j) : i = j := by
  obtain ⟨d, hd⟩ := hs.mem_declarationIds_iff.1 hi
  obtain ⟨d', hd'⟩ := hs.mem_declarationIds_iff.1 hj
  obtain ⟨e, he, hsame⟩ := hst.declaration_renumber hs ht hsize hd
  obtain ⟨e', he', hsame'⟩ := hst.declaration_renumber hs ht hsize hd'
  obtain rfl : e = e' := Except.ok.inj (he.symm.trans (hij ▸ he'))
  exact hs.number_eq_of_name hd hd' (hsame.name.symm.trans hsame'.name)

/-- **Equal names give a bijection of the numbers.** -/
theorem renumbers : s.Renumbers t (s.renumber t) where
  named hd := by
    obtain ⟨e, he, hsame⟩ := hst.declaration_renumber hs ht hsize hd
    exact ⟨e, he, hsame.name⟩
  listed := by
    have hnodup : (s.host.declarationIds.map (s.renumber t)).Nodup :=
      (hs.nodup_declarationIds hsize).map_on fun i hi j hj hij => hst.renumber_injective hs ht hsize hi hj hij
    refine (List.perm_ext_iff_of_nodup hnodup (ht.nodup_declarationIds (hst.size_le hs ht hsize))).2 fun i => ?_
    rw [ht.mem_declarationIds_iff, List.mem_map]
    constructor
    · rintro ⟨id, hid, rfl⟩
      obtain ⟨d, hd⟩ := hs.mem_declarationIds_iff.1 hid
      obtain ⟨e, he, -⟩ := hst.declaration_renumber hs ht hsize hd
      exact ⟨e, he⟩
    · rintro ⟨e, he⟩
      obtain ⟨id, d, hd, -, hid⟩ := hst.exists_renumber hs ht hsize he
      exact ⟨id, hs.mem_declarationIds_iff.2 ⟨d, hd⟩, hid⟩
  distinct := ht.nodup_declarationIds (hst.size_le hs ht hsize)

/-- Under the new numbers, the other store answers as this one does. -/
theorem embeds (directive scopeKind : TypeName) : s.host.Embeds directive scopeKind (s.renumber t) t.host where
  known hd := by
    obtain ⟨e, he, hsame⟩ := hst.declaration_renumber hs ht hsize hd
    exact ⟨e, he, hsame.name, hsame.kind, [], hsame.markers.trans (List.append_nil _).symm, nofun⟩
  declared hid := by
    obtain ⟨d, hd, rfl⟩ := (hs.declarationOf_eq_some_iff hsize).1 hid
    obtain ⟨e, he, hsame⟩ := hst.declaration_renumber hs ht hsize hd
    exact (ht.declarationOf_eq_some_iff (hst.size_le hs ht hsize)).2 ⟨e, he, hsame.name⟩
  undeclared hnone i hi := by
    -- what the other store declares, this store declares too
    obtain ⟨e, he, rfl⟩ := (ht.declarationOf_eq_some_iff (hst.size_le hs ht hsize)).1 hi
    obtain ⟨id, d, hd, hsame, -⟩ := hst.exists_renumber hs ht hsize he
    rw [(hs.declarationOf_eq_some_iff hsize).2 ⟨d, hd, hsame.name.symm⟩] at hnone
    cases hnone
  injective hi hj hij := hst.renumber_injective hs ht hsize hi hj hij

end SameContents

/-- A crowd adds the same contents to both stores. -/
theorem SameContents.crowd {changes changes' : List Change}
    (hnew : ∀ name ∈ (ofChanges changes).names, '.' ∈ name.text.toList)
    (hnew' : ∀ name ∈ (ofChanges changes').names, '.' ∈ name.text.toList)
    (hst : (ofChanges changes).SameContents (ofChanges changes')) (n : Nat) :
    (ofChanges (changes ++ Store.crowd n)).SameContents (ofChanges (changes' ++ Store.crowd n)) where
  forward d hd := by
    rw [declarations_crowd hnew, List.mem_append] at hd
    rw [declarations_crowd hnew']
    rcases hd with hd | hd
    · obtain ⟨e, he, hsame⟩ := hst.forward d hd
      exact ⟨e, List.mem_append_left _ he, hsame⟩
    · obtain ⟨i, hi, rfl⟩ := List.mem_map.1 hd
      exact ⟨_, List.mem_append_right _ (List.mem_map_of_mem hi), rfl, rfl, rfl⟩
  backward e he := by
    rw [declarations_crowd hnew', List.mem_append] at he
    rw [declarations_crowd hnew]
    rcases he with he | he
    · obtain ⟨d, hd, hsame⟩ := hst.backward e he
      exact ⟨d, List.mem_append_left _ hd, hsame⟩
    · obtain ⟨i, hi, rfl⟩ := List.mem_map.1 he
      exact ⟨_, List.mem_append_right _ (List.mem_map_of_mem hi), rfl, rfl, rfl⟩

end Store

/-- **Extraction does not depend on the order of declaration.** Two stores hold the same declarations, in two orders,
and each declaration has a number of its own. Then equal names give a bijection of the numbers. Up to this bijection,
the same requests are discovered, in another order in which those of one component stay as they are; each request, made
up or not, is answered in the same way and writes the same events; and whole runs end with the same report. -/
theorem perform_of_reordered (changes changes' : List Store.Change) {o : Options} {directive scopeKind : TypeName}
    (hd : o.directive = .ok directive) (hs : o.scopeKind = .ok scopeKind)
    (hsize : (Store.ofChanges changes).size ≤ UInt32.size)
    (hsame : (Store.ofChanges changes).SameContents (Store.ofChanges changes')) :
    let s := Store.ofChanges changes
    let t := Store.ofChanges changes'
    let f := s.renumber t
    s.Renumbers t f ∧
    (∃ requests requests', s.host.discover o = .ok requests ∧ t.host.discover o = .ok requests' ∧
      requests'.Perm (requests.map (Request.rename f)) ∧
      ∀ id ∈ s.host.declarationIds, requests'.filter (·.component = f id) =
        (requests.filter (·.component = id)).map (Request.rename f)) ∧
    (∀ r : Request, r.element ∈ s.host.declarationIds → r.component ∈ s.host.declarationIds → ∀ site,
      Extractor.extract ⟨t.host, directive, scopeKind, o.warnUnscoped⟩ (r.rename f) site =
        Extractor.Outcome.rename f <$> Extractor.extract ⟨s.host, directive, scopeKind, o.warnUnscoped⟩ r site) ∧
    ∀ schedule schedule', ∃ run run', perform s.host o schedule = .ok run ∧ perform t.host o schedule' = .ok run' ∧
      run.value.Renumbered f run'.value := by
  intro s t f
  have hsound : s.Sound := Store.sound_ofChanges changes
  have hsound' : t.Sound := Store.sound_ofChanges changes'
  have hrenumbers : s.Renumbers t f := hsame.renumbers hsound hsound' hsize
  have he : s.host.Embeds directive scopeKind f t.host := hsame.embeds hsound hsound' hsize directive scopeKind
  have hc := hsound.closed_host
  have hc' := hsound'.closed_host
  obtain ⟨requests, requests', hr, hr', hperm, hkept⟩ := he.exists_discover hc hc' hrenumbers.listed hd
  exact ⟨hrenumbers, ⟨requests, requests', hr, hr', hperm, hkept hrenumbers.distinct⟩,
    fun r hel hco site => he.extract_rename hc hel hco o.warnUnscoped site,
    he.perform_renumbered hc hc' hrenumbers.listed hd hs⟩

/-- A component and the marker type that speaks for it, in both orders. -/
theorem perform_of_reordered_pair :
    let shared : Marker := .plain ⟨"demo.Shared", by decide⟩
    let directive : Marker := .plain ⟨"autodagger.AutoComponent", by decide⟩
    let s := Store.ofChanges [.declare "demo.App" .classType, .declare "demo.Shared" .markerType,
      .annotate ⟨0⟩ shared, .annotate ⟨1⟩ directive]
    let t := Store.ofChanges [.declare "demo.Shared" .markerType, .annotate ⟨0⟩ directive,
      .declare "demo.App" .classType, .annotate ⟨1⟩ shared]
    s.size ≤ UInt32.size ∧ s.SameContents t ∧ s.host.declarationIds.map (s.renumber t) = [⟨1⟩, ⟨0⟩] ∧
    (∃ requests', t.host.discover .default = .ok requests' ∧ requests'.Perm [.indirect ⟨0⟩ ⟨1⟩]) ∧
    ∃ run run', perform s.host .default [] = .ok run ∧ perform t.host .default [] = .ok run' ∧
      run.value.Renumbered (s.renumber t) run'.value := by
  intro shared directive s t
  have hsize : s.size ≤ UInt32.size := by decide
  have hsame : s.SameContents t := by
    have hs : s.declarations = [⟨⟨0⟩, ⟨"demo.App", by decide⟩, .classType, [shared]⟩,
      ⟨⟨1⟩, ⟨"demo.Shared", by decide⟩, .markerType, [directive]⟩] := rfl
    have ht : t.declarations = [⟨⟨0⟩, ⟨"demo.Shared", by decide⟩, .markerType, [directive]⟩,
      ⟨⟨1⟩, ⟨"demo.App", by decide⟩, .classType, [shared]⟩] := rfl
    constructor
    all_goals
      rw [hs, ht]
      refine List.forall_mem_cons.2 ⟨⟨_, .tail _ (.head _), rfl, rfl, rfl⟩, ?_⟩
      exact List.forall_mem_singleton.2 ⟨_, .head _, rfl, rfl, rfl⟩
  obtain ⟨-, ⟨requests, requests', hr, hr', hperm, -⟩, -, hruns⟩ :=
    perform_of_reordered _ _ Options.directive_default Options.scopeKind_default hsize hsame
  have hfound : s.host.discover .default = .ok [.indirect ⟨1⟩ ⟨0⟩] := by decide
  have hids : s.host.declarationIds.map (s.renumber t) = [⟨1⟩, ⟨0⟩] := by decide
  rw [hfound] at hr
  cases hr
  exact ⟨hsize, hsame, hids, ⟨requests', hr', hperm⟩, hruns [] []⟩

/-- A component with the directive, another declaration, and a crowd: one declaration more than there are numbers. The
last one gets the number of the first. When that is the component, it is discovered twice, and else once. -/
theorem perform_of_reordered_used_up :
    let directive : Marker := .plain ⟨"autodagger.AutoComponent", by decide⟩
    let s := Store.ofChanges ([.declare "demo.App" .classType, .declare "demo.Other" .classType,
      .annotate ⟨0⟩ directive] ++ Store.crowd (UInt32.size - 1))
    let t := Store.ofChanges ([.declare "demo.Other" .classType, .declare "demo.App" .classType,
      .annotate ⟨1⟩ directive] ++ Store.crowd (UInt32.size - 1))
    s.SameContents t ∧ s.size = UInt32.size + 1 ∧
    s.host.discover .default = .ok [.direct ⟨0⟩, .direct ⟨0⟩] ∧ t.host.discover .default = .ok [.direct ⟨1⟩] ∧
    ∀ f, ¬[Request.direct ⟨1⟩].Perm ([Request.direct ⟨0⟩, .direct ⟨0⟩].map (.rename f)) := by
  intro directive s t
  let first : List Store.Change :=
    [.declare "demo.App" .classType, .declare "demo.Other" .classType, .annotate ⟨0⟩ directive]
  let first' : List Store.Change :=
    [.declare "demo.Other" .classType, .declare "demo.App" .classType, .annotate ⟨1⟩ directive]
  have hdotted : ∀ name ∈ (Store.ofChanges first).names, '.' ∈ name.text.toList := by decide
  have hdotted' : ∀ name ∈ (Store.ofChanges first').names, '.' ∈ name.text.toList := by decide
  have hfirst : (Store.ofChanges first).size = 2 := rfl
  have hfirst' : (Store.ofChanges first').size = 2 := rfl
  have halone : (Store.ofChanges first).Alone directive.type ⟨0⟩ ⟨⟨0⟩, ⟨"demo.App", by decide⟩, .classType,
    [directive]⟩ := ⟨rfl, by decide, by decide, by decide⟩
  have halone' : (Store.ofChanges first').Alone directive.type ⟨1⟩ ⟨⟨1⟩, ⟨"demo.App", by decide⟩, .classType,
    [directive]⟩ := ⟨rfl, by decide, by decide, by decide⟩
  have hfound := Store.discover_crowd hdotted Options.directive_default halone
  have hfound' := Store.discover_crowd hdotted' Options.directive_default halone'
  have hsize := Store.size_crowd hdotted (UInt32.size - 1)
  rw [hfirst] at hfound hsize
  rw [hfirst'] at hfound'
  have hsame : (Store.ofChanges first).SameContents (Store.ofChanges first') := by
    have hs : (Store.ofChanges first).declarations = [⟨⟨0⟩, ⟨"demo.App", by decide⟩, .classType, [directive]⟩,
      ⟨⟨1⟩, ⟨"demo.Other", by decide⟩, .classType, []⟩] := rfl
    have ht : (Store.ofChanges first').declarations = [⟨⟨0⟩, ⟨"demo.Other", by decide⟩, .classType, []⟩,
      ⟨⟨1⟩, ⟨"demo.App", by decide⟩, .classType, [directive]⟩] := rfl
    constructor
    all_goals
      rw [hs, ht]
      refine List.forall_mem_cons.2 ⟨⟨_, .tail _ (.head _), rfl, rfl, rfl⟩, ?_⟩
      exact List.forall_mem_singleton.2 ⟨_, .head _, rfl, rfl, rfl⟩
  refine ⟨hsame.crowd hdotted hdotted' _, hsize, (hfound _).trans (by decide), (hfound' _).trans (by decide), ?_⟩
  intro f hperm
  cases hperm.length_eq

end ComponentDirective
