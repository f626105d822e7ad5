import ComponentDirective.Proofs.UsedUpNumbers

/-!
# Changes that do not matter

Some changes of a store say nothing to extraction: declaring a name, under whatever kind, and attaching an idle marker
(`Store.Idle`). As long as there is a number for each new name, the store then knows the same declarations under the
same numbers, with at most an idle marker more (`Store.embeds_push`, `Store.embeds_attach`), so the next run finds
nothing new (`Idle.perform_apply`). By induction the same holds for a list of such changes (`perform_of_idle`). A name
that is declared when all numbers are used up does matter (`perform_of_idle_used_up`).
-/

namespace ComponentDirective

namespace Store

variable {s : Store}

/-- Changes that say nothing to extraction. -/
inductive Idle (directive scopeKind : TypeName) (s : Store) : Change → Prop
  /-- A name is declared. -/
  | declare {text : String} {name : TypeName} (kind : Kind) : TypeName.parse text = .ok name →
    Idle directive scopeKind s (.declare text kind)
  /-- A declaration gets an idle marker. -/
  | annotate {id : DeclId} {m : Marker} : id ∈ s.host.declarationIds → s.host.Idle directive scopeKind m →
    Idle directive scopeKind s (.annotate id m)

/-- Changes one after another, each of which says nothing to extraction when its turn comes. -/
def AllIdle (directive scopeKind : TypeName) : Store → List Change → Prop
  | _, [] => True
  | s, c :: changes => s.Idle directive scopeKind c ∧ AllIdle directive scopeKind (s.apply c).2 changes

/-! ## A new name -/

section Push

variable {name : TypeName} {kind : Kind}

theorem declarationOf_push (type : TypeName) : (s.push name kind).host.declarationOf type =
    if type = name then some (.ofIndex s.size) else s.host.declarationOf type := by
  show ((name, DeclId.ofIndex s.size) :: s.numbers).lookup type = _
  rw [List.lookup_cons]
  by_cases ht : type = name
  · simp [ht]
  · rw [beq_eq_false_iff_ne.2 ht, if_neg ht]
    rfl

theorem declarationIds_push :
    (s.push name kind).host.declarationIds = s.host.declarationIds ++ [.ofIndex s.size] := by
  simp [host, push]

theorem declaration_push {id : DeclId} {d : Declaration} (hd : s.host.declaration id = .ok d) :
    (s.push name kind).host.declaration id = .ok d := by
  rw [declaration_eq_ok_iff] at hd ⊢
  rw [push, List.getElem?_append_left (List.getElem?_eq_some_iff.1 hd).1, hd]

theorem declaration_push_new (hroom : s.size < UInt32.size) :
    (s.push name kind).host.declaration (.ofIndex s.size) = .ok ⟨.ofIndex s.size, name, kind, []⟩ := by
  rw [declaration_eq_ok_iff, DeclId.index_ofIndex hroom, push, size]
  exact List.getElem?_concat_length

/-- A name without markers makes no carrier and no scope, even of markers that bore it before. -/
theorem embeds_push (kind : Kind) (hnew : s.host.declarationOf name = none) (hroom : s.size < UInt32.size)
    (directive scopeKind : TypeName) : s.host.Embeds directive scopeKind id (s.push name kind).host where
  known hd := ⟨_, declaration_push hd, .refl ..⟩
  declared {type i} ht := by
    have hne : type ≠ name := by
      rintro rfl
      rw [hnew] at ht
      cases ht
    rw [declarationOf_push, if_neg hne, ht, id_eq]
  undeclared {type} ht i hi := by
    rw [declarationOf_push] at hi
    split at hi
    · obtain rfl := Option.some.inj hi
      exact ⟨_, declaration_push_new hroom, rfl, rfl⟩
    · rw [ht] at hi
      cases hi
  injective _ _ hij := hij

end Push

/-! ## An idle marker -/

section Attach

variable {m : Marker}

/-- A declaration keeps the markers of another type. -/
theorem bears_attached {d : Declaration} {type : TypeName} (hm : m.type ≠ type) :
    ({ d with markers := d.markers ++ [m] } : Declaration).bears type = d.bears type := by
  have hof : m.isOf type = false := beq_eq_false_iff_ne.2 hm
  simp [Declaration.bears, Declaration.find?, List.find?_append, hof]

theorem declaration_attach (place : DeclId) {i : DeclId} {d : Declaration} (hd : s.host.declaration i = .ok d) :
    (s.attach place m).host.declaration i =
      .ok (if i = place then { d with markers := d.markers ++ [m] } else d) := by
  have hget : s.get? i = some d := declaration_eq_ok_iff.1 hd
  simp only [host, get?_attach, hget, Option.map_some]

variable {directive scopeKind : TypeName} (place : DeclId) (hm : s.host.Idle directive scopeKind m)
include hm

/-- An idle marker makes no other marker matter. -/
theorem plain_attach {type : TypeName} (hp : s.host.Plain directive scopeKind type) :
    (s.attach place m).host.Plain directive scopeKind type := by
  intro i hi
  obtain ⟨d, hd, hdir, hscope⟩ := hp i hi
  refine ⟨_, declaration_attach place hd, ?_⟩
  split
  · exact ⟨(bears_attached hm.ne_directive).trans hdir, (bears_attached hm.ne_scopeKind).trans hscope⟩
  · exact ⟨hdir, hscope⟩

theorem embeds_attach : s.host.Embeds directive scopeKind id (s.attach place m).host where
  known hd := by
    refine ⟨_, declaration_attach place hd, ?_⟩
    split
    · have hidle : (s.attach place m).host.Idle directive scopeKind m :=
        ⟨hm.ne_directive, hm.ne_scopeKind, plain_attach place hm hm.plain⟩
      exact ⟨rfl, rfl, [m], rfl, List.forall_mem_singleton.2 hidle⟩
    · exact .refl ..
  declared ht := ht
  undeclared ht i hi := by
    cases ht.symm.trans hi
  injective _ _ hij := hij

end Attach

/-! ## Runs -/

section Runs

variable {directive scopeKind : TypeName} {o : Options} (hd : o.directive = .ok directive)
  (hs : o.scopeKind = .ok scopeKind)
include hd hs

/-- **An idle change leaves the next run as it is,** if a new name still finds a number. -/
theorem Idle.perform_apply {c : Change} (h : s.Sound) (hc : s.Idle directive scopeKind c)
    (hroom : (s.apply c).2.size ≤ max UInt32.size s.size) :
    (s.apply c).2.host.discover o = s.host.discover o ∧
      ∀ schedule, perform (s.apply c).2.host o schedule = perform s.host o schedule := by
  have hclosed := (sound_apply h c).closed_host
  cases hc with
  | @declare text name kind hp =>
    rw [apply, declare_of_parse hp] at hclosed hroom ⊢
    rcases enter_cases s name kind with ⟨-, -, hsame⟩ | ⟨hnew, hpush⟩
    · rw [hsame]
      exact ⟨rfl, fun _ => rfl⟩
    · simp only [hpush] at hclosed hroom ⊢
      have hfree : s.size < UInt32.size := by
        have hgrown : (s.push name kind).size = s.size + 1 := by simp [push, size]
        omega
      have he := embeds_push kind hnew hfree directive scopeKind
      have hdisc : (s.push name kind).host.discover o = s.host.discover o := by
        refine he.discover_eq h.closed_host hclosed declarationIds_push (fun id hid => ?_) hd
        obtain rfl := List.mem_singleton.1 hid
        simp [Host.requestsOf, declaration_push_new hfree, Declaration.bears, Declaration.find?]
      exact ⟨hdisc, he.perform_eq h.closed_host hd hs hdisc⟩
  | @annotate id m hid hm =>
    rw [apply, annotate_of_lt (h.mem_declarationIds_iff_lt.1 hid)] at hclosed ⊢
    have he := embeds_attach id hm
    have hids : (s.attach id m).host.declarationIds = s.host.declarationIds ++ [] :=
      (map_declarations_attach (fun _ _ => rfl) id m).trans (List.append_nil _).symm
    have hdisc := he.discover_eq h.closed_host hclosed hids (by simp) hd
    exact ⟨hdisc, he.perform_eq h.closed_host hd hs hdisc⟩

/-- Idle changes leave the next run as it is, if all new names still find numbers. -/
theorem AllIdle.perform_eq : ∀ {changes : List Change} {s : Store}, s.Sound → s.AllIdle directive scopeKind changes →
    let s' := changes.foldl (fun s c => (s.apply c).2) s
    s'.size ≤ max UInt32.size s.size →
      s'.host.discover o = s.host.discover o ∧ ∀ schedule, perform s'.host o schedule = perform s.host o schedule
  | [], _, _, _ => fun _ => ⟨rfl, fun _ => rfl⟩
  | c :: changes, s, h, ⟨hc, hall⟩ => by
    intro s' hroom
    -- the store between has at most the declarations of the last one and at least those of the first
    have hgrown : s.size ≤ (s.apply c).2.size := size_le_apply h c
    have hgrown' : (s.apply c).2.size ≤ s'.size := size_le_foldl changes (sound_apply h c)
    obtain ⟨hfirst, hfirstRun⟩ := hc.perform_apply hd hs h (hgrown'.trans hroom)
    obtain ⟨hrest, hrestRun⟩ := AllIdle.perform_eq (sound_apply h c) hall (hroom.trans (max_le_max_left _ hgrown))
    exact ⟨hrest.trans hfirst, fun schedule => (hrestRun schedule).trans (hfirstRun schedule)⟩

end Runs

end Store

/-- **Changes that do not matter.** When a store is changed by declaring names and attaching idle markers, in any order,
the same requests are discovered, in the same order, and a whole run ends with the same report and the same events,
whatever the schedule. Each new name needs a number of its own: in the end there are at most as many declarations as
numbers, or no more than before. -/
theorem perform_of_idle (changes idle : List Store.Change) {o : Options} {directive scopeKind : TypeName}
    (hd : o.directive = .ok directive) (hs : o.scopeKind = .ok scopeKind)
    (hidle : (Store.ofChanges changes).AllIdle directive scopeKind idle)
    (hroom : (Store.ofChanges (changes ++ idle)).size ≤ max UInt32.size (Store.ofChanges changes).size) :
    let h := (Store.ofChanges changes).host
    let h' := (Store.ofChanges (changes ++ idle)).host
    ∃ requests, h.discover o = .ok requests ∧ h'.discover o = .ok requests ∧
      ∀ schedule, ∃ run, perform h o schedule = .ok run ∧ perform h' o schedule = .ok run := by
  intro h h'
  have hsound := Store.sound_ofChanges changes
  obtain ⟨requests, hr⟩ := hsound.closed_host.exists_discover hd
  have hlast : idle.foldl (fun s c => (s.apply c).2) (Store.ofChanges changes) = Store.ofChanges (changes ++ idle) :=
    List.foldl_append.symm
  obtain ⟨hdisc, hruns⟩ := Store.AllIdle.perform_eq hd hs hsound hidle (hlast.symm ▸ hroom)
  rw [hlast] at hdisc hruns
  refine ⟨requests, hr, hdisc.trans hr, fun schedule => ?_⟩
  obtain ⟨run, hrun, -⟩ := perform_ok (Extractor.ofOptions_ok h hd hs) hr schedule
  exact ⟨run, hrun, (hruns schedule).trans hrun⟩

/-- A component bears a marker whose type is declared only afterwards. Then that declaration gets a marker whose type is
not declared at all, and the component another marker of the type. -/
theorem perform_of_idle_declared :
    let directive : TypeName := ⟨"autodagger.AutoComponent", by decide⟩
    let scopeKind : TypeName := ⟨"javax.inject.Scope", by decide⟩
    let shared : TypeName := ⟨"demo.Shared", by decide⟩
    let other : TypeName := ⟨"demo.Other", by decide⟩
    let changes : List Store.Change :=
      [.declare "demo.App" .classType, .annotate ⟨0⟩ (.plain shared), .annotate ⟨0⟩ (.plain directive)]
    let idle : List Store.Change := [.declare "demo.Shared" .markerType, .annotate ⟨1⟩ (.plain other),
      .annotate ⟨0⟩ (.ofWrites shared [("target", .type other)])]
    (Store.ofChanges changes).AllIdle directive scopeKind idle ∧
    (Store.ofChanges (changes ++ idle)).size ≤ max UInt32.size (Store.ofChanges changes).size ∧
    (Store.ofChanges (changes ++ idle)).host.discover .default = .ok [.direct ⟨0⟩] ∧
    ∃ run, perform (Store.ofChanges changes).host .default [] = .ok run ∧
      perform (Store.ofChanges (changes ++ idle)).host .default [] = .ok run := by
  intro directive scopeKind shared other changes idle
  have hidle : (Store.ofChanges changes).AllIdle directive scopeKind idle := by
    have hp : TypeName.parse "demo.Shared" = .ok shared := by decide
    refine ⟨.declare .markerType hp, ?_, ?_, trivial⟩
    · exact .annotate (by decide) ⟨by decide, by decide, nofun⟩
    · refine .annotate (by decide) ⟨by decide, by decide, fun i hi => ?_⟩
      obtain rfl : ⟨1⟩ = i := Option.some.inj (Eq.trans (by decide) hi)
      exact ⟨_, rfl, by decide, by decide⟩
  have hroom : (Store.ofChanges (changes ++ idle)).size ≤ max UInt32.size (Store.ofChanges changes).size := by decide
  obtain ⟨requests, hr, hr', hruns⟩ :=
    perform_of_idle changes idle Options.directive_default Options.scopeKind_default hidle hroom
  have hfound : (Store.ofChanges changes).host.discover .default = .ok [.direct ⟨0⟩] := by decide
  exact ⟨hidle, hroom, hr'.trans (hr.symm.trans hfound), hruns []⟩

/-- A store in which every number is used: a component with the directive and a crowd. One name more is declared. It
gets the number of the component, which is then listed twice and discovered twice. -/
theorem perform_of_idle_used_up :
    let directive : TypeName := ⟨"autodagger.AutoComponent", by decide⟩
    let scopeKind : TypeName := ⟨"javax.inject.Scope", by decide⟩
    let changes : List Store.Change := [.declare "demo.App" .classType, .annotate ⟨0⟩ (.plain directive)] ++
      Store.crowd (UInt32.size - 1)
    let idle : List Store.Change := [Store.joining (UInt32.size - 1)]
    Options.default.directive = .ok directive ∧ Options.default.scopeKind = .ok scopeKind ∧
    (Store.ofChanges changes).AllIdle directive scopeKind idle ∧
    (Store.ofChanges changes).size = UInt32.size ∧ (Store.ofChanges (changes ++ idle)).size = UInt32.size + 1 ∧
    (Store.ofChanges changes).host.discover .default = .ok [.direct ⟨0⟩] ∧
    (Store.ofChanges (changes ++ idle)).host.discover .default = .ok [.direct ⟨0⟩, .direct ⟨0⟩] := by
  intro directive scopeKind changes idle
  let first : List Store.Change := [.declare "demo.App" .classType, .annotate ⟨0⟩ (.plain directive)]
  have hdotted : ∀ name ∈ (Store.ofChanges first).names, '.' ∈ name.text.toList := by decide
  have halone : (Store.ofChanges first).Alone directive ⟨0⟩ ⟨⟨0⟩, ⟨"demo.App", by decide⟩, .classType,
    [.plain directive]⟩ := ⟨rfl, by decide, by decide, by decide⟩
  have hfirst : (Store.ofChanges first).size = 1 := rfl
  have hfound := Store.discover_crowd hdotted Options.directive_default halone
  have hsize := Store.size_crowd hdotted
  rw [hfirst] at hfound hsize
  have hlast : changes ++ idle = first ++ Store.crowd (UInt32.size - 1 + 1) := by
    rw [List.append_assoc, ← Store.crowd_succ]
  refine ⟨Options.directive_default, Options.scopeKind_default, ⟨.declare .classType (TypeName.parse_text _), trivial⟩,
    hsize _, ?_, ?_, ?_⟩
  · rw [hlast]
    exact hsize _
  · exact (hfound (UInt32.size - 1)).trans (by decide)
  · rw [hlast]
    exact (hfound (UInt32.size - 1 + 1)).trans (by decide)

end ComponentDirective
