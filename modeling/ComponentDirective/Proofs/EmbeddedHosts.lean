import ComponentDirective.Proofs.ClosedHosts

/-!
# Hosts inside other hosts

A host stands inside another one when the other knows all of its declarations, under numbers of its own and perhaps with
further markers behind theirs. These markers have to be idle: they are neither directives nor scope annotations, and
neither of the two is on the declarations of their types (`Host.Embeds`). Extraction sees neither the numbers nor the
idle markers, so each of its functions answers the same in both hosts, up to the numbers (`Embeds.requestsOf_rename`,
`Embeds.extract_rename`), and a whole run does not tell the hosts apart when they use the same numbers
(`Embeds.perform_eq`). In particular a run on a closed host asks for nothing that the host does not know
(`Closed.perform_of_extends`).
-/

namespace ComponentDirective

/-! ## Other numbers -/

/-- The request under other numbers. -/
def Request.rename (f : DeclId → DeclId) (r : Request) : Request := ⟨f r.element, f r.component⟩

/-- The descriptor with another number for its component. -/
def Descriptor.rename (f : DeclId → DeclId) (d : Descriptor) : Descriptor := { d with component := f d.component }

/-- The outcome with another number in its descriptor. -/
def Extractor.Outcome.rename (f : DeclId → DeclId) (o : Extractor.Outcome) : Extractor.Outcome :=
  o.map (Descriptor.rename f)

@[simp] theorem Request.rename_id (r : Request) : r.rename id = r := rfl

@[simp] theorem Extractor.Outcome.rename_id (o : Extractor.Outcome) : Outcome.rename id o = o := by
  cases o <;> rfl

namespace Host

/-! ## Idle markers -/

section Idle

variable (h : Host) (directive scopeKind : TypeName)

/-- A type that makes neither a carrier nor a scope of a marker: neither the directive nor the scope annotation is on
the declaration that declares it, if there is one. -/
def Plain (type : TypeName) : Prop :=
  ∀ id, h.declarationOf type = some id →
    ∃ d, h.declaration id = .ok d ∧ d.bears directive = false ∧ d.bears scopeKind = false

/-- A marker that says nothing to extraction. -/
structure Idle (m : Marker) : Prop where
  ne_directive : m.type ≠ directive
  ne_scopeKind : m.type ≠ scopeKind
  plain : h.Plain directive scopeKind m.type

variable {h directive scopeKind}

theorem Plain.definesScope {type : TypeName} (hp : h.Plain directive scopeKind type) :
    h.definesScope type scopeKind = .ok false := by
  unfold Host.definesScope
  cases ht : h.declarationOf type with
  | none => rfl
  | some id =>
    obtain ⟨d, hd, -, hb⟩ := hp id ht
    simp only [hd, hb]

theorem Plain.carrier?_eq_none {m : Marker} (hp : h.Plain directive scopeKind m.type) :
    h.carrier? directive m = none := by
  unfold carrier?
  cases hm : h.declarationOf m.type with
  | none => rfl
  | some id =>
    obtain ⟨d, hd, hb, -⟩ := hp id hm
    simp [hd, hb]

/-- No scope is among idle markers. -/
theorem markedScopes_of_idle : ∀ {ms : List Marker}, (∀ m ∈ ms, h.Idle directive scopeKind m) →
    h.markedScopes scopeKind ms = pure (.ok [])
  | [], _ => rfl
  | m :: ms, hms => by
    rw [markedScopes, (hms m List.mem_cons_self).plain.definesScope]
    exact markedScopes_of_idle fun m' hm' => hms m' (List.mem_cons_of_mem _ hm')

/-- The declaration `d` with idle markers behind its own, perhaps under another number. -/
structure Pads (h : Host) (directive scopeKind : TypeName) (d padded : Declaration) : Prop where
  name : padded.name = d.name
  kind : padded.kind = d.kind
  markers : ∃ extra, padded.markers = d.markers ++ extra ∧ ∀ m ∈ extra, h.Idle directive scopeKind m

namespace Pads

theorem refl (h : Host) (directive scopeKind : TypeName) (d : Declaration) : h.Pads directive scopeKind d d :=
  ⟨rfl, rfl, [], (List.append_nil _).symm, nofun⟩

variable {d padded : Declaration} (hp : h.Pads directive scopeKind d padded)
include hp

theorem isMarkerType : padded.isMarkerType = d.isMarkerType := by
  rw [Declaration.isMarkerType, hp.kind, Declaration.isMarkerType]

/-- The idle markers are of other types, so a search for the directive or the scope annotation passes them by. -/
theorem find? {type : TypeName} (ht : type = directive ∨ type = scopeKind) : padded.find? type = d.find? type := by
  obtain ⟨extra, hms, hidle⟩ := hp.markers
  have hnone : extra.find? (·.isOf type) = none := List.find?_eq_none.2 fun m hm hof => by
    have hmt : m.type = type := by simpa [Marker.isOf] using hof
    rcases ht with rfl | rfl
    · exact (hidle m hm).ne_directive hmt
    · exact (hidle m hm).ne_scopeKind hmt
  rw [Declaration.find?, hms, List.find?_append, hnone, Option.or_none, Declaration.find?]

theorem bears {type : TypeName} (ht : type = directive ∨ type = scopeKind) : padded.bears type = d.bears type := by
  rw [Declaration.bears, hp.find? ht, Declaration.bears]

end Pads

end Idle

/-! ## Embeddings -/

/-- The host `h` stands inside `wide`, which knows its declarations under the numbers that `f` says. -/
structure Embeds (directive scopeKind : TypeName) (f : DeclId → DeclId) (h wide : Host) : Prop where
  known : ∀ {id : DeclId} {d : Declaration}, h.declaration id = .ok d →
    ∃ padded, wide.declaration (f id) = .ok padded ∧ wide.Pads directive scopeKind d padded
  declared : ∀ {type : TypeName} {id : DeclId}, h.declarationOf type = some id →
    wide.declarationOf type = some (f id)
  /-- What only the wide host declares makes no carrier and no scope. -/
  undeclared : ∀ {type : TypeName}, h.declarationOf type = none → wide.Plain directive scopeKind type
  injective : ∀ {i j : DeclId}, i ∈ h.declarationIds → j ∈ h.declarationIds → f i = f j → i = j

namespace Embeds

variable {h wide : Host} {directive scopeKind : TypeName} {f : DeclId → DeclId}
  (he : h.Embeds directive scopeKind f wide) (hc : h.Closed)
include he hc

theorem exists_of_listed {id : DeclId} (hid : id ∈ h.declarationIds) : ∃ d padded,
    h.declaration id = .ok d ∧ wide.declaration (f id) = .ok padded ∧ wide.Pads directive scopeKind d padded := by
  obtain ⟨d, hd⟩ := hc.listed.1 hid
  obtain ⟨padded, hp, hpads⟩ := he.known hd
  exact ⟨d, padded, hd, hp, hpads⟩

theorem exists_of_declared {type : TypeName} {id : DeclId} (ht : h.declarationOf type = some id) : ∃ d padded,
    h.declaration id = .ok d ∧ wide.declaration (f id) = .ok padded ∧ wide.Pads directive scopeKind d padded :=
  he.exists_of_listed hc (hc.listed.2 (hc.declared ht))

theorem fault?_eq_none (m : Marker) : wide.fault? m = none := by
  refine wide.fault?_eq_none_iff.2 fun id hid => ?_
  cases hm : h.declarationOf m.type with
  | none =>
    obtain ⟨d, hd, -⟩ := he.undeclared hm id hid
    exact ⟨d, hd⟩
  | some i =>
    obtain ⟨-, padded, -, hp, -⟩ := he.exists_of_declared hc hm
    obtain rfl : f i = id := Option.some.inj ((he.declared hm).symm.trans hid)
    exact ⟨padded, hp⟩

/-! ### Scopes -/

theorem definesScope (type : TypeName) : wide.definesScope type scopeKind = h.definesScope type scopeKind := by
  cases ht : h.declarationOf type with
  | none =>
    rw [(he.undeclared ht).definesScope, Host.definesScope, ht]
  | some id =>
    obtain ⟨d, padded, hd, hp, hpads⟩ := he.exists_of_declared hc ht
    simp only [Host.definesScope, ht, he.declared ht, hd, hp, hpads.bears (.inr rfl)]

theorem markedScopes_append {extra : List Marker} (hidle : ∀ m ∈ extra, wide.Idle directive scopeKind m) :
    ∀ ms : List Marker, wide.markedScopes scopeKind (ms ++ extra) = h.markedScopes scopeKind ms
  | [] => markedScopes_of_idle hidle
  | m :: ms => by
    rw [List.cons_append, markedScopes, markedScopes, he.definesScope hc, markedScopes_append hidle ms]

theorem scopeOn {id : DeclId} (hid : id ∈ h.declarationIds) :
    wide.scopeOn scopeKind (f id) = h.scopeOn scopeKind id := by
  obtain ⟨d, padded, hd, hp, hpads⟩ := he.exists_of_listed hc hid
  obtain ⟨extra, hms, hidle⟩ := hpads.markers
  simp only [Host.scopeOn, hd, hp, hms, hpads.name, he.markedScopes_append hc hidle]

section Requested

variable {r : Request} (hel : r.element ∈ h.declarationIds) (hco : r.component ∈ h.declarationIds)
include hel hco

/-- The search compares the two numbers, so they have to be told apart in both hosts. -/
theorem scope_rename : wide.scope scopeKind (r.rename f).element (r.rename f).component =
    h.scope scopeKind r.element r.component := by
  have hiff : f r.element = f r.component ↔ r.element = r.component :=
    ⟨he.injective hel hco, congrArg f⟩
  simp only [Host.scope, Request.rename, he.scopeOn hc hel, he.scopeOn hc hco, hiff]

/-! ### Extraction -/

/-- **Extraction sees neither numbers nor idle markers.** -/
theorem extract_rename (warn : Bool) (site : String) :
    Extractor.extract ⟨wide, directive, scopeKind, warn⟩ (r.rename f) site =
      Extractor.Outcome.rename f <$> Extractor.extract ⟨h, directive, scopeKind, warn⟩ r site := by
  obtain ⟨co, co', hcd, hcp, hcpads⟩ := he.exists_of_listed hc hco
  obtain ⟨el, el', hed, hep, hepads⟩ := he.exists_of_listed hc hel
  have hattempt : Extractor.attempt ⟨wide, directive, scopeKind, warn⟩ (r.rename f) site =
      Extractor.Outcome.rename f <$> Extractor.attempt ⟨h, directive, scopeKind, warn⟩ r site := by
    have hcp' : wide.declaration (r.rename f).component = .ok co' := hcp
    have hep' : wide.declaration (r.rename f).element = .ok el' := hep
    simp only [Extractor.attempt, hcd, hed, hcp', hep', hepads.find? (.inl rfl), hepads.name]
    cases el.find? directive with
    | none => rfl
    | some m =>
      simp only [Extractor.readDirective, he.scope_rename hc hel hco, map_bind]
      refine bind_congr fun settings => bind_congr fun _ => bind_congr fun found => ?_
      cases found with
      | error e => rfl
      | ok scope =>
        have hof : Descriptor.ofSettings co' (r.rename f).component settings scope =
            (Descriptor.ofSettings co r.component settings scope).rename f := by
          rw [Descriptor.ofSettings, hcpads.name]
          rfl
        simp only [hof, hcpads.name, map_bind]
        rfl
  rw [Extractor.extract, Extractor.extract, hattempt, map_bind, bind_map_left]
  refine bind_congr fun outcome => ?_
  cases outcome <;> rfl

theorem task_rename (warn : Bool) : Extractor.task ⟨wide, directive, scopeKind, warn⟩ (r.rename f) =
    Extractor.Outcome.rename f <$> Extractor.task ⟨h, directive, scopeKind, warn⟩ r := by
  obtain ⟨co, co', hcd, hcp, hcpads⟩ := he.exists_of_listed hc hco
  have hsite : wide.site (r.rename f).component = h.site r.component := by
    have hcp' : wide.declaration (r.rename f).component = .ok co' := hcp
    simp only [site, hcd, hcp', hcpads.name]
  rw [Extractor.task, Extractor.task, he.extract_rename hc hel hco, hsite]

end Requested

/-! ### Discovery -/

theorem carrier?_eq (m : Marker) : wide.carrier? directive m = (h.carrier? directive m).map f := by
  cases hm : h.declarationOf m.type with
  | none =>
    rw [(he.undeclared hm).carrier?_eq_none, carrier?, hm]
    rfl
  | some id =>
    obtain ⟨d, padded, hd, hp, hpads⟩ := he.exists_of_declared hc hm
    simp only [carrier?, hm, he.declared hm, hd, hp, hpads.isMarkerType, hpads.bears (.inl rfl)]
    split <;> rfl

/-- A declaration gives the same requests in both hosts. -/
theorem requestsOf_rename {id : DeclId} (hid : id ∈ h.declarationIds) :
    wide.requestsOf directive (f id) = (h.requestsOf directive id).map (Request.rename f) := by
  obtain ⟨d, padded, hd, hp, hpads⟩ := he.exists_of_listed hc hid
  obtain ⟨extra, hms, hidle⟩ := hpads.markers
  have hextra : (extra.filterMap fun m => (wide.carrier? directive m).map (Request.indirect · (f id))) = [] :=
    List.filterMap_eq_nil_iff.2 fun m hm => by rw [(hidle m hm).plain.carrier?_eq_none, Option.map_none]
  have hown : ∀ m : Marker, (wide.carrier? directive m).map (Request.indirect · (f id)) =
      ((h.carrier? directive m).map (Request.indirect · id)).map (Request.rename f) := fun m => by
    rw [he.carrier?_eq hc, Option.map_map, Option.map_map]
    rfl
  simp only [requestsOf, hd, hp, hms, hpads.isMarkerType, hpads.bears (.inl rfl), List.filterMap_append, hextra,
    List.append_nil]
  simp only [hown]
  split
  · rfl
  · rw [List.map_append, List.map_filterMap]
    congr 1
    split <;> rfl

/-- No declaration that both hosts know halts discovery. -/
theorem halt?_eq_none {id : DeclId} (hid : id ∈ h.declarationIds) : wide.halt? (f id) = none := by
  obtain ⟨-, padded, -, hp, -⟩ := he.exists_of_listed hc hid
  exact Host.halt?_eq_none hp (List.findSome?_eq_none_iff.2 fun m _ => he.fault?_eq_none hc m)

end Embeds

/-! ## Whole runs under the same numbers -/

namespace Embeds

variable {h wide : Host} {directive scopeKind : TypeName} (he : h.Embeds directive scopeKind id wide) (hc : h.Closed)
include he hc

theorem flatMap_requestsOf :
    h.declarationIds.flatMap (wide.requestsOf directive) = h.declarationIds.flatMap (h.requestsOf directive) :=
  List.flatMap_congr fun i hi => by
    have hsame := he.requestsOf_rename hc hi
    rwa [funext Request.rename_id, List.map_id'] at hsame

/-- Discovery does not see further declarations that give no request. -/
theorem discover_eq (hcw : wide.Closed) {new : List DeclId} (hids : wide.declarationIds = h.declarationIds ++ new)
    (hnew : ∀ id ∈ new, wide.requestsOf directive id = []) {o : Options} (hd : o.directive = .ok directive) :
    wide.discover o = h.discover o := by
  rw [hcw.discover_eq hd, hc.discover_eq hd, hids, List.flatMap_append, List.flatMap_eq_nil_iff.2 hnew,
    List.append_nil, he.flatMap_requestsOf hc]

/-- A whole run does not see what is idle. -/
theorem perform_eq {o : Options} (hd : o.directive = .ok directive) (hs : o.scopeKind = .ok scopeKind)
    (hdisc : wide.discover o = h.discover o) (schedule : List Nat) :
    perform wide o schedule = perform h o schedule := by
  obtain ⟨requests, hr⟩ := hc.exists_discover hd
  refine perform_congr (Extractor.ofOptions_ok h hd hs) (Extractor.ofOptions_ok wide hd hs) hr (hdisc.trans hr)
    (fun r hmem => ?_) schedule
  obtain ⟨⟨co, hco, -⟩, el, hel, -⟩ := discovered_of_discover hd hr hmem
  have htask := he.task_rename hc (hc.listed.2 ⟨el, hel⟩) (hc.listed.2 ⟨co, hco⟩) o.warnUnscoped
  rw [Request.rename_id] at htask
  rw [htask]
  exact Recorded.ext (Extractor.Outcome.rename_id _) (Recorded.events_map ..)

end Embeds

/-! ## Hosts that answer more -/

/-- A host that answers as another one does, and may answer where the other one fails. -/
structure Extends (wide h : Host) : Prop where
  declaration : ∀ {id : DeclId} {d : Declaration}, h.declaration id = .ok d → wide.declaration id = .ok d
  declarationOf : wide.declarationOf = h.declarationOf
  declarationIds : wide.declarationIds = h.declarationIds

/-- A host that answers more knows the same declarations under the same numbers. -/
theorem Extends.embeds {h wide : Host} (hw : wide.Extends h) (directive scopeKind : TypeName) :
    h.Embeds directive scopeKind id wide where
  known hd := ⟨_, hw.declaration hd, .refl ..⟩
  declared ht := by rw [hw.declarationOf, ht, id_eq]
  undeclared ht id hid := by
    rw [hw.declarationOf, ht] at hid
    cases hid
  injective _ _ hij := hij

namespace Closed

variable {h wide : Host} (hc : h.Closed) (hw : wide.Extends h)
include hc hw

theorem discover_of_extends (o : Options) : wide.discover o = h.discover o := by
  cases hd : o.directive with
  | error e => simp only [discover, hd]
  | ok directive =>
    -- any name will do for the scope annotation, which discovery does not ask for
    have he := hw.embeds directive directive
    rw [Host.discover_eq hd, hw.declarationIds, hc.discover_eq hd, ← he.flatMap_requestsOf hc]
    exact requestsForAll_of_halt fun _ hid => he.halt?_eq_none hc hid

/-- **A whole run on a closed host asks for nothing that the host does not know.** -/
theorem perform_of_extends {o : Options} {directive scopeKind : TypeName} (hd : o.directive = .ok directive)
    (hs : o.scopeKind = .ok scopeKind) (schedule : List Nat) : perform wide o schedule = perform h o schedule :=
  (hw.embeds directive scopeKind).perform_eq hc hd hs (hc.discover_of_extends hw o) schedule

end Closed

end Host

end ComponentDirective
