import ComponentDirective.Discovery
import ComponentDirective.Proofs.ScopeSearch

/-!
# What discovery has looked up

Discovery asks for every listed number and, unless it stands for a marker type, for the types of all markers on it. It
answers the requests of the numbers one after another (`Host.requestsOf`), up to the first look-up that fails
(`Host.halt?`, `Host.requestsForAll_eq`). So a request is only given when these look-ups succeed (`Host.Discovered`,
`Host.discovered_of_discover`). Discovery does not look at the markers of a carrier.
-/

namespace ComponentDirective

namespace Host

variable (h : Host) (directive : TypeName)

/-! ## Carriers -/

/-- The marker type that declares a marker's type and carries the directive. -/
def carrier? (m : Marker) : Option DeclId :=
  match h.declarationOf m.type with
  | none => none
  | some id =>
    match h.declaration id with
    | .error _ => none
    | .ok d => if d.isMarkerType && d.bears directive then some id else none

theorem requestThrough_eq (component : DeclId) (m : Marker) : h.requestThrough directive component m =
    match h.fault? m with
    | some e => .error e
    | none => .ok ((h.carrier? directive m).map (.indirect · component)) := by
  unfold requestThrough fault? carrier?
  cases h.declarationOf m.type with
  | none => rfl
  | some id =>
    cases hid : h.declaration id with
    | error e => simp [hid]
    | ok d => cases hc : d.isMarkerType && d.bears directive <;> simp [hid, hc]

/-- The markers of a declaration give their requests unless one of them leads nowhere. -/
theorem requestsThrough_eq (component : DeclId) : ∀ ms : List Marker, h.requestsThrough directive component ms =
    match ms.findSome? h.fault? with
    | some e => .error e
    | none => .ok (ms.filterMap fun m => (h.carrier? directive m).map (.indirect · component))
  | [] => rfl
  | m :: ms => by
    rw [requestsThrough, requestThrough_eq, requestsThrough_eq component ms, List.findSome?_cons]
    cases h.fault? m with
    | some e => rfl
    | none =>
      cases ms.findSome? h.fault? with
      | some e => rfl
      | none => cases hc : h.carrier? directive m <;> simp [hc]

variable {h directive}

theorem carrier?_eq_some_iff {m : Marker} {carrier : DeclId} : h.carrier? directive m = some carrier ↔
    h.declarationOf m.type = some carrier ∧
      ∃ d, h.declaration carrier = .ok d ∧ d.kind = .markerType ∧ ∃ n ∈ d.markers, n.type = directive := by
  unfold carrier?
  cases h.declarationOf m.type with
  | none => simp
  | some id =>
    cases hid : h.declaration id with
    | error e =>
      simp only [hid, reduceCtorEq, Option.some.injEq, false_iff, not_and, not_exists]
      rintro rfl d hd
      rw [hid] at hd
      cases hd
    | ok d =>
      simp only [hid, Option.ite_none_right_eq_some, Bool.and_eq_true, Declaration.isMarkerType_iff,
        Declaration.bears_iff, Option.some.injEq]
      constructor
      · rintro ⟨hd, rfl⟩
        exact ⟨rfl, d, hid, hd⟩
      · rintro ⟨rfl, d', hd', hd⟩
        rw [hid] at hd'
        cases hd'
        exact ⟨hd, rfl⟩

/-! ## Requests of one number -/

variable (h directive) in
/-- The requests that a declaration gives: a direct one, and one for each marker that leads to a carrier. -/
def requestsOf (id : DeclId) : List Request :=
  match h.declaration id with
  | .error _ => []
  | .ok d =>
    if d.isMarkerType then []
    else (if d.bears directive then [.direct id] else []) ++
      d.markers.filterMap fun m => (h.carrier? directive m).map (.indirect · id)

theorem mem_requestsOf_iff {id : DeclId} {r : Request} : r ∈ h.requestsOf directive id ↔
    ∃ d, h.declaration id = .ok d ∧ d.isMarkerType = false ∧ (d.bears directive = true ∧ r = .direct id ∨
      ∃ m ∈ d.markers, ∃ carrier, h.carrier? directive m = some carrier ∧ r = .indirect carrier id) := by
  unfold requestsOf
  cases hd : h.declaration id with
  | error e => simp
  | ok d =>
    cases hk : d.isMarkerType with
    | true => simp [hk]
    | false =>
      have hdirect : r ∈ (if d.bears directive then [Request.direct id] else []) ↔
          d.bears directive = true ∧ r = .direct id := by
        cases d.bears directive <;> simp
      have hindirect : r ∈ (d.markers.filterMap fun m => (h.carrier? directive m).map (Request.indirect · id)) ↔
          ∃ m ∈ d.markers, ∃ carrier, h.carrier? directive m = some carrier ∧ r = .indirect carrier id := by
        simp only [List.mem_filterMap, Option.map_eq_some_iff, eq_comm (b := r)]
      simp [hk, hdirect, hindirect]

/-- What a request of a number is about: a component that is no marker type, and an element that carries the directive.
The element is a marker type exactly when it is not the component, and then a marker on the component has its type. -/
theorem of_mem_requestsOf {id : DeclId} {r : Request} (hr : r ∈ h.requestsOf directive id) :
    r.component = id ∧ ∃ co el, h.declaration r.component = .ok co ∧ co.kind ≠ .markerType ∧
      h.declaration r.element = .ok el ∧ (∃ m ∈ el.markers, m.type = directive) ∧
      (r.isIndirect = true ↔ el.kind = .markerType) ∧
      (r.isIndirect = true → r.element ≠ r.component ∧ ∃ m ∈ co.markers, h.declarationOf m.type = some r.element) := by
  obtain ⟨d, hd, hk, hr⟩ := mem_requestsOf_iff.1 hr
  have hkind : d.kind ≠ .markerType := fun hkind => by simp [Declaration.isMarkerType, hkind] at hk
  rcases hr with ⟨hb, rfl⟩ | ⟨m, hm, carrier, hc, rfl⟩
  · have hdirect : (Request.direct id).isIndirect = false := by simp [Request.isIndirect, Request.direct]
    exact ⟨rfl, d, d, hd, hkind, hd, Declaration.bears_iff.1 hb, by simp [hdirect, hkind], by simp [hdirect]⟩
  · obtain ⟨hof, c, hcd, hck, hcb⟩ := carrier?_eq_some_iff.1 hc
    -- the carrier is a marker type and the component is not
    have hne : carrier ≠ id := by
      rintro rfl
      rw [hd] at hcd
      cases hcd
      exact hkind hck
    have hindirect : (Request.indirect carrier id).isIndirect = true := by
      simpa [Request.isIndirect, Request.indirect] using hne
    exact ⟨rfl, d, c, hd, hkind, hcd, hcb, by simp [hindirect, hck], fun _ => ⟨hne, m, hm, hof⟩⟩

/-! ## Where discovery halts -/

variable (h) in
/-- The first failure that discovery meets at a listed number. -/
def halt? (id : DeclId) : Option ModelError :=
  match h.declaration id with
  | .error e => some e
  | .ok d => if d.isMarkerType then none else d.markers.findSome? h.fault?

theorem halt?_eq_none_iff {id : DeclId} : h.halt? id = none ↔ ∃ d, h.declaration id = .ok d ∧
    (d.kind ≠ .markerType → ∀ m ∈ d.markers, ∀ i, h.declarationOf m.type = some i → ∃ c, h.declaration i = .ok c) := by
  unfold halt?
  cases h.declaration id with
  | error e => simp
  | ok d =>
    simp only [ite_eq_left_iff, Declaration.isMarkerType_iff, List.findSome?_eq_none_iff, fault?_eq_none_iff,
      Except.ok.injEq, exists_eq_left']

/-- A known declaration whose markers all lead somewhere does not halt discovery. -/
theorem halt?_eq_none {id : DeclId} {d : Declaration} (hd : h.declaration id = .ok d)
    (hf : d.markers.findSome? h.fault? = none) : h.halt? id = none := by
  simp only [halt?, hd, hf, ite_self]

theorem requestsFor_eq (id : DeclId) : h.requestsFor directive id =
    match h.halt? id with
    | some e => .error e
    | none => .ok (h.requestsOf directive id) := by
  unfold requestsFor requestsOf halt?
  cases h.declaration id with
  | error e => rfl
  | ok d =>
    cases hk : d.isMarkerType with
    | true => simp [hk]
    | false =>
      simp only [hk, Bool.false_eq_true, if_false, requestsThrough_eq]
      cases d.markers.findSome? h.fault? <;> rfl

/-- Discovery answers the requests of the listed numbers one after another, up to the first number that halts it. -/
theorem requestsForAll_eq : ∀ ids : List DeclId, h.requestsForAll directive ids =
    match ids.findSome? h.halt? with
    | some e => .error e
    | none => .ok (ids.flatMap (h.requestsOf directive))
  | [] => rfl
  | id :: ids => by
    rw [requestsForAll, requestsFor_eq, requestsForAll_eq ids, List.findSome?_cons]
    cases h.halt? id with
    | some e => rfl
    | none => cases ids.findSome? h.halt? <;> rfl

/-- When nothing halts it, discovery answers the requests of all numbers. -/
theorem requestsForAll_of_halt {ids : List DeclId} (hids : ∀ id ∈ ids, h.halt? id = none) :
    h.requestsForAll directive ids = .ok (ids.flatMap (h.requestsOf directive)) := by
  rw [requestsForAll_eq, List.findSome?_eq_none_iff.2 hids]

theorem discover_eq {o : Options} (hd : o.directive = .ok directive) :
    h.discover o = h.requestsForAll directive h.declarationIds := by
  rw [discover, hd]

/-- Whatever is discovered is the requests of the listed numbers, none of which has halted discovery. -/
theorem discover_eq_ok_iff {o : Options} (hd : o.directive = .ok directive) {requests : List Request} :
    h.discover o = .ok requests ↔ (∀ id ∈ h.declarationIds, h.halt? id = none) ∧
      requests = h.declarationIds.flatMap (h.requestsOf directive) := by
  rw [discover_eq hd, requestsForAll_eq, ← List.findSome?_eq_none_iff]
  cases h.declarationIds.findSome? h.halt? <;> simp [eq_comm]

/-! ## Discovered requests -/

variable (h directive) in
/-- What holds of the component and the element of a discovered request. -/
structure Discovered (r : Request) : Prop where
  /-- The component is known, no marker type, and all of its markers lead somewhere. -/
  component : ∃ d, h.declaration r.component = .ok d ∧ d.isMarkerType = false ∧ d.markers.findSome? h.fault? = none
  /-- The element is known and carries the directive; it is a marker type exactly when it is not the component. -/
  element : ∃ d, h.declaration r.element = .ok d ∧ d.bears directive = true ∧ d.isMarkerType = r.isIndirect

/-- **Every discovered request rests on look-ups that succeeded.** -/
theorem discovered_of_discover {o : Options} (hd : o.directive = .ok directive) {requests : List Request}
    (hr : h.discover o = .ok requests) {r : Request} (hmem : r ∈ requests) : h.Discovered directive r := by
  obtain ⟨hhalt, rfl⟩ := (discover_eq_ok_iff hd).1 hr
  obtain ⟨id, hid, hrid⟩ := List.mem_flatMap.1 hmem
  obtain ⟨rfl, co, el, hco, hkind, hel, hb, hindirect, -⟩ := of_mem_requestsOf hrid
  have hk : co.isMarkerType = false := Bool.eq_false_iff.2 (mt Declaration.isMarkerType_iff.1 hkind)
  refine ⟨⟨co, hco, hk, ?_⟩, el, hel, Declaration.bears_iff.2 hb, ?_⟩
  · have hnone := hhalt _ hid
    simpa only [halt?, hco, hk, Bool.false_eq_true, if_false] using hnone
  · exact Bool.eq_iff_iff.2 (Declaration.isMarkerType_iff.trans hindirect.symm)

end Host

end ComponentDirective
