import ComponentDirective.Proofs.Discovered
import ComponentDirective.Store

/-!
# The requests that discovery finds

A listed number halts discovery when it is unknown, or when it stands for a component one of whose markers leads nowhere
(`Host.Halts`). Discovery fails with the first of these, and when there is none it answers the requests of the listed
numbers one after another (`Host.discover_requests`). The markers of a marker type are not looked at, so indirection is
followed one level only.
-/

namespace ComponentDirective

namespace Host

variable {h : Host} {directive : TypeName}

/-! ## Where discovery halts -/

variable (h) in
/-- What halts discovery at a listed number: the number is unknown, or it stands for no marker type and one of its
markers leads nowhere. -/
inductive Halts (id : DeclId) : ModelError → Prop
  | unknown {e : ModelError} : h.declaration id = .error e → Halts id e
  | stranded {d : Declaration} {e : ModelError} : h.declaration id = .ok d → d.kind ≠ .markerType →
    h.BreaksOff d.markers e → Halts id e

theorem halts_iff {id : DeclId} {e : ModelError} : h.Halts id e ↔ h.halt? id = some e := by
  unfold halt?
  cases hd : h.declaration id with
  | error e' =>
    constructor
    · rintro (hu | ⟨hd', -, -⟩)
      · rw [hd] at hu
        cases hu
        rfl
      · rw [hd] at hd'
        cases hd'
    · intro he
      obtain rfl := Option.some.inj he
      exact .unknown hd
  | ok d =>
    simp only [Option.ite_none_left_eq_some, Declaration.isMarkerType_iff, ← breaksOff_iff]
    constructor
    · rintro (hu | ⟨hd', hk, hb⟩)
      · rw [hd] at hu
        cases hu
      · rw [hd] at hd'
        cases hd'
        exact ⟨hk, hb⟩
    · rintro ⟨hk, hb⟩
      exact .stranded hd hk hb

/-! ## Whole discoveries -/

/-- **What discovery finds, and when it fails.** It succeeds exactly when the directive's name is a name and no listed
number halts it. Then it answers the requests of the listed numbers, one number after another; each is about a component
that is no marker type, and its element carries the directive and is the component or declares the type of a marker on
it. Otherwise the failure is that of the directive's name or else of the first listed number that halts. -/
theorem discover_requests (h : Host) (o : Options) :
    (∀ requests, h.discover o = .ok requests ↔ ∃ directive, o.directive = .ok directive ∧
      (∀ id ∈ h.declarationIds, ∃ d, h.declaration id = .ok d ∧ (d.kind ≠ .markerType →
        ∀ m ∈ d.markers, ∀ i, h.declarationOf m.type = some i → ∃ c, h.declaration i = .ok c)) ∧
      requests = h.declarationIds.flatMap (h.requestsOf directive)) ∧
    (∀ e, h.discover o = .error e ↔ o.directive = .error e ∨ (∃ directive, o.directive = .ok directive) ∧
      ∃ before id after, h.declarationIds = before ++ id :: after ∧ h.Halts id e ∧
        ∀ i ∈ before, ∀ e', ¬h.Halts i e') ∧
    ∀ directive, o.directive = .ok directive →
      (∀ m carrier, h.carrier? directive m = some carrier ↔ h.declarationOf m.type = some carrier ∧
        ∃ d, h.declaration carrier = .ok d ∧ d.kind = .markerType ∧ ∃ n ∈ d.markers, n.type = directive) ∧
      ∀ requests, h.discover o = .ok requests → ∀ r ∈ requests, r.component ∈ h.declarationIds ∧
        ∃ co el, h.declaration r.component = .ok co ∧ co.kind ≠ .markerType ∧
          h.declaration r.element = .ok el ∧ (∃ m ∈ el.markers, m.type = directive) ∧
          (r.isIndirect = true ↔ el.kind = .markerType) ∧
          (r.isIndirect = true → r.element ≠ r.component ∧
            ∃ m ∈ co.markers, h.declarationOf m.type = some r.element) := by
  cases hd : o.directive with
  | error e =>
    have hdisc : h.discover o = .error e := by rw [discover, hd]
    simp [hdisc]
  | ok directive =>
    have hdisc := (discover_eq (h := h) hd).trans (requestsForAll_eq h.declarationIds)
    refine ⟨fun requests => ?_, fun e => ?_, fun directive' hd' => ?_⟩
    · simp only [discover_eq_ok_iff hd, halt?_eq_none_iff, Except.ok.injEq, exists_eq_left']
    · simp only [halts_iff, ← Option.eq_none_iff_forall_ne_some, ← List.findSome?_eq_some_iff, hdisc]
      cases h.declarationIds.findSome? h.halt? <;> simp
    · obtain rfl := Except.ok.inj hd'
      refine ⟨fun m carrier => carrier?_eq_some_iff, fun requests hr r hmem => ?_⟩
      obtain ⟨-, rfl⟩ := (discover_eq_ok_iff hd).1 hr
      obtain ⟨id, hid, hrid⟩ := List.mem_flatMap.1 hmem
      obtain ⟨rfl, habout⟩ := of_mem_requestsOf hrid
      exact ⟨hid, habout⟩

/-- A class `demo.App` with two directives and two markers of a type `demo.Shared`, which carries the directive and a
marker of its own type; so does the type of the directive. The class is listed twice, behind one of the marker types. -/
def sharedHost : Host :=
  (Store.host (.ofChanges [.declare "autodagger.AutoComponent" .markerType,
    .annotate ⟨0⟩ (.plain ⟨"autodagger.AutoComponent", .refl true⟩),
    .declare "demo.Shared" .markerType, .annotate ⟨1⟩ (.plain ⟨"autodagger.AutoComponent", .refl true⟩),
    .annotate ⟨1⟩ (.plain ⟨"demo.Shared", .refl true⟩),
    .declare "demo.App" .classType, .annotate ⟨2⟩ (.plain ⟨"autodagger.AutoComponent", .refl true⟩),
    .annotate ⟨2⟩ (.plain ⟨"demo.Shared", .refl true⟩),
    .annotate ⟨2⟩ (.plain ⟨"autodagger.AutoComponent", .refl true⟩),
    .annotate ⟨2⟩ (.plain ⟨"demo.Shared", .refl true⟩)])).withFaults ⟨[], [], some [⟨1⟩, ⟨2⟩, ⟨2⟩]⟩

/-- Each time that the class is listed it gives one direct request, and an indirect one for each of its markers. When
`demo.Shared` is denied, the first listed number halts discovery. -/
theorem discover_requests_shared :
    let found : List Request :=
      [.direct ⟨2⟩, .indirect ⟨0⟩ ⟨2⟩, .indirect ⟨1⟩ ⟨2⟩, .indirect ⟨0⟩ ⟨2⟩, .indirect ⟨1⟩ ⟨2⟩]
    Options.default.directive = .ok ⟨"autodagger.AutoComponent", by decide⟩ ∧
    sharedHost.discover .default = .ok (found ++ found) ∧
    (∃ co el, sharedHost.declaration ⟨2⟩ = .ok co ∧ sharedHost.declaration ⟨1⟩ = .ok el ∧ el.kind = .markerType ∧
      ∃ m ∈ co.markers, sharedHost.declarationOf m.type = some ⟨1⟩) ∧
    (sharedHost.withFaults ⟨[], [⟨1⟩], none⟩).discover .default = .error (.unknownDeclaration ⟨1⟩) := by
  intro found
  have hd : Options.default.directive = .ok ⟨"autodagger.AutoComponent", by decide⟩ := by decide
  have hfound : sharedHost.discover .default = .ok (found ++ found) := by decide
  obtain ⟨-, -, habout⟩ := discover_requests sharedHost .default
  obtain ⟨-, co, el, hco, -, hel, -, hkind, hmarker⟩ :=
    (habout _ hd).2 _ hfound (.indirect ⟨1⟩ ⟨2⟩) (by decide)
  refine ⟨hd, hfound, ⟨co, el, hco, hel, hkind.1 rfl, (hmarker rfl).2⟩, ?_⟩
  exact ((discover_requests (sharedHost.withFaults ⟨[], [⟨1⟩], none⟩) .default).2.1 _).2
    (.inr ⟨⟨_, hd⟩, [], ⟨1⟩, _, rfl, .unknown rfl, nofun⟩)

end Host

end ComponentDirective
