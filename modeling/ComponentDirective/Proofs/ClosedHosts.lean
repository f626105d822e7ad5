import ComponentDirective.Proofs.Failures

/-!
# Hosts that know what they give away

A closed host knows every number that it lists or answers (`Host.Closed`). Discovery then comes upon no query that fails
(`Closed.discover_eq`), and a request that somebody makes up fails only for what is wrong with the request itself
(`Closed.error_iff`).
-/

namespace ComponentDirective

namespace Host

/-- The numbers that the host lists are those that it knows, and each number that it answers is one of them. -/
structure Closed (h : Host) : Prop where
  listed : ∀ {id : DeclId}, id ∈ h.declarationIds ↔ ∃ d, h.declaration id = .ok d
  declared : ∀ {type : TypeName} {id : DeclId}, h.declarationOf type = some id → ∃ d, h.declaration id = .ok d
  /-- All that can be wrong with a number is that it is unknown. -/
  denied : ∀ {id : DeclId} {e : ModelError}, h.declaration id = .error e → e = .unknownDeclaration id

/-- What is wrong with a request: its component or else its element is no listed number, or the element carries no
directive. -/
inductive Unreadable (h : Host) (directive : TypeName) (r : Request) : ExtractError → Prop
  | component : r.component ∉ h.declarationIds → h.Unreadable directive r (.model (.unknownDeclaration r.component))
  | element : r.component ∈ h.declarationIds → r.element ∉ h.declarationIds →
    h.Unreadable directive r (.model (.unknownDeclaration r.element))
  | directive {d : Declaration} : r.component ∈ h.declarationIds → h.declaration r.element = .ok d →
    d.bears directive = false → h.Unreadable directive r (.directiveNotFound d.name directive)

namespace Closed

variable {h : Host} (hc : h.Closed)
include hc

/-! ## Markers lead somewhere -/

theorem findSome?_fault? (ms : List Marker) : ms.findSome? h.fault? = none :=
  List.findSome?_eq_none_iff.2 fun _ _ => h.fault?_eq_none_iff.2 fun _ hid => hc.declared hid

theorem firstFault?_eq_none (id : DeclId) : h.firstFault? id = none := by
  unfold firstFault?
  split
  · rfl
  · exact hc.findSome?_fault? _

theorem halt?_eq_none {id : DeclId} (hid : id ∈ h.declarationIds) : h.halt? id = none := by
  obtain ⟨d, hd⟩ := hc.listed.1 hid
  exact Host.halt?_eq_none hd (hc.findSome?_fault? d.markers)

/-- Discovery answers the requests of the listed declarations, one after another. -/
theorem discover_eq {o : Options} {directive : TypeName} (hd : o.directive = .ok directive) :
    h.discover o = .ok (h.declarationIds.flatMap (h.requestsOf directive)) := by
  rw [Host.discover_eq hd]
  exact requestsForAll_of_halt fun _ hid => hc.halt?_eq_none hid

theorem exists_discover {o : Options} {directive : TypeName} (hd : o.directive = .ok directive) :
    ∃ requests, h.discover o = .ok requests := ⟨_, hc.discover_eq hd⟩

/-! ## Requests that fail -/

theorem declaration_of_not_listed {id : DeclId} (hid : id ∉ h.declarationIds) :
    h.declaration id = .error (.unknownDeclaration id) := by
  cases hd : h.declaration id with
  | error e => rw [hc.denied hd]
  | ok d => exact absurd (hc.listed.2 ⟨d, hd⟩) hid

section Attempts

variable {directive scopeKind : TypeName} {warn : Bool} {r : Request}

theorem extract_of_unreadable (site : String) {e : ExtractError} (hu : h.Unreadable directive r e) :
    (Extractor.extract ⟨h, directive, scopeKind, warn⟩ r site).value = .error e := by
  rw [Extractor.value_extract]
  cases hu with
  | component hout => simp only [Extractor.attempt, hc.declaration_of_not_listed hout, Recorded.value_pure]
  | element hin hout =>
    obtain ⟨co, hco⟩ := hc.listed.1 hin
    simp only [Extractor.attempt, hco, hc.declaration_of_not_listed hout, Recorded.value_pure]
  | @directive el hin hel hb =>
    obtain ⟨co, hco⟩ := hc.listed.1 hin
    have hm : el.find? directive = none := by simpa [Declaration.bears] using hb
    simp only [Extractor.attempt, hco, hel, hm, Recorded.value_pure]

/-- A request with nothing wrong leads to a directive. -/
theorem unreadable_or (directive : TypeName) (r : Request) : (∃ e, h.Unreadable directive r e) ∨
    ∃ co el m, h.declaration r.component = .ok co ∧ h.declaration r.element = .ok el ∧
      el.find? directive = some m := by
  by_cases hin : r.component ∈ h.declarationIds
  · by_cases hin' : r.element ∈ h.declarationIds
    · obtain ⟨co, hco⟩ := hc.listed.1 hin
      obtain ⟨el, hel⟩ := hc.listed.1 hin'
      cases hm : el.find? directive with
      | none => exact .inl ⟨_, .directive hin hel (by simp [Declaration.bears, hm])⟩
      | some m => exact .inr ⟨co, el, m, hco, hel, hm⟩
    · exact .inl ⟨_, .element hin hin'⟩
  · exact .inl ⟨_, .component hin⟩

/-- **A request fails only for what is wrong with itself.** -/
theorem error_iff {site : String} {e : ExtractError} :
    (Extractor.extract ⟨h, directive, scopeKind, warn⟩ r site).value = .error e ↔ h.Unreadable directive r e := by
  refine ⟨fun he => ?_, hc.extract_of_unreadable site⟩
  rcases hc.unreadable_or directive r with ⟨e', hu⟩ | ⟨co, el, m, hco, hel, hm⟩
  · rw [hc.extract_of_unreadable site hu] at he
    cases he
    exact hu
  · -- no marker leads nowhere, so the search for the scope succeeds
    rw [Extractor.value_extract, Extractor.value_attempt site hco hel hm, value_scope scopeKind hel hco
      (hc.findSome?_fault? _) (hc.findSome?_fault? _)] at he
    cases he

end Attempts

end Closed

end Host

end ComponentDirective
