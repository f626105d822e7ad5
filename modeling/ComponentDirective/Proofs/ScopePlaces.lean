import ComponentDirective.Proofs.ScopeSearch

/-!
# Where a scope is found

A search that succeeds answers the marker at a place: the first place on the element whose marker defines a scope, or
else the first such place on the component (`Host.scope_eq_markerAt?`). So the marker at that place defines a scope
(`Host.isScope_of_markerAt?`).
-/

namespace ComponentDirective

/-- A place among the markers of a declaration, counted from 0. -/
structure MarkerPlace where
  declaration : DeclId
  index : Nat

namespace Host

variable (h : Host) (scopeKind : TypeName)

/-- The marker at a place. -/
def markerAt? (p : MarkerPlace) : Option Marker :=
  match h.declaration p.declaration with
  | .error _ => none
  | .ok d => d.markers[p.index]?

/-- The place of the first scope on a declaration. -/
def scopePlaceOn? (id : DeclId) : Option MarkerPlace :=
  match h.declaration id with
  | .error _ => none
  | .ok d => (d.markers.findIdx? (h.isScope scopeKind)).map fun i => ⟨id, i⟩

/-- The place of the scope of a component whose directive is on `element`. -/
def scopePlace? (element component : DeclId) : Option MarkerPlace :=
  (h.scopePlaceOn? scopeKind element).or (h.scopePlaceOn? scopeKind component)

variable {h scopeKind}

theorem bind_scopePlaceOn? {id : DeclId} {d : Declaration} (hd : h.declaration id = .ok d) :
    (h.scopePlaceOn? scopeKind id).bind h.markerAt? = d.markers.find? (h.isScope scopeKind) := by
  simp only [scopePlaceOn?, hd]
  rw [Option.bind_map, List.find?_eq_bind_findIdx?_getElem?]
  congr 1
  funext i
  simp only [Function.comp_apply, markerAt?, hd]

/-- There is a marker at the place that is found. -/
theorem scopePlaceOn?_eq_none_iff {id : DeclId} :
    h.scopePlaceOn? scopeKind id = none ↔ (h.scopePlaceOn? scopeKind id).bind h.markerAt? = none := by
  cases hd : h.declaration id with
  | error e => simp [scopePlaceOn?, hd]
  | ok d =>
    rw [bind_scopePlaceOn? hd, List.find?_eq_none]
    simp [scopePlaceOn?, hd]

theorem isScope_of_scopePlaceOn? {id : DeclId} {m : Marker}
    (hm : (h.scopePlaceOn? scopeKind id).bind h.markerAt? = some m) : h.isScope scopeKind m = true := by
  cases hd : h.declaration id with
  | error e => simp [scopePlaceOn?, hd] at hm
  | ok d =>
    rw [bind_scopePlaceOn? hd] at hm
    exact List.find?_some hm

theorem bind_scopePlace? (element component : DeclId) : (h.scopePlace? scopeKind element component).bind h.markerAt? =
    ((h.scopePlaceOn? scopeKind element).bind h.markerAt?).or
      ((h.scopePlaceOn? scopeKind component).bind h.markerAt?) := by
  rw [scopePlace?]
  cases hp : h.scopePlaceOn? scopeKind element with
  | none => simp
  | some p =>
    cases hm : h.markerAt? p with
    | none =>
      have := scopePlaceOn?_eq_none_iff.2 (show (h.scopePlaceOn? scopeKind element).bind h.markerAt? = none by
        rw [hp, Option.bind_some, hm])
      rw [hp] at this
      cases this
    | some m => simp [hm]

/-- The marker at the place of a scope defines one. -/
theorem isScope_of_markerAt? {element component : DeclId} {m : Marker}
    (hm : (h.scopePlace? scopeKind element component).bind h.markerAt? = some m) : h.isScope scopeKind m = true := by
  rw [bind_scopePlace?] at hm
  rcases Option.or_eq_some_iff.1 hm with hm | ⟨-, hm⟩
  · exact isScope_of_scopePlaceOn? hm
  · exact isScope_of_scopePlaceOn? hm

theorem scopePlaceOn?_eq_none_iff_filter {id : DeclId} {d : Declaration} (hd : h.declaration id = .ok d) :
    h.scopePlaceOn? scopeKind id = none ↔ d.markers.filter (h.isScope scopeKind) = [] := by
  simp only [scopePlaceOn?, hd, Option.map_eq_none_iff, List.findIdx?_eq_none_iff, List.filter_eq_nil_iff,
    Bool.not_eq_true]

/-- **Which declaration a scope is taken from.** It is on the element if the element has a scope, and otherwise on the
component. -/
theorem scopePlace?_cases {element component : DeclId} {el co : Declaration} (hel : h.declaration element = .ok el)
    (hco : h.declaration component = .ok co) {place : MarkerPlace}
    (hp : h.scopePlace? scopeKind element component = some place) :
    (place.declaration = element ∧ el.markers.filter (h.isScope scopeKind) ≠ []) ∨
      (place.declaration = component ∧ el.markers.filter (h.isScope scopeKind) = [] ∧
        co.markers.filter (h.isScope scopeKind) ≠ []) := by
  have hon : ∀ {id : DeclId}, h.scopePlaceOn? scopeKind id = some place → place.declaration = id := by
    intro id hid
    unfold scopePlaceOn? at hid
    split at hid
    · cases hid
    · obtain ⟨i, -, rfl⟩ := Option.map_eq_some_iff.1 hid
      rfl
  simp only [ne_eq, ← scopePlaceOn?_eq_none_iff_filter hel, ← scopePlaceOn?_eq_none_iff_filter hco]
  rw [scopePlace?] at hp
  rcases Option.or_eq_some_iff.1 hp with hp | ⟨hnone, hp⟩
  · exact .inl ⟨hon hp, by simp [hp]⟩
  · exact .inr ⟨hon hp, hnone, by simp [hp]⟩

/-! ## The search -/

theorem scopeOn_eq_markerAt? {id : DeclId} {scope : Option Marker}
    (hv : (h.scopeOn scopeKind id).value = .ok scope) : scope = (h.scopePlaceOn? scopeKind id).bind h.markerAt? := by
  obtain ⟨d, hd, -, hfirst, -⟩ := exists_of_scopeOn_ok hv
  rw [bind_scopePlaceOn? hd, ← List.head?_filter, hfirst]

/-- The component is only searched when the element has no scope and is another declaration. -/
theorem value_scope_eq (element component : DeclId) : (h.scope scopeKind element component).value =
    match (h.scopeOn scopeKind element).value with
    | .ok none => if element = component then .ok none else (h.scopeOn scopeKind component).value
    | answer => answer := by
  rw [scope, Recorded.value_bind]
  rcases (h.scopeOn scopeKind element).value with e | _ | m
  · rfl
  · exact apply_ite Recorded.value ..
  · rfl

theorem diagnostics_scope_eq (element component : DeclId) : (h.scope scopeKind element component).diagnostics =
    (h.scopeOn scopeKind element).diagnostics ++
      match (h.scopeOn scopeKind element).value with
      | .ok none => if element = component then [] else (h.scopeOn scopeKind component).diagnostics
      | _ => [] := by
  rw [scope, Recorded.diagnostics_bind]
  congr 1
  rcases (h.scopeOn scopeKind element).value with e | _ | m
  · rfl
  · exact apply_ite Recorded.diagnostics ..
  · rfl

/-- **A search that succeeds answers the marker at the place of the scope.** -/
theorem scope_eq_markerAt? {element component : DeclId} {scope : Option Marker}
    (hv : (h.scope scopeKind element component).value = .ok scope) :
    scope = (h.scopePlace? scopeKind element component).bind h.markerAt? := by
  rw [value_scope_eq] at hv
  rw [bind_scopePlace?]
  cases hel : (h.scopeOn scopeKind element).value with
  | error e => simp [hel] at hv
  | ok found =>
    rw [← scopeOn_eq_markerAt? hel]
    cases found with
    | some m => simpa [hel] using hv.symm
    | none =>
      simp only [hel] at hv
      split at hv
      · next hsame =>
        rw [← hsame, ← scopeOn_eq_markerAt? hel]
        exact (Except.ok.inj hv).symm
      · rw [Option.none_or, ← scopeOn_eq_markerAt? hv]

end Host

end ComponentDirective
