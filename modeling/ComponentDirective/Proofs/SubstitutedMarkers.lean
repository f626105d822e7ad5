import ComponentDirective.Proofs.ScopePlaces

/-!
# Hosts on which one marker is substituted

`Host.substitute` puts a marker in place of the first one of its type on one declaration. The types of the markers stay
as they are, place by place, and nothing but a directive is read for more than the type of a marker. So the search for a
scope answers the same place (`Host.scopePlace?_substitute`), ends in the same way (`Host.value_scope_substitute`), and
reports the same (`Host.diagnostics_scope_substitute`).
-/

namespace ComponentDirective

/-! ## Declarations -/

namespace Declaration

/-- The declaration with a marker in place of its first one of the same type, if there is one. -/
def substitute (d : Declaration) (m : Marker) : Declaration :=
  { d with markers := d.markers.set (d.markers.findIdx (·.isOf m.type)) m }

variable (d : Declaration) (m : Marker)

theorem map_type_substitute : (d.substitute m).markers.map (·.type) = d.markers.map (·.type) := by
  simp only [substitute, List.map_set]
  by_cases hlt : d.markers.findIdx (·.isOf m.type) < d.markers.length
  · have htype : (d.markers[d.markers.findIdx (·.isOf m.type)]).type = m.type := by
      simpa [Marker.isOf] using List.findIdx_getElem (w := hlt)
    refine List.ext_getElem? fun i => ?_
    rw [List.getElem?_set]
    split
    · next hi =>
      subst hi
      rw [List.getElem?_map, List.getElem?_eq_getElem hlt, Option.map_some, htype, List.length_map, if_pos hlt]
    · rfl
  · exact List.set_eq_of_length_le (by rw [List.length_map]; exact Nat.not_lt.1 hlt)

theorem bears_substitute (type : TypeName) : (d.substitute m).bears type = d.bears type := by
  have hbears (d : Declaration) : d.bears type = (d.markers.map (·.type)).any (· == type) := by
    rw [bears, find?, List.any_map, List.isSome_find?]
    rfl
  rw [hbears, hbears, map_type_substitute]

variable {d m}

/-- The marker is found in place of the one that was found. -/
theorem find?_substitute {old : Marker} (hold : d.find? m.type = some old) :
    (d.substitute m).find? m.type = some m := by
  obtain ⟨hold, before, after, hms, hbefore⟩ := List.find?_eq_some_iff_append.1 hold
  have hidx : d.markers.findIdx (·.isOf m.type) = before.length := by
    rw [hms, List.findIdx_append, List.findIdx_eq_length_of_false fun b hb => by simpa using hbefore b hb]
    simp [List.findIdx_cons, hold]
  refine List.find?_eq_some_iff_append.2 ⟨by simp [Marker.isOf], before, after, ?_, hbefore⟩
  rw [substitute, hidx, hms]
  simp

/-- Only the place of the marker that was found holds another one. -/
theorem getElem?_substitute {old : Marker} (hold : d.find? m.type = some old) (i : Nat) :
    (d.substitute m).markers[i]? = d.markers[i]? ∨
      d.markers[i]? = some old ∧ (d.substitute m).markers[i]? = some m := by
  have hidx : d.markers[d.markers.findIdx (·.isOf m.type)]? = some old := by
    rw [← List.find?_eq_getElem?_findIdx]
    exact hold
  simp only [substitute, List.getElem?_set]
  split
  · next hi =>
    subst hi
    exact .inr ⟨hidx, by rw [if_pos (List.getElem?_eq_some_iff.1 hidx).1]⟩
  · exact .inl rfl

end Declaration

/-! ## Lists of markers with the same types -/

namespace Host

section Types

variable (h : Host) (scopeKind : TypeName) {ms ms' : List Marker} (htypes : ms'.map (·.type) = ms.map (·.type))
include htypes

theorem findSome?_fault?_congr : ms'.findSome? h.fault? = ms.findSome? h.fault? := by
  have hfault (ms : List Marker) :
      ms.findSome? h.fault? = (ms.map (·.type)).findSome? fun t => h.fault? (.plain t) := by
    rw [List.findSome?_map]
    rfl
  rw [hfault, hfault, htypes]

theorem findIdx?_isScope_congr : ms'.findIdx? (h.isScope scopeKind) = ms.findIdx? (h.isScope scopeKind) := by
  have hidx (ms : List Marker) : ms.findIdx? (h.isScope scopeKind) =
      (ms.map (·.type)).findIdx? fun t => h.isScope scopeKind (.plain t) := by
    rw [List.findIdx?_map]
    rfl
  rw [hidx, hidx, htypes]

theorem map_type_filter_isScope_congr : (ms'.filter (h.isScope scopeKind)).map (·.type) =
    (ms.filter (h.isScope scopeKind)).map (·.type) := by
  have hfilter (ms : List Marker) : (ms.filter (h.isScope scopeKind)).map (·.type) =
      (ms.map (·.type)).filter fun t => h.isScope scopeKind (.plain t) := by
    rw [List.filter_map]
    rfl
  rw [hfilter, hfilter, htypes]

omit h in
theorem conflicts_congr (site : String) : conflicts scopeKind site ms' = conflicts scopeKind site ms := by
  have hconf (ms : List Marker) : conflicts scopeKind site ms =
      conflicts scopeKind site ((ms.map (·.type)).map .plain) := by
    cases ms with
    | nil => rfl
    | cons first extra => simp [conflicts, Marker.plain]
  rw [hconf, hconf ms, htypes]

end Types

/-! ## Hosts -/

/-- The host on which a marker is substituted on one declaration. -/
def substitute (h : Host) (id : DeclId) (m : Marker) : Host :=
  { h with declaration := fun i => if i = id then (h.declaration i).map (·.substitute m) else h.declaration i }

section Answers

variable {h : Host} {id : DeclId} {m : Marker}

theorem declaration_substitute_self {d : Declaration} (hd : h.declaration id = .ok d) :
    (h.substitute id m).declaration id = .ok (d.substitute m) := by
  simp [substitute, hd, Except.map]

theorem declaration_substitute_of_ne {i : DeclId} (hi : i ≠ id) :
    (h.substitute id m).declaration i = h.declaration i := if_neg hi

variable (h id m)

theorem declaration_substitute_cases (i : DeclId) :
    (∃ e, h.declaration i = .error e ∧ (h.substitute id m).declaration i = .error e) ∨
    ∃ d d', h.declaration i = .ok d ∧ (h.substitute id m).declaration i = .ok d' ∧ (d' = d ∨ d' = d.substitute m) := by
  cases hd : h.declaration i with
  | error e => exact .inl ⟨e, rfl, by simp [substitute, hd, Except.map]⟩
  | ok d =>
    by_cases hi : i = id
    · subst hi
      exact .inr ⟨d, _, rfl, declaration_substitute_self hd, .inr rfl⟩
    · exact .inr ⟨d, d, rfl, by rw [declaration_substitute_of_ne hi, hd], .inl rfl⟩

/-- What could be looked up still can, under its name. -/
theorem exists_declaration_substitute {i : DeclId} {d : Declaration} (hd : h.declaration i = .ok d) :
    ∃ d', (h.substitute id m).declaration i = .ok d' ∧ d'.name = d.name := by
  rcases declaration_substitute_cases h id m i with ⟨e, he, -⟩ | ⟨d₀, d', hd₀, hd', heq⟩
  · cases hd.symm.trans he
  · obtain rfl := Except.ok.inj (hd.symm.trans hd₀)
    exact ⟨d', hd', by rcases heq with rfl | rfl <;> rfl⟩

end Answers

variable {h : Host} {id : DeclId} {m : Marker} {scopeKind : TypeName}

theorem definesScope_substitute (type : TypeName) :
    (h.substitute id m).definesScope type scopeKind = h.definesScope type scopeKind := by
  simp only [definesScope, show (h.substitute id m).declarationOf = h.declarationOf from rfl]
  cases h.declarationOf type with
  | none => rfl
  | some i =>
    rcases declaration_substitute_cases h id m i with ⟨e, he, he'⟩ | ⟨d, d', hd, hd', heq⟩
    · simp only [he, he']
    · rcases heq with rfl | rfl
      · simp only [hd, hd']
      · simp only [hd, hd', Declaration.bears_substitute]

theorem markedScopes_substitute : ∀ ms : List Marker,
    (h.substitute id m).markedScopes scopeKind ms = h.markedScopes scopeKind ms
  | [] => rfl
  | a :: ms => by
    rw [markedScopes, markedScopes, definesScope_substitute, markedScopes_substitute ms]

theorem scopeOn_substitute_of_ne {i : DeclId} (hi : i ≠ id) :
    (h.substitute id m).scopeOn scopeKind i = h.scopeOn scopeKind i := by
  simp only [scopeOn, declaration_substitute_of_ne hi, markedScopes_substitute]

theorem fault?_substitute (a : Marker) : (h.substitute id m).fault? a = h.fault? a := by
  simp only [fault?, show (h.substitute id m).declarationOf = h.declarationOf from rfl]
  cases h.declarationOf a.type with
  | none => rfl
  | some i =>
    rcases declaration_substitute_cases h id m i with ⟨e, he, he'⟩ | ⟨d, d', hd, hd', -⟩
    · simp only [he, he']
    · simp only [hd, hd']

theorem isScope_substitute (a : Marker) : (h.substitute id m).isScope scopeKind a = h.isScope scopeKind a := by
  rw [isScope, definesScope_substitute, isScope]

/-! ## The search for a scope -/

/-- Two searches that end in the same way, up to the marker that is the scope. -/
inductive SameSearch : Except ModelError (Option Marker) → Except ModelError (Option Marker) → Prop
  | failed (e : ModelError) : SameSearch (.error e) (.error e)
  | notFound : SameSearch (.ok none) (.ok none)
  | found {a b : Marker} : a.type = b.type → SameSearch (.ok (some a)) (.ok (some b))

theorem sameSearch_head? : ∀ {scopes scopes' : List Marker}, scopes'.map (·.type) = scopes.map (·.type) →
    SameSearch (.ok scopes.head?) (.ok scopes'.head?)
  | [], [], _ => .notFound
  | _ :: _, _ :: _, htypes => .found (List.cons.inj htypes).1.symm

theorem SameSearch.failed_or {answer answer' : Except ModelError (Option Marker)} (h : SameSearch answer answer') :
    (∃ e, answer = .error e ∧ answer' = .error e) ∨ ∃ scope scope', answer = .ok scope ∧ answer' = .ok scope' := by
  cases h with
  | failed e => exact .inl ⟨e, rfl, rfl⟩
  | notFound => exact .inr ⟨_, _, rfl, rfl⟩
  | found _ => exact .inr ⟨_, _, rfl, rfl⟩

/-- A search that ends without a failure does so for both, and the scopes are of one type. -/
theorem SameSearch.exists_of_ok {scope : Option Marker} {answer : Except ModelError (Option Marker)}
    (h : SameSearch (.ok scope) answer) : ∃ scope', answer = .ok scope' ∧ scope'.map (·.type) = scope.map (·.type) := by
  cases h with
  | notFound => exact ⟨none, rfl, rfl⟩
  | found htype => exact ⟨_, rfl, congrArg some htype.symm⟩

theorem SameSearch.refl : ∀ answer : Except ModelError (Option Marker), SameSearch answer answer
  | .error e => .failed e
  | .ok none => .notFound
  | .ok (some _) => .found rfl

section Search

variable (h : Host) (id : DeclId) (m : Marker) (scopeKind : TypeName)

/-- A declaration is searched with the same outcome. -/
theorem value_scopeOn_substitute (i : DeclId) :
    SameSearch (h.scopeOn scopeKind i).value ((h.substitute id m).scopeOn scopeKind i).value := by
  by_cases hi : i = id
  · subst hi
    cases hd : h.declaration i with
    | error e =>
      have hd' : (h.substitute i m).declaration i = .error e := by simp [substitute, hd, Except.map]
      simp only [scopeOn, hd, hd']
      exact .failed e
    | ok d =>
      rw [value_scopeOn scopeKind hd, value_scopeOn scopeKind (declaration_substitute_self hd),
        funext fault?_substitute, funext isScope_substitute, findSome?_fault?_congr h (d.map_type_substitute m)]
      cases d.markers.findSome? h.fault? with
      | some e => exact .failed e
      | none => exact sameSearch_head? (map_type_filter_isScope_congr h scopeKind (d.map_type_substitute m))
  · rw [scopeOn_substitute_of_ne hi]
    exact .refl _

theorem diagnostics_scopeOn_substitute (i : DeclId) :
    ((h.substitute id m).scopeOn scopeKind i).diagnostics = (h.scopeOn scopeKind i).diagnostics := by
  by_cases hi : i = id
  · subst hi
    cases hd : h.declaration i with
    | error e =>
      have hd' : (h.substitute i m).declaration i = .error e := by simp [substitute, hd, Except.map]
      simp only [scopeOn, hd, hd']
    | ok d =>
      rw [diagnostics_scopeOn scopeKind hd, diagnostics_scopeOn scopeKind (declaration_substitute_self hd),
        funext fault?_substitute, funext isScope_substitute, findSome?_fault?_congr h (d.map_type_substitute m)]
      cases d.markers.findSome? h.fault? with
      | some e => rfl
      | none => exact conflicts_congr scopeKind (map_type_filter_isScope_congr h scopeKind (d.map_type_substitute m)) _
  · rw [scopeOn_substitute_of_ne hi]

variable (element component : DeclId)

theorem value_scope_substitute : SameSearch (h.scope scopeKind element component).value
    ((h.substitute id m).scope scopeKind element component).value := by
  have hel := value_scopeOn_substitute h id m scopeKind element
  rw [value_scope_eq, value_scope_eq]
  generalize (h.scopeOn scopeKind element).value = answer at hel ⊢
  generalize ((h.substitute id m).scopeOn scopeKind element).value = answer' at hel ⊢
  cases hel with
  | failed e => exact .failed e
  | found htype => exact .found htype
  | notFound =>
    by_cases hsame : element = component
    · simp only [if_pos hsame]
      exact .notFound
    · simp only [if_neg hsame]
      exact value_scopeOn_substitute h id m scopeKind component

theorem diagnostics_scope_substitute :
    ((h.substitute id m).scope scopeKind element component).diagnostics =
      (h.scope scopeKind element component).diagnostics := by
  have hel := value_scopeOn_substitute h id m scopeKind element
  rw [diagnostics_scope_eq, diagnostics_scope_eq, diagnostics_scopeOn_substitute, diagnostics_scopeOn_substitute]
  generalize (h.scopeOn scopeKind element).value = answer at hel ⊢
  generalize ((h.substitute id m).scopeOn scopeKind element).value = answer' at hel ⊢
  cases hel <;> rfl

/-- The scope is found at the same place. -/
theorem scopePlace?_substitute :
    (h.substitute id m).scopePlace? scopeKind element component = h.scopePlace? scopeKind element component := by
  have hplace (i : DeclId) : (h.substitute id m).scopePlaceOn? scopeKind i = h.scopePlaceOn? scopeKind i := by
    simp only [scopePlaceOn?, funext isScope_substitute]
    rcases declaration_substitute_cases h id m i with ⟨e, he, he'⟩ | ⟨d, d', hd, hd', heq⟩
    · simp only [he, he']
    · rcases heq with rfl | rfl
      · simp only [hd, hd']
      · simp only [hd, hd', findIdx?_isScope_congr h scopeKind (d.map_type_substitute m)]
  rw [scopePlace?, scopePlace?, hplace, hplace]

end Search

/-- Only the place of the marker that is replaced holds another one. -/
theorem markerAt?_substitute {d : Declaration} {old : Marker} (hd : h.declaration id = .ok d)
    (hold : d.find? m.type = some old) (p : MarkerPlace) :
    (h.substitute id m).markerAt? p = h.markerAt? p ∨
      p.declaration = id ∧ h.markerAt? p = some old ∧ (h.substitute id m).markerAt? p = some m := by
  by_cases hp : p.declaration = id
  · simp only [markerAt?, hp, hd, declaration_substitute_self hd, true_and]
    exact Declaration.getElem?_substitute hold p.index
  · simp only [markerAt?, declaration_substitute_of_ne hp, true_or]

end Host

end ComponentDirective
