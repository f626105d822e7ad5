import ComponentDirective.Proofs.StoreInvariant

/-!
# What a change does to a store

A change is refused and leaves the store as it was, or it is carried out (`Store.apply_cases`): it enters a name, it
attaches a marker, or it does one after the other. What the two do is said on three views of a store: its names in the
order of declaration, the kind of a name, and the markers of a number.
-/

namespace ComponentDirective

namespace Store

variable {s : Store}

/-! ## Views -/

/-- The kind under which a name is declared. -/
def kindOf? (s : Store) (name : TypeName) : Option Kind := (s.declarations.map fun d => (d.name, d.kind)).lookup name

/-- The markers of the declaration of a number; a number that is not known has none. -/
def markersOf (s : Store) (id : DeclId) : List Marker := ((s.get? id).map (·.markers)).getD []

/-! ## Entering a name -/

/-- The number under which a name is declared, or will be. -/
def numberFor (s : Store) (name : TypeName) : DeclId := (s.idOf? name).getD (.ofIndex s.size)

/-- The store with a name declared. A name that is declared already keeps its declaration. -/
def enter (s : Store) (name : TypeName) (kind : Kind) : Store :=
  match s.idOf? name with
  | some _ => s
  | none => s.push name kind

theorem declare_of_parse {text : String} {name : TypeName} (hp : TypeName.parse text = .ok name) (kind : Kind) :
    s.declare text kind = (.ok (s.numberFor name), s.enter name kind) := by
  unfold declare numberFor enter
  cases hid : s.idOf? name with
  | some id => simp only [hp, hid, Option.getD_some]
  | none => simp only [hp, hid, Option.getD_none, push]

theorem enter_cases (s : Store) (name : TypeName) (kind : Kind) :
    (∃ id, s.idOf? name = some id ∧ s.enter name kind = s) ∨
      s.idOf? name = none ∧ s.enter name kind = s.push name kind := by
  unfold enter
  cases s.idOf? name with
  | some id => exact .inl ⟨id, rfl, rfl⟩
  | none => exact .inr ⟨rfl, rfl⟩

theorem names_enter (h : s.Sound) (name : TypeName) (kind : Kind) :
    (s.enter name kind).names = if name ∈ s.names then s.names else s.names ++ [name] := by
  rcases enter_cases s name kind with ⟨id, hid, hs⟩ | ⟨hnew, hs⟩
  · have hmem : name ∈ s.names := by
      by_contra hout
      rw [h.idOf?_eq_none_iff.2 hout] at hid
      cases hid
    rw [hs, if_pos hmem]
  · rw [hs, if_neg (h.idOf?_eq_none_iff.1 hnew), names, push, List.map_append]
    rfl

theorem kindOf?_eq_none_iff {name : TypeName} : s.kindOf? name = none ↔ name ∉ s.names := by
  rw [kindOf?, List.lookup_eq_none_iff, List.forall_mem_map]
  simp only [names, List.mem_map, not_exists, not_and, bne_iff_ne, ne_eq]
  exact forall₂_congr fun _ _ => by rw [eq_comm]

/-- The kind under which a name is declared first is its kind. -/
theorem kindOf?_enter (h : s.Sound) (name : TypeName) (kind : Kind) (other : TypeName) :
    (s.enter name kind).kindOf? other = (s.kindOf? other).or (if other = name then some kind else none) := by
  rcases enter_cases s name kind with ⟨id, hid, hs⟩ | ⟨-, hs⟩
  · rw [hs]
    by_cases hother : other = name
    · subst hother
      cases hk : s.kindOf? other with
      | some k => rfl
      | none =>
        rw [h.idOf?_eq_none_iff.2 (kindOf?_eq_none_iff.1 hk)] at hid
        cases hid
    · rw [if_neg hother, Option.or_none]
  · rw [hs, kindOf?, push, List.map_append, List.lookup_append, kindOf?]
    congr 1
    by_cases hother : other = name
    · simp [hother]
    · simp [List.lookup_cons, hother, beq_eq_false_iff_ne.2 hother]

/-- A name is declared without markers. -/
theorem markersOf_enter (name : TypeName) (kind : Kind) (id : DeclId) :
    (s.enter name kind).markersOf id = s.markersOf id := by
  rcases enter_cases s name kind with ⟨-, -, hs⟩ | ⟨-, hs⟩
  · rw [hs]
  · rw [hs, markersOf, markersOf, get?, get?, push, List.getElem?_append]
    split
    · rfl
    · next hge =>
      rw [List.getElem?_eq_none_iff.2 (Nat.not_lt.1 hge), List.getElem?_singleton]
      split <;> rfl

/-- The number of a name is known once the name is entered. -/
theorem Sound.numberFor_lt (h : s.Sound) (name : TypeName) (kind : Kind) :
    (s.numberFor name).index < (s.enter name kind).size := by
  rcases enter_cases s name kind with ⟨id, hid, hs⟩ | ⟨hnew, hs⟩
  · rw [hs, numberFor, hid]
    exact exists_declaration_iff.1 (h.exists_declaration_idOf? hid)
  · have hle : (DeclId.ofIndex s.size).index ≤ s.size := DeclId.index_ofIndex_le _
    have hsize : (s.push name kind).size = s.size + 1 := by simp [push, size]
    rw [hs, numberFor, hnew, Option.getD_none, hsize]
    omega

/-! ## Attaching a marker -/

/-- The store with a marker behind those of a declaration. -/
def attach (s : Store) (id : DeclId) (m : Marker) : Store :=
  { s with declarations := s.declarations.modify id.index fun d => { d with markers := d.markers ++ [m] } }

theorem annotate_of_lt {id : DeclId} (hid : id.index < s.size) (m : Marker) :
    s.annotate id m = (.ok id, s.attach id m) := by
  rw [annotate, if_pos hid, attach]

/-- What does not look at markers does not see that one is attached. -/
theorem map_declarations_attach {β : Type} {f : Declaration → β} (hf : ∀ d ms, f { d with markers := ms } = f d)
    (id : DeclId) (m : Marker) : (s.attach id m).declarations.map f = s.declarations.map f := by
  refine List.ext_getElem? fun i => ?_
  simp only [attach, List.getElem?_map, List.getElem?_modify]
  cases s.declarations[i]? with
  | none => rfl
  | some d =>
    simp only [Option.map_eq_map, Option.map_some]
    split
    · rw [hf]
    · rfl

theorem names_attach (id : DeclId) (m : Marker) : (s.attach id m).names = s.names :=
  map_declarations_attach (fun _ _ => rfl) id m

theorem kindOf?_attach (id : DeclId) (m : Marker) (name : TypeName) :
    (s.attach id m).kindOf? name = s.kindOf? name := by
  rw [kindOf?, map_declarations_attach (fun _ _ => rfl), kindOf?]

theorem get?_attach (id : DeclId) (m : Marker) (i : DeclId) : (s.attach id m).get? i =
    (s.get? i).map fun d => if i = id then { d with markers := d.markers ++ [m] } else d := by
  simp only [get?, attach, List.getElem?_modify, DeclId.index_inj, eq_comm (a := i), Option.map_eq_map]

theorem markersOf_attach {id : DeclId} (hid : id.index < s.size) (m : Marker) (i : DeclId) :
    (s.attach id m).markersOf i = if i = id then s.markersOf i ++ [m] else s.markersOf i := by
  rw [markersOf, markersOf, get?_attach]
  by_cases hi : i = id
  · subst hi
    have hget : s.get? i = some s.declarations[i.index] := List.getElem?_eq_getElem hid
    simp [hget]
  · simp [hi]

/-! ## Changes -/

namespace Change

/-- The text that a change declares. -/
def text? : Change → Option String
  | .declare text _ => some text
  | .annotate .. => none
  | .scopeMarker text _ => some text

/-- The name that a change declares. -/
def name? (c : Change) : Option TypeName := c.text?.bind fun text => (TypeName.parse text).toOption

/-- The kind under which a change declares. -/
def kind? : Change → Option Kind
  | .declare _ kind => some kind
  | .annotate .. => none
  | .scopeMarker .. => some .markerType

/-- The marker that a change attaches. -/
def marker? : Change → Option Marker
  | .declare .. => none
  | .annotate _ m => some m
  | .scopeMarker _ scopeKind => some (.plain scopeKind)

end Change

/-- Why a change is refused: it declares a text that is no name, or it attaches a marker to an unknown number. -/
inductive Refuses (s : Store) : Change → ModelError → Prop
  | malformed {c : Change} {text : String} {e : ModelError} :
    c.text? = some text → TypeName.parse text = .error e → s.Refuses c e
  | unknown {id : DeclId} {m : Marker} : id ∉ s.host.declarationIds →
    s.Refuses (.annotate id m) (.unknownDeclaration id)

/-- How a change is carried out: the number that it answers, and the store that it leaves. -/
inductive Performs (s : Store) : Change → DeclId → Store → Prop
  | declare {text : String} {name : TypeName} (kind : Kind) : TypeName.parse text = .ok name →
    s.Performs (.declare text kind) (s.numberFor name) (s.enter name kind)
  | annotate {id : DeclId} (m : Marker) : id ∈ s.host.declarationIds →
    s.Performs (.annotate id m) id (s.attach id m)
  | scopeMarker {text : String} {name : TypeName} (scopeKind : TypeName) : TypeName.parse text = .ok name →
    s.Performs (.scopeMarker text scopeKind) (s.numberFor name)
      ((s.enter name .markerType).attach (s.numberFor name) (.plain scopeKind))

theorem Sound.mem_declarationIds_iff_lt (h : s.Sound) {id : DeclId} :
    id ∈ s.host.declarationIds ↔ id.index < s.size :=
  h.mem_declarationIds_iff.trans exists_declaration_iff

/-- **A change is refused and leaves the store as it was, or it is carried out.** -/
theorem apply_cases (h : s.Sound) (c : Change) : (∃ e, s.Refuses c e ∧ s.apply c = (.error e, s)) ∨
    ∃ id s', s.Performs c id s' ∧ s.apply c = (.ok id, s') := by
  cases c with
  | declare text kind =>
    cases hp : TypeName.parse text with
    | error e => exact .inl ⟨e, .malformed rfl hp, by simp only [apply, declare, hp]⟩
    | ok name =>
      refine .inr ⟨_, _, .declare kind hp, ?_⟩
      rw [apply, declare_of_parse hp]
  | annotate id m =>
    by_cases hid : id.index < s.size
    · refine .inr ⟨_, _, .annotate m (h.mem_declarationIds_iff_lt.2 hid), ?_⟩
      rw [apply, annotate_of_lt hid]
    · refine .inl ⟨_, .unknown (mt h.mem_declarationIds_iff_lt.1 hid), ?_⟩
      rw [apply, annotate, if_neg hid]
  | scopeMarker text scopeKind =>
    cases hp : TypeName.parse text with
    | error e => exact .inl ⟨e, .malformed rfl hp, by simp only [apply, scopeMarker, declare, hp]⟩
    | ok name =>
      refine .inr ⟨_, _, .scopeMarker scopeKind hp, ?_⟩
      -- the number is known by the time the marker is attached, so the second half of the change cannot fail
      rw [apply, scopeMarker, declare_of_parse hp]
      simp only [annotate_of_lt (h.numberFor_lt name .markerType)]

section Performed

variable {c : Change} {id : DeclId} {s' : Store}

/-- A change is refused for one reason. -/
theorem Refuses.unique {c : Change} {e e' : ModelError} (hr : s.Refuses c e) (hr' : s.Refuses c e') : e = e' := by
  cases hr with
  | malformed ht he =>
    cases hr' with
    | malformed ht' he' =>
      cases ht.symm.trans ht'
      exact Except.error.inj (he.symm.trans he')
    | unknown hid => cases ht
  | unknown hid =>
    cases hr' with
    | malformed ht' he' => cases ht'
    | unknown hid' => rfl

/-- What is refused is not carried out. -/
theorem Refuses.not_performs {e : ModelError} (hr : s.Refuses c e) (hp : s.Performs c id s') : False := by
  cases hp with
  | declare kind hp | scopeMarker scopeKind hp =>
    cases hr with
    | malformed ht he =>
      cases ht
      rw [hp] at he
      cases he
  | annotate m hid =>
    cases hr with
    | malformed ht => cases ht
    | unknown hout => exact hout hid

/-- A new name stands behind the others. -/
theorem names_performs (h : s.Sound) (hp : s.Performs c id s') : s'.names =
    match c.name? with
    | none => s.names
    | some name => if name ∈ s.names then s.names else s.names ++ [name] := by
  cases hp with
  | declare kind hp => simp [Change.name?, Change.text?, hp, Except.toOption, names_enter h]
  | annotate m hid => simp [Change.name?, Change.text?, names_attach]
  | scopeMarker scopeKind hp => simp [Change.name?, Change.text?, hp, Except.toOption, names_attach, names_enter h]

/-- A name without a kind gets the one under which it is declared. -/
theorem kindOf?_performs (h : s.Sound) (hp : s.Performs c id s') (name : TypeName) :
    s'.kindOf? name = (s.kindOf? name).or (if c.name? = some name then c.kind? else none) := by
  cases hp with
  | declare kind hp =>
    simp [Change.name?, Change.text?, Change.kind?, hp, Except.toOption, kindOf?_enter h, eq_comm]
  | annotate m hid => simp [Change.name?, Change.text?, kindOf?_attach]
  | scopeMarker scopeKind hp =>
    simp [Change.name?, Change.text?, Change.kind?, hp, Except.toOption, kindOf?_attach, kindOf?_enter h, eq_comm]

/-- A marker stands behind those of the number that is answered, and nowhere else. -/
theorem markersOf_performs (h : s.Sound) (hp : s.Performs c id s') (i : DeclId) :
    s'.markersOf i = s.markersOf i ++ if i = id then c.marker?.toList else [] := by
  cases hp with
  | declare kind hp => simp [Change.marker?, markersOf_enter]
  | annotate m hid =>
    rw [markersOf_attach (h.mem_declarationIds_iff_lt.1 hid)]
    split <;> simp [Change.marker?]
  | @scopeMarker _ name scopeKind hp =>
    rw [markersOf_attach (h.numberFor_lt name .markerType), markersOf_enter]
    split <;> simp [Change.marker?]

end Performed

/-! ## Histories -/

theorem ofChanges_concat (changes : List Change) (c : Change) :
    ofChanges (changes ++ [c]) = ((ofChanges changes).apply c).2 := by
  rw [ofChanges, List.foldl_append]
  rfl

/-- No change takes a declaration away. -/
theorem size_le_apply (h : s.Sound) (c : Change) : s.size ≤ (s.apply c).2.size := by
  have hlen : ∀ s : Store, s.size = s.names.length := fun s => by rw [names, List.length_map, size]
  rcases apply_cases h c with ⟨e, -, hs⟩ | ⟨id, s', hp, hs⟩
  · exact Nat.le_of_eq (congrArg (·.2.size) hs).symm
  · rw [hs, hlen, hlen, names_performs h hp]
    cases c.name? with
    | none => exact Nat.le_refl _
    | some name =>
      dsimp only
      split
      · exact Nat.le_refl _
      · exact (List.sublist_append_left ..).length_le

theorem size_le_foldl : ∀ (changes : List Change) {s : Store}, s.Sound →
    s.size ≤ (changes.foldl (fun s c => (s.apply c).2) s).size
  | [], _, _ => Nat.le_refl _
  | c :: changes, _, h => Nat.le_trans (size_le_apply h c) (size_le_foldl changes (sound_apply h c))

end Store

end ComponentDirective
