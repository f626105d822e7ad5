import ComponentDirective.Proofs.StoreSteps
import Mathlib.Data.List.Forall2

/-!
# A store and the calls that have built it

A history is a list of calls, each with its answer (`Store.calls`). The three views of a store can be read off the
history alone: each call adds to them what it is about, if it succeeds (`Store.reflects_apply`), so they match after
every history (`Store.reflects_ofChanges`). As long as each declaration has a number of its own, all answers of the
store follow from the calls (`Store.agrees_ofChanges`).
-/

namespace ComponentDirective

namespace Store

variable {s : Store}

/-! ## Histories -/

/-- A change that was asked for, and what was answered. -/
structure Call where
  change : Change
  answer : Except ModelError DeclId

namespace Call

/-- The name that a successful call declares. -/
def name? (c : Call) : Option TypeName :=
  match c.answer with
  | .ok _ => c.change.name?
  | .error _ => none

/-- The kind under which a successful call declares a name. -/
def kind? (name : TypeName) (c : Call) : Option Kind := if c.name? = some name then c.change.kind? else none

/-- The marker that a successful call attaches to the declaration of a number. -/
def marker? (id : DeclId) (c : Call) : Option Marker :=
  match c.answer with
  | .ok i => if id = i then c.change.marker? else none
  | .error _ => none

section Answered

variable (c : Change) (i id : DeclId) (e : ModelError) (name : TypeName)

@[simp] theorem name?_ok : name? ⟨c, .ok i⟩ = c.name? := rfl

@[simp] theorem name?_error : name? ⟨c, .error e⟩ = none := rfl

@[simp] theorem kind?_ok : kind? name ⟨c, .ok i⟩ = if c.name? = some name then c.kind? else none := rfl

@[simp] theorem kind?_error : kind? name ⟨c, .error e⟩ = none := rfl

@[simp] theorem marker?_ok : marker? id ⟨c, .ok i⟩ = if id = i then c.marker? else none := rfl

@[simp] theorem marker?_error : marker? id ⟨c, .error e⟩ = none := rfl

end Answered

end Call

/-- The calls of a history that begins with a store. -/
def calls : Store → List Change → List Call
  | _, [] => []
  | s, c :: changes => ⟨c, (s.apply c).1⟩ :: (s.apply c).2.calls changes

/-- The views of a store are what the successful calls are about: the names in the order of their first declaration, the
kinds of these declarations, and the markers in the order of the calls. -/
structure Reflects (s : Store) (log : List Call) : Prop where
  names : s.names = (log.filterMap Call.name?).eraseDups
  kinds : ∀ name, s.kindOf? name = log.findSome? (Call.kind? name)
  markers : ∀ id, s.markersOf id = log.filterMap (Call.marker? id)

theorem eraseDups_concat {α : Type} [DecidableEq α] (xs : List α) (x : α) :
    (xs ++ [x]).eraseDups = if x ∈ xs then xs.eraseDups else xs.eraseDups ++ [x] := by
  rw [List.eraseDups_append]
  split
  · next h => simp [List.removeAll, h]
  · next h => simp [List.removeAll, h, List.eraseDups_cons]

theorem reflects_empty : empty.Reflects [] where
  names := rfl
  kinds _ := rfl
  markers _ := rfl

/-- **One more call.** -/
theorem reflects_apply (h : s.Sound) {log : List Call} (hr : s.Reflects log) (c : Change) :
    (s.apply c).2.Reflects (log ++ [⟨c, (s.apply c).1⟩]) := by
  rcases apply_cases h c with ⟨e, -, hs⟩ | ⟨id, s', hp, hs⟩
  · -- a refused change adds nothing to either side
    rw [hs]
    refine ⟨?_, fun name => ?_, fun id => ?_⟩
    · simp [hr.names, List.filterMap_cons]
    · simp [hr.kinds, List.findSome?_append]
    · simp [hr.markers, List.filterMap_cons]
  · rw [hs]
    refine ⟨?_, fun name => ?_, fun i => ?_⟩
    · rw [names_performs h hp, hr.names, List.filterMap_append]
      cases hn : c.name? with
      | none => simp [hn]
      | some name => simp [hn, eraseDups_concat]
    · rw [kindOf?_performs h hp, hr.kinds, List.findSome?_append]
      simp
    · rw [markersOf_performs h hp, hr.markers, List.filterMap_append]
      by_cases hi : i = id
      · cases hm : c.marker? <;> simp [hi, hm]
      · simp [hi]

/-- **Every store reflects its history.** -/
theorem reflects_ofChanges (changes : List Change) : (ofChanges changes).Reflects (empty.calls changes) := by
  suffices h : ∀ (changes : List Change) (s : Store) (log : List Call), s.Sound → s.Reflects log →
      (changes.foldl (fun s c => (s.apply c).2) s).Reflects (log ++ s.calls changes) from
    h changes empty [] sound_empty reflects_empty
  intro changes
  induction changes with
  | nil =>
    intro s log _ hr
    rwa [calls, List.append_nil]
  | cons c changes ih =>
    intro s log hs hr
    have hstep := ih _ _ (sound_apply hs c) (reflects_apply hs hr c)
    rwa [List.append_assoc, List.singleton_append] at hstep

/-! ## Answers -/

/-- What the queries of a store answer, read off the calls that have built it. -/
structure Agrees (s : Store) (log : List Call) : Prop where
  /-- The numbers count the declarations from 0. -/
  numbered : s.host.declarationIds.map (·.index) = List.range s.size
  /-- A declaration bears the number under which it is known. -/
  id_eq : ∀ {id d}, s.host.declaration id = .ok d → d.id = id
  /-- The declarations are those of the declared names, in the order in which these were declared first. -/
  names : List.Forall₂ (fun id name => ∃ d, s.host.declaration id = .ok d ∧ d.name = name) s.host.declarationIds
    (log.filterMap Call.name?).eraseDups
  /-- No two declarations have one name. -/
  distinct : ∀ {i j d e}, s.host.declaration i = .ok d → s.host.declaration j = .ok e → d.name = e.name → i = j
  declarationOf : ∀ {name id}, s.host.declarationOf name = some id ↔ ∃ d, s.host.declaration id = .ok d ∧ d.name = name
  /-- A declaration has the kind under which its name was declared first. -/
  kind : ∀ {id d}, s.host.declaration id = .ok d → log.findSome? (Call.kind? d.name) = some d.kind
  /-- A declaration has the markers that calls have attached to it, in the order of the calls. -/
  markers : ∀ {id d}, s.host.declaration id = .ok d → d.markers = log.filterMap (Call.marker? id)

theorem kindOf?_of_declaration (h : s.Sound) {id : DeclId} {d : Declaration} (hd : s.host.declaration id = .ok d) :
    s.kindOf? d.name = some d.kind := by
  have hmem := mem_of_declaration hd
  cases hk : s.kindOf? d.name with
  | none => exact absurd (List.mem_map_of_mem hmem) (kindOf?_eq_none_iff.1 hk)
  | some kind =>
    obtain ⟨before, after, hkinds, -⟩ := List.lookup_eq_some_iff.1 hk
    obtain ⟨e, he, hpair⟩ := List.mem_map.1
      (show (d.name, kind) ∈ s.declarations.map fun d => (d.name, d.kind) by simp [hkinds])
    obtain ⟨hname, rfl⟩ := Prod.mk.inj hpair
    rw [h.eq_of_name he hmem hname]

/-- A store that reflects its history answers as the history says, as long as it has a number for each declaration. -/
theorem Reflects.agrees {log : List Call} (hr : s.Reflects log) (h : s.Sound) (hsize : s.size ≤ UInt32.size) :
    s.Agrees log where
  numbered := by
    refine List.ext_getElem? fun i => ?_
    rw [host, List.map_map, List.getElem?_map]
    cases hi : s.declarations[i]? with
    | none => exact (List.getElem?_eq_none_iff.2 (by simpa [size] using hi)).symm
    | some d =>
      have hlt : i < s.size := (List.getElem?_eq_some_iff.1 hi).1
      rw [List.getElem?_range hlt, Option.map_some, Function.comp_apply, h.id_eq hi, DeclId.index_ofIndex (by omega)]
  id_eq := h.id_of_declaration
  names := by
    rw [← hr.names]
    exact List.forall₂_map_left_iff.2 (List.forall₂_map_right_iff.2 (List.forall₂_same.2 fun d hd =>
      ⟨d, h.declaration_id hsize hd, rfl⟩))
  distinct := h.number_eq_of_name
  declarationOf := h.declarationOf_eq_some_iff hsize
  kind hd := by rw [← hr.kinds, kindOf?_of_declaration h hd]
  markers hd := by
    rw [← hr.markers, markersOf, get?, declaration_eq_ok_iff.1 hd]
    rfl

/-- **A store agrees with its history.** Numbers count the declarations; names are distinct, stand in the order in which
they were first declared, and lead to their declaration and no other; its kind is that of the first declaration, and its
markers are those that successful calls have attached, in the order of the calls. A further change fails exactly when it
declares a text that is no name or asks for an unknown number, and then it leaves the store as it is; so does declaring
a name again, under whatever kind. -/
theorem agrees_ofChanges (changes : List Change) (hsize : (ofChanges changes).size < UInt32.size) :
    let s := ofChanges changes
    s.Agrees (empty.calls changes) ∧
    (∀ c e, (s.apply c).1 = .error e ↔ s.Refuses c e) ∧
    (∀ c e, (s.apply c).1 = .error e → (s.apply c).2 = s) ∧
    ∀ text kind name id, TypeName.parse text = .ok name → s.host.declarationOf name = some id →
      s.apply (.declare text kind) = (.ok id, s) := by
  intro s
  have h : s.Sound := sound_ofChanges changes
  refine ⟨(reflects_ofChanges changes).agrees h (Nat.le_of_lt hsize), fun c e => ?_, fun c e he => ?_, ?_⟩
  · rcases apply_cases h c with ⟨e', hr, hs⟩ | ⟨id, s', hp, hs⟩
    · rw [hs]
      exact ⟨fun he => Except.error.inj he ▸ hr, fun hr' => congrArg Except.error (hr.unique hr')⟩
    · rw [hs]
      exact ⟨nofun, fun hr => (hr.not_performs hp).elim⟩
  · rcases apply_cases h c with ⟨e', -, hs⟩ | ⟨id, s', -, hs⟩
    · rw [hs]
    · rw [hs] at he
      cases he
  · intro text kind name id hp hid
    rw [apply]
    exact declare_again kind hp hid

/-- A history in which a text that is no name is declared, a marker type is declared again as an interface, and a marker
is attached to an unknown number. -/
theorem agrees_ofChanges_repeated :
    let scopeKind : TypeName := ⟨"javax.inject.Scope", by decide⟩
    let shared : TypeName := ⟨"demo.Shared", by decide⟩
    let changes : List Change := [.declare "demo..App" .classType, .scopeMarker " demo.Shared " scopeKind,
      .declare "demo.Shared" .interfaceType, .annotate ⟨7⟩ (.plain shared), .declare "demo.App" .classType,
      .annotate ⟨0⟩ (.plain shared), .scopeMarker "demo.Shared" scopeKind]
    (ofChanges changes).size < UInt32.size ∧
    ∃ d, (ofChanges changes).host.declaration ⟨0⟩ = .ok d ∧ d.name = shared ∧ d.kind = .markerType ∧
      d.markers.map (·.type) = [scopeKind, shared, scopeKind] ∧
      ((ofChanges changes).apply (.annotate ⟨7⟩ (.plain shared))).2 = ofChanges changes := by
  intro scopeKind shared changes
  have hsize : (ofChanges changes).size < UInt32.size := by decide
  have hid : (ofChanges changes).host.declarationOf shared = some ⟨0⟩ := by decide
  obtain ⟨hagrees, hrefuses, hkeep, -⟩ := agrees_ofChanges changes hsize
  obtain ⟨d, hd, hname⟩ := hagrees.declarationOf.1 hid
  refine ⟨hsize, d, hd, hname, ?_, ?_, hkeep _ _ ((hrefuses _ _).2 (.unknown (by decide)))⟩
  · have hkind := hagrees.kind hd
    rw [hname] at hkind
    exact (Option.some.inj (Eq.trans (by decide) hkind)).symm
  · rw [hagrees.markers hd]
    decide

end Store

end ComponentDirective
