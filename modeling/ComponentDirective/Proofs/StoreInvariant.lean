import ComponentDirective.Store
import Mathlib.Data.List.Nodup

/-!
# The invariant of stores

A store keeps its declarations and a table of their numbers. Every change keeps the two in step (`Store.sound_apply`),
so they are in step after every history of changes (`Store.sound_ofChanges`): places are numbers, names are declared
once, and the table answers what a search through the declarations would. Every number that such a store gives away is
known to it, even when numbers have wrapped around (`Sound.mem_declarationIds_iff`, `Sound.exists_declaration_idOf?`).
Before they do, a number and a name stand for one declaration (`Sound.declarationOf_eq_some_iff`).
-/

namespace ComponentDirective

namespace Store

variable {s : Store}

/-! ## The invariant -/

/-- The name and the number of each declaration. -/
def keys (s : Store) : List (TypeName × DeclId) := s.declarations.map fun d => (d.name, d.id)

structure Sound (s : Store) : Prop where
  /-- A declaration has the number of its place. -/
  numbered : ∀ {i : Nat} {k : TypeName × DeclId}, s.keys[i]? = some k → k.2 = .ofIndex i
  /-- No name is declared twice. -/
  distinct : (s.keys.map Prod.fst).Nodup
  /-- The table answers what a search through the declarations answers. -/
  named : ∀ name, s.idOf? name = s.keys.lookup name

theorem sound_empty : empty.Sound where
  numbered h := by simp [keys, empty] at h
  distinct := List.nodup_nil
  named _ := rfl

/-! ## Steps -/

/-- Attaching a marker leaves names and numbers as they are. -/
theorem keys_annotate (s : Store) (id : DeclId) (m : Marker) : (s.annotate id m).2.keys = s.keys := by
  unfold annotate keys
  split
  · refine List.ext_getElem? fun i => ?_
    simp only [List.getElem?_map, List.getElem?_modify]
    cases s.declarations[i]? with
    | none => rfl
    | some d =>
      simp only [Option.map_some]
      split <;> rfl
  · rfl

theorem numbers_annotate (s : Store) (id : DeclId) (m : Marker) : (s.annotate id m).2.numbers = s.numbers := by
  unfold annotate
  split <;> rfl

theorem sound_annotate (h : s.Sound) (id : DeclId) (m : Marker) : (s.annotate id m).2.Sound where
  numbered hk := h.numbered (by rwa [keys_annotate] at hk)
  distinct := by
    rw [keys_annotate]
    exact h.distinct
  named name := by
    rw [keys_annotate, idOf?, numbers_annotate]
    exact h.named name

/-- The store with one more declaration, at the next place. -/
def push (s : Store) (name : TypeName) (kind : Kind) : Store :=
  ⟨s.declarations ++ [⟨.ofIndex s.size, name, kind, []⟩], (name, .ofIndex s.size) :: s.numbers⟩

/-- Declaring a text leaves the store alone or adds a declaration of a new name. -/
theorem declare_cases (s : Store) (text : String) (kind : Kind) : (s.declare text kind).2 = s ∨
    ∃ name, TypeName.parse text = .ok name ∧ s.idOf? name = none ∧
      s.declare text kind = (.ok (.ofIndex s.size), s.push name kind) := by
  unfold declare
  cases TypeName.parse text with
  | error e => exact .inl rfl
  | ok name =>
    cases hid : s.idOf? name with
    | some id => exact .inl (by simp only [hid])
    | none => exact .inr ⟨name, rfl, hid, by simp only [hid, push]⟩

theorem keys_push (s : Store) (name : TypeName) (kind : Kind) :
    (s.push name kind).keys = s.keys ++ [(name, .ofIndex s.size)] := by
  simp [keys, push]

/-- A new name takes the next place. -/
theorem sound_push (h : s.Sound) {name : TypeName} (hnew : s.idOf? name = none) (kind : Kind) :
    (s.push name kind).Sound := by
  rw [h.named] at hnew
  refine ⟨fun {i k} hk => ?_, ?_, fun other => ?_⟩
  · have hlen : s.keys.length = s.size := by simp [keys, size]
    rw [keys_push, List.getElem?_append] at hk
    split at hk
    · exact h.numbered hk
    · obtain ⟨hi, rfl⟩ : i - s.size = 0 ∧ (name, DeclId.ofIndex s.size) = k := by
        simpa [hlen, List.getElem?_singleton] using hk
      rw [show i = s.size by omega]
  · rw [keys_push, List.map_append, List.nodup_append]
    refine ⟨h.distinct, by simp, fun a ha b hb hab => ?_⟩
    obtain rfl : b = name := by simpa using hb
    obtain ⟨k, hk, rfl⟩ := List.mem_map.1 ha
    have := List.lookup_eq_none_iff.1 hnew k hk
    simp [hab] at this
  · rw [keys_push, List.lookup_append, ← h.named other]
    show ((name, DeclId.ofIndex s.size) :: s.numbers).lookup other = (s.numbers.lookup other).or _
    by_cases hother : other = name
    · subst hother
      rw [← h.named, idOf?] at hnew
      simp [hnew]
    · have hne : (other == name) = false := by simpa using hother
      simp [List.lookup_cons, hne]

theorem sound_declare (h : s.Sound) (text : String) (kind : Kind) : (s.declare text kind).2.Sound := by
  rcases declare_cases s text kind with hs | ⟨name, -, hnew, hs⟩
  · rwa [hs]
  · rw [hs]
    exact sound_push h hnew kind

theorem sound_scopeMarker (h : s.Sound) (text : String) (scopeKind : TypeName) :
    (s.scopeMarker text scopeKind).2.Sound := by
  have hdecl := sound_declare h text .markerType
  unfold scopeMarker
  split
  · next hd => rwa [hd] at hdecl
  · next hd =>
    rw [hd] at hdecl
    exact sound_annotate hdecl _ _

/-- **Every change keeps the invariant.** -/
theorem sound_apply (h : s.Sound) : ∀ c : Change, (s.apply c).2.Sound
  | .declare text kind => sound_declare h text kind
  | .annotate id marker => sound_annotate h id marker
  | .scopeMarker text scopeKind => sound_scopeMarker h text scopeKind

/-- **Every history of changes leaves a sound store.** -/
theorem sound_ofChanges (changes : List Change) : (ofChanges changes).Sound := by
  suffices h : ∀ (changes : List Change) (s : Store), s.Sound → (changes.foldl (fun s c => (s.apply c).2) s).Sound from
    h changes empty sound_empty
  intro changes
  induction changes with
  | nil => exact fun s hs => hs
  | cons c changes ih => exact fun s hs => ih _ (sound_apply hs c)

/-! ## Look-ups -/

theorem exists_declaration_iff {id : DeclId} : (∃ d, s.host.declaration id = .ok d) ↔ id.index < s.size := by
  simp only [host, get?]
  cases hd : s.declarations[id.index]? with
  | none => simpa [size] using List.getElem?_eq_none_iff.1 hd
  | some d => simpa [size] using (List.getElem?_eq_some_iff.1 hd).1

theorem declaration_of_error {id : DeclId} {e : ModelError} (h : s.host.declaration id = .error e) :
    e = .unknownDeclaration id := by
  simp only [host] at h
  split at h
  · cases h
  · exact (Except.error.inj h).symm

/-- What is declared stands at the place of its number. -/
theorem Sound.id_eq (h : s.Sound) {i : Nat} {d : Declaration} (hd : s.declarations[i]? = some d) : d.id = .ofIndex i :=
  h.numbered (k := (d.name, d.id)) (by simp [keys, hd])

/-- The number of a declaration in the store is known; one that wraps around is the number of an earlier place. -/
theorem Sound.exists_declaration_id (h : s.Sound) {d : Declaration} (hd : d ∈ s.declarations) :
    ∃ d', s.host.declaration d.id = .ok d' := by
  obtain ⟨i, hi⟩ := List.getElem?_of_mem hd
  have hlt : i < s.size := (List.getElem?_eq_some_iff.1 hi).1
  have hle : (DeclId.ofIndex i).index ≤ i := DeclId.index_ofIndex_le i
  rw [h.id_eq hi, exists_declaration_iff]
  omega

/-- The listed numbers are those for which there is a declaration. -/
theorem Sound.mem_declarationIds_iff (h : s.Sound) {id : DeclId} :
    id ∈ s.host.declarationIds ↔ ∃ d, s.host.declaration id = .ok d := by
  show id ∈ s.declarations.map (·.id) ↔ _
  rw [List.mem_map]
  constructor
  · rintro ⟨d, hd, rfl⟩
    exact h.exists_declaration_id hd
  · intro hknown
    have hlt : id.index < s.declarations.length := exists_declaration_iff.1 hknown
    have hd := List.getElem?_eq_getElem hlt
    exact ⟨_, List.mem_of_getElem? hd, by rw [h.id_eq hd, DeclId.ofIndex_index]⟩

/-- The number of a name is known. -/
theorem Sound.exists_declaration_idOf? (h : s.Sound) {name : TypeName} {id : DeclId} (hid : s.idOf? name = some id) :
    ∃ d, s.host.declaration id = .ok d := by
  rw [h.named] at hid
  obtain ⟨before, after, hkeys, -⟩ := List.lookup_eq_some_iff.1 hid
  have hmem : (name, id) ∈ s.keys := by simp [hkeys]
  obtain ⟨d, hd, hk⟩ := List.mem_map.1 hmem
  obtain ⟨-, rfl⟩ := Prod.mk.inj hk
  exact h.exists_declaration_id hd

/-! ## Names and numbers -/

/-- The declared names, in the order of declaration. -/
def names (s : Store) : List TypeName := s.declarations.map (·.name)

theorem keys_map_fst (s : Store) : s.keys.map Prod.fst = s.names := by
  simp [keys, names]

theorem Sound.nodup_names (h : s.Sound) : s.names.Nodup := by
  rw [← keys_map_fst]
  exact h.distinct

/-- The table knows the names that are declared. -/
theorem Sound.idOf?_eq_none_iff (h : s.Sound) {name : TypeName} : s.idOf? name = none ↔ name ∉ s.names := by
  rw [h.named, List.lookup_eq_none_iff, ← keys_map_fst]
  simp only [List.mem_map, not_exists, not_and, bne_iff_ne, ne_eq]
  exact forall₂_congr fun _ _ => by rw [eq_comm]

theorem declaration_eq_ok_iff {id : DeclId} {d : Declaration} :
    s.host.declaration id = .ok d ↔ s.declarations[id.index]? = some d := by
  simp only [host, get?]
  cases s.declarations[id.index]? with
  | none => simp
  | some e => simp

theorem mem_of_declaration {id : DeclId} {d : Declaration} (hd : s.host.declaration id = .ok d) : d ∈ s.declarations :=
  List.mem_of_getElem? (declaration_eq_ok_iff.1 hd)

/-- A declaration bears the number under which it is known. -/
theorem Sound.id_of_declaration (h : s.Sound) {id : DeclId} {d : Declaration} (hd : s.host.declaration id = .ok d) :
    d.id = id := by
  rw [h.id_eq (declaration_eq_ok_iff.1 hd), DeclId.ofIndex_index]

/-- Declarations with one name are one declaration. -/
theorem Sound.eq_of_name (h : s.Sound) {d e : Declaration} (hd : d ∈ s.declarations) (he : e ∈ s.declarations)
    (hname : d.name = e.name) : d = e :=
  List.inj_on_of_nodup_map h.nodup_names hd he hname

/-- Numbers of one name are one number. -/
theorem Sound.number_eq_of_name (h : s.Sound) {i j : DeclId} {d e : Declaration} (hd : s.host.declaration i = .ok d)
    (he : s.host.declaration j = .ok e) (hname : d.name = e.name) : i = j := by
  obtain rfl := h.eq_of_name (mem_of_declaration hd) (mem_of_declaration he) hname
  rw [← h.id_of_declaration hd, h.id_of_declaration he]

section Numbered

/-! Beyond `UInt32.size` declarations numbers wrap around, and a declaration is no longer known under its number. -/

variable (h : s.Sound) (hsize : s.size ≤ UInt32.size)
include h hsize

/-- Every declaration is known under its own number. -/
theorem Sound.declaration_id {d : Declaration} (hd : d ∈ s.declarations) : s.host.declaration d.id = .ok d := by
  obtain ⟨i, hi⟩ := List.getElem?_of_mem hd
  have hlt : i < s.size := (List.getElem?_eq_some_iff.1 hi).1
  rw [declaration_eq_ok_iff, h.id_eq hi, DeclId.index_ofIndex (by omega), hi]

/-- Each number is listed once. -/
theorem Sound.nodup_declarationIds : s.host.declarationIds.Nodup := by
  refine List.Nodup.map_on (fun d hd e he hid => ?_) (h.nodup_names.of_map _)
  have hde := h.declaration_id hsize hd
  rw [hid, h.declaration_id hsize he] at hde
  exact (Except.ok.inj hde).symm

/-- The number of a name is that of the declaration with the name. -/
theorem Sound.declarationOf_eq_some_iff {name : TypeName} {id : DeclId} :
    s.host.declarationOf name = some id ↔ ∃ d, s.host.declaration id = .ok d ∧ d.name = name := by
  have hforward : ∀ {id}, s.host.declarationOf name = some id → ∃ d, s.host.declaration id = .ok d ∧ d.name = name := by
    intro id hid
    change s.idOf? name = some id at hid
    rw [h.named] at hid
    obtain ⟨before, after, hkeys, -⟩ := List.lookup_eq_some_iff.1 hid
    obtain ⟨d, hd, hk⟩ := List.mem_map.1 (show (name, id) ∈ s.keys by simp [hkeys])
    obtain ⟨rfl, rfl⟩ := Prod.mk.inj hk
    exact ⟨d, h.declaration_id hsize hd, rfl⟩
  refine ⟨hforward, ?_⟩
  rintro ⟨d, hd, rfl⟩
  cases hid : s.host.declarationOf d.name with
  | none => exact absurd (List.mem_map_of_mem (mem_of_declaration hd)) (h.idOf?_eq_none_iff.1 hid)
  | some i =>
    obtain ⟨e, he, hname⟩ := hforward hid
    rw [h.number_eq_of_name he hd hname]

end Numbered

end Store

end ComponentDirective
