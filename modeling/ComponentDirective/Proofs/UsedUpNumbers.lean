import ComponentDirective.Proofs.QualifiedNames
import ComponentDirective.Proofs.StoreRuns
import ComponentDirective.Proofs.StoreSteps
import Mathlib.Data.Int.CardIntervalMod

/-!
# When all numbers are used up

A store has `UInt32.size` numbers to give. After that it starts again with the first one, so a number is listed once for
each full round and once more if the last round has come to it (`Store.Sound.count_declarationIds`). Under a number that
is given twice only the earlier declaration is known, and discovery comes to it twice: a component that alone bears
markers is discovered as often as its number is listed (`Host.Closed.discover_alone`). `Store.crowd` declares any number
of names without markers, which leads to stores of every size (`Store.discover_crowd`).
-/

namespace ComponentDirective

/-! ## How often a number is listed -/

theorem DeclId.ofIndex_eq_iff {i : Nat} {id : DeclId} : ofIndex i = id ↔ i % UInt32.size = id.index := by
  rw [← index_inj, ofIndex, index, UInt32.toNat_ofNat']

namespace Store

/-- Numbers are given away in order, round after round. -/
theorem Sound.declarationIds_eq {s : Store} (h : s.Sound) :
    s.host.declarationIds = (List.range s.size).map DeclId.ofIndex := by
  refine List.ext_getElem (by simp [host, size]) fun i hi hi' => ?_
  simp only [host, List.getElem_map, List.getElem_range]
  exact h.id_eq (List.getElem?_eq_getElem _)

/-- **A number is listed once for each full round, and once more if the last round has come to it.** -/
theorem Sound.count_declarationIds {s : Store} (h : s.Sound) (id : DeclId) : s.host.declarationIds.count id =
    s.size / UInt32.size + if id.index < s.size % UInt32.size then 1 else 0 := by
  have hlt : id.index < UInt32.size := id.number.toNat_lt
  have hround : ∀ n, ((List.range n).map DeclId.ofIndex).count id = n.count (· ≡ id.index [MOD UInt32.size]) := by
    intro n
    induction n with
    | zero => rfl
    | succ n ih =>
      have hlast : DeclId.ofIndex n = id ↔ n ≡ id.index [MOD UInt32.size] := by
        rw [DeclId.ofIndex_eq_iff, Nat.ModEq, Nat.mod_eq_of_lt hlt]
      rw [List.range_succ, List.map_append, List.count_append, ih, Nat.count_succ, List.map_singleton,
        List.count_singleton]
      simp only [beq_iff_eq, hlast]
  have hcount := Nat.count_modEq_card s.size (by decide : 0 < UInt32.size) id.index
  rw [Nat.mod_eq_of_lt hlt] at hcount
  rw [h.declarationIds_eq, hround, hcount]

end Store

/-! ## One component alone -/

namespace Host

variable {h : Host} {directive : TypeName} {component : DeclId} {co : Declaration}
  (hco : h.declaration component = .ok co) (hk : co.isMarkerType = false) (hb : co.bears directive = true)
  (halone : ∀ {id d}, h.declaration id = .ok d → id ≠ component → d.markers = [])
include hco hk hb halone

theorem requestsOf_alone (id : DeclId) : h.requestsOf directive id = if id = component then [.direct id] else [] := by
  split
  · next hid =>
    subst hid
    have hnone : ∀ m ∈ co.markers, (h.carrier? directive m).map (Request.indirect · id) = none := by
      -- a carrier has a marker, so it would be the component, which is no marker type
      intro m _
      rw [Option.map_eq_none_iff, Option.eq_none_iff_forall_not_mem]
      intro carrier hc
      obtain ⟨-, d, hd, hdk, n, hn, -⟩ := carrier?_eq_some_iff.1 hc
      have hne : carrier ≠ id := by
        rintro rfl
        cases hco.symm.trans hd
        rw [Declaration.isMarkerType_iff.2 hdk] at hk
        cases hk
      rw [halone hd hne] at hn
      cases hn
    simp only [requestsOf, hco, hk, hb, if_true, Bool.false_eq_true, if_false, List.filterMap_eq_nil_iff.2 hnone,
      List.append_nil]
  · next hid =>
    unfold requestsOf
    cases hd : h.declaration id with
    | error e => rfl
    | ok d => simp [halone hd hid, Declaration.bears, Declaration.find?]

theorem flatMap_requestsOf_alone : ∀ ids : List DeclId,
    ids.flatMap (h.requestsOf directive) = List.replicate (ids.count component) (.direct component)
  | [] => rfl
  | id :: ids => by
    rw [List.flatMap_cons, flatMap_requestsOf_alone ids, requestsOf_alone hco hk hb halone, List.count_cons]
    by_cases hid : id = component
    · simp [hid, List.replicate_succ]
    · simp [hid]

/-- **A component that alone bears markers is discovered as often as its number is listed.** -/
theorem Closed.discover_alone (hc : h.Closed) {o : Options} (hd : o.directive = .ok directive) :
    h.discover o = .ok (List.replicate (h.declarationIds.count component) (.direct component)) := by
  rw [hc.discover_eq hd, flatMap_requestsOf_alone hco hk hb halone]

end Host

/-! ## Stores of every size -/

namespace Store

/-- The names of a crowd have no dot, and each is one letter longer than the one before. -/
def crowdName (i : Nat) : TypeName where
  text := String.ofList (List.replicate (i + 1) 'x')
  qualified := by
    have hpart : ∀ c ∈ List.replicate i 'x', IsPart c := fun c hc => by
      rw [List.eq_of_mem_replicate hc, ← isIdentPart_iff]
      decide
    rw [String.toList_ofList, isQualified_iff]
    exact .simple (.intro (isIdentStart_iff.1 (by decide)) hpart)

theorem toList_crowdName (i : Nat) : (crowdName i).text.toList = List.replicate (i + 1) 'x' :=
  String.toList_ofList

theorem crowdName_inj {i j : Nat} (h : crowdName i = crowdName j) : i = j := by
  have hlen := congrArg (·.text.toList.length) h
  simpa [toList_crowdName] using hlen

theorem crowdName_ne {name : TypeName} (h : '.' ∈ name.text.toList) (i : Nat) : crowdName i ≠ name := by
  rintro rfl
  rw [toList_crowdName] at h
  cases List.eq_of_mem_replicate h

/-- The next declaration of a crowd. -/
def joining (i : Nat) : Change := .declare (crowdName i).text .classType

/-- Declares any number of names, and attaches no marker. -/
def crowd (n : Nat) : List Change := (List.range n).map joining

theorem crowd_succ (n : Nat) : crowd (n + 1) = crowd n ++ [joining n] := by
  rw [crowd, List.range_succ, List.map_append]
  rfl

/-- A component with the directive is the only declaration that bears markers. -/
structure Alone (s : Store) (directive : TypeName) (component : DeclId) (co : Declaration) : Prop where
  known : s.host.declaration component = .ok co
  notMarkerType : co.isMarkerType = false
  carries : co.bears directive = true
  others : ∀ d ∈ s.declarations, d.id ≠ component → d.markers = []

section Crowd

variable {changes : List Change} (hnew : ∀ name ∈ (ofChanges changes).names, '.' ∈ name.text.toList)
include hnew

/-- A crowd stands behind the declarations that there are. -/
theorem declarations_crowd : ∀ n, (ofChanges (changes ++ crowd n)).declarations = (ofChanges changes).declarations ++
    (List.range n).map fun i => ⟨.ofIndex ((ofChanges changes).size + i), crowdName i, .classType, []⟩
  | 0 => by simp [crowd]
  | n + 1 => by
    have ih := declarations_crowd n
    have hout : (ofChanges (changes ++ crowd n)).idOf? (crowdName n) = none := by
      rw [(sound_ofChanges _).idOf?_eq_none_iff, names, ih, List.map_append, List.mem_append]
      rintro (hold | hcrowd)
      · exact crowdName_ne (hnew _ hold) n rfl
      · rw [List.map_map, List.mem_map] at hcrowd
        obtain ⟨i, hi, hname⟩ := hcrowd
        exact absurd (crowdName_inj hname) (List.mem_range.1 hi).ne
    have hsize : (ofChanges (changes ++ crowd n)).size = (ofChanges changes).size + n := by simp [size, ih]
    rw [crowd_succ, ← List.append_assoc, ofChanges_concat, joining, apply, declare_of_parse (TypeName.parse_text _)]
    rcases enter_cases (ofChanges (changes ++ crowd n)) (crowdName n) .classType with ⟨id, hid, -⟩ | ⟨-, hpush⟩
    · rw [hout] at hid
      cases hid
    · rw [hpush, push, hsize, ih, List.range_succ, List.map_append, List.append_assoc]
      rfl

theorem size_crowd (n : Nat) : (ofChanges (changes ++ crowd n)).size = (ofChanges changes).size + n := by
  simp [size, declarations_crowd hnew]

/-- A crowd adds classes without markers. -/
theorem declaration_crowd {n : Nat} {id : DeclId} {d : Declaration}
    (hd : (ofChanges (changes ++ crowd n)).host.declaration id = .ok d) :
    (ofChanges changes).host.declaration id = .ok d ∨ d.kind = .classType ∧ d.markers = [] := by
  rw [declaration_eq_ok_iff, declarations_crowd hnew, List.getElem?_append] at hd
  split at hd
  · exact .inl (declaration_eq_ok_iff.2 hd)
  · obtain ⟨i, -, rfl⟩ := List.mem_map.1 (List.mem_of_getElem? hd)
    exact .inr ⟨rfl, rfl⟩

theorem declaration_crowd_of_ok (n : Nat) {id : DeclId} {d : Declaration}
    (hd : (ofChanges changes).host.declaration id = .ok d) :
    (ofChanges (changes ++ crowd n)).host.declaration id = .ok d := by
  rw [declaration_eq_ok_iff] at hd ⊢
  rw [declarations_crowd hnew, List.getElem?_append_left (List.getElem?_eq_some_iff.1 hd).1, hd]

/-- **A component in a crowd is discovered once for each round of the numbers that has come to its own.** -/
theorem discover_crowd {o : Options} {directive : TypeName} (hd : o.directive = .ok directive) {component : DeclId}
    {co : Declaration} (ha : (ofChanges changes).Alone directive component co) (n : Nat) :
    let size := (ofChanges changes).size + n
    (ofChanges (changes ++ crowd n)).host.discover o = .ok (List.replicate
      (size / UInt32.size + if component.index < size % UInt32.size then 1 else 0) (.direct component)) := by
  intro size
  have hsound := sound_ofChanges (changes ++ crowd n)
  have hco := declaration_crowd_of_ok hnew n ha.known
  rw [hsound.closed_host.discover_alone hco ha.notMarkerType ha.carries (fun hid hne => ?_) hd,
    hsound.count_declarationIds, size_crowd hnew]
  rcases declaration_crowd hnew hid with hid | ⟨-, hnone⟩
  · exact ha.others _ (mem_of_declaration hid) ((sound_ofChanges changes).id_of_declaration hid ▸ hne)
  · exact hnone

end Crowd

end Store

end ComponentDirective
