import ComponentDirective.Proofs.DirectiveContents
import Mathlib.Data.List.Induction
import Mathlib.Data.List.Nodup
import Mathlib.Data.List.Perm.Subperm

/-!
# Markers as what was written on them

The fields of a marker stand in the order in which they were first written (`Fields.pairwise_names_ofWrites`), and each
has the value that was written last (`Fields.get?_ofWrites_eq_some_iff`). As no name stands twice, two markers are the
same exactly when their types are and every look-up answers alike (`Marker.sameAs_iff`), in whatever order their fields
stand; and then their entries differ in order only (`Fields.sameAs_iff_perm`). The readers of fields cannot tell such
markers apart (`Marker.sameAs_ofWrites`).
-/

namespace ComponentDirective

/-! ## Values -/

namespace Value

/-- Values of one kind with the same content. The entries of lists are compared one after another, in the same way. -/
inductive Alike : Value → Value → Prop
  | type (name : TypeName) : Alike (.type name) (.type name)
  | unresolved (text : String) : Alike (.unresolved text) (.unresolved text)
  | list {vs ws : List Value} : List.Forall₂ Alike vs ws → Alike (.list vs) (.list ws)
  | text (content : String) : Alike (.text content) (.text content)
  | int (number : Int64) : Alike (.int number) (.int number)
  | bool (flag : Bool) : Alike (.bool flag) (.bool flag)

mutual

theorem alike_iff (v w : Value) : v.Alike w ↔ v = w := by
  constructor
  · intro h
    cases h with
    | list h => exact congrArg list ((forall₂_alike_iff _ _).1 h)
    | _ => rfl
  · rintro rfl
    cases v with
    | type t => exact .type t
    | unresolved s => exact .unresolved s
    | list vs => exact .list ((forall₂_alike_iff vs vs).2 rfl)
    | text s => exact .text s
    | int n => exact .int n
    | bool b => exact .bool b

theorem forall₂_alike_iff (vs ws : List Value) : List.Forall₂ Alike vs ws ↔ vs = ws := by
  match vs, ws with
  | [], [] => simp
  | [], w :: ws => simp
  | v :: vs, [] => simp
  | v :: vs, w :: ws => rw [List.forall₂_cons, alike_iff v w, forall₂_alike_iff vs ws, List.cons.injEq]

end

end Value

/-! ## Look-ups -/

namespace Fields

/-- As no name stands twice, a look-up answers every entry. -/
theorem get?_eq_some_iff {f : Fields} {name : String} {value : Value} :
    f.get? name = some value ↔ (name, value) ∈ f.entries := by
  rw [get?, List.lookup_eq_some_iff]
  constructor
  · rintro ⟨before, after, hentries, -⟩
    simp [hentries]
  · intro hmem
    obtain ⟨before, after, hentries⟩ := List.mem_iff_append.1 hmem
    refine ⟨before, after, hentries, fun e he => bne_iff_ne.2 fun hname => ?_⟩
    have hdistinct := f.distinct
    rw [hentries, List.map_append, List.map_cons, List.nodup_append] at hdistinct
    exact hdistinct.2.2 _ (List.mem_map_of_mem he) _ List.mem_cons_self hname.symm

theorem get?_eq_none_iff {f : Fields} {name : String} : f.get? name = none ↔ name ∉ f.names := by
  rw [get?, List.lookup_eq_none_iff, names, List.mem_map]
  constructor
  · rintro h ⟨e, he, rfl⟩
    simpa using h e he
  · exact fun h e he => bne_iff_ne.2 fun hname => h ⟨e, he, hname.symm⟩

theorem nodup_entries (f : Fields) : f.entries.Nodup := f.distinct.of_map _

end Fields

/-! ## Writes -/

/-- The last write of a name in a sequence of writes. -/
def IsLastWrite (writes : List (String × Value)) (name : String) (value : Value) : Prop :=
  ∃ before after, writes = before ++ (name, value) :: after ∧ name ∉ after.map Prod.fst

namespace Fields

theorem ofWrites_concat (writes : List (String × Value)) (w : String × Value) :
    ofWrites (writes ++ [w]) = (ofWrites writes).insert w.1 w.2 := List.foldl_concat ..

theorem mem_names_ofWrites {writes : List (String × Value)} {name : String} :
    name ∈ (ofWrites writes).names ↔ name ∈ writes.map Prod.fst := by
  induction writes using List.reverseRecOn with
  | nil => rfl
  | append_singleton writes w ih =>
    rw [ofWrites_concat, names_insert, List.map_append, List.mem_append, List.map_singleton, List.mem_singleton]
    split
    · next hold =>
      constructor
      · exact fun h => .inl (ih.1 h)
      · rintro (h | rfl)
        · exact ih.2 h
        · exact hold
    · rw [List.mem_append, ih, List.mem_singleton]

/-- **Names stand in the order of their first writes.** -/
theorem pairwise_names_ofWrites (writes : List (String × Value)) : (ofWrites writes).names.Pairwise fun a b =>
    (writes.map Prod.fst).idxOf a < (writes.map Prod.fst).idxOf b := by
  induction writes using List.reverseRecOn with
  | nil => exact .nil
  | append_singleton writes w ih =>
    have hold : ∀ {a}, a ∈ (ofWrites writes).names →
        ((writes ++ [w]).map Prod.fst).idxOf a = (writes.map Prod.fst).idxOf a := fun ha => by
      rw [List.map_append, List.idxOf_append_of_mem (mem_names_ofWrites.1 ha)]
    have hkept : (ofWrites writes).names.Pairwise fun a b =>
        ((writes ++ [w]).map Prod.fst).idxOf a < ((writes ++ [w]).map Prod.fst).idxOf b :=
      ih.imp_of_mem fun ha hb hlt => by rwa [hold ha, hold hb]
    rw [ofWrites_concat, names_insert]
    split
    · exact hkept
    · next hnew =>
      -- a new name is first written behind all the others
      refine List.pairwise_append.2 ⟨hkept, List.pairwise_singleton .., fun a ha b hb => ?_⟩
      obtain rfl := List.mem_singleton.1 hb
      rw [hold ha, List.map_append, List.idxOf_append_of_notMem (mt mem_names_ofWrites.2 hnew)]
      exact Nat.lt_add_right _ (List.idxOf_lt_length_iff.2 (mem_names_ofWrites.1 ha))

theorem get?_ofWrites (writes : List (String × Value)) (name : String) :
    (ofWrites writes).get? name = writes.reverse.lookup name := by
  induction writes using List.reverseRecOn with
  | nil => rfl
  | append_singleton writes w ih =>
    rw [ofWrites_concat, get?_insert, ih, List.reverse_append, List.reverse_singleton, List.singleton_append,
      List.lookup_cons]
    by_cases h : name = w.1
    · simp [h]
    · simp [h, beq_eq_false_iff_ne.2 h]

/-- **A look-up answers the value that was written last.** -/
theorem get?_ofWrites_eq_some_iff {writes : List (String × Value)} {name : String} {value : Value} :
    (ofWrites writes).get? name = some value ↔ IsLastWrite writes name value := by
  rw [get?_ofWrites, List.lookup_eq_some_iff]
  constructor
  · rintro ⟨after, before, hwrites, hlast⟩
    refine ⟨before.reverse, after.reverse, ?_, ?_⟩
    · rw [← List.reverse_reverse writes, hwrites]
      simp
    · intro hmem
      obtain ⟨w, hw, rfl⟩ := List.mem_map.1 hmem
      simpa using hlast w (List.mem_reverse.1 hw)
  · rintro ⟨before, after, rfl, hlast⟩
    refine ⟨after.reverse, before.reverse, by simp, fun w hw => bne_iff_ne.2 ?_⟩
    rintro rfl
    exact hlast (List.mem_map_of_mem (List.mem_reverse.1 hw))

/-! ## Sameness -/

variable {a b : Fields}

/-- Every look-up answers alike exactly when the entries differ in order only. -/
theorem forall_get?_iff_perm : (∀ name, a.get? name = b.get? name) ↔ a.entries.Perm b.entries := by
  rw [List.perm_ext_iff_of_nodup a.nodup_entries b.nodup_entries]
  constructor
  · rintro h ⟨name, value⟩
    rw [← get?_eq_some_iff, ← get?_eq_some_iff, h]
  · intro h name
    refine Option.ext fun value => ?_
    rw [get?_eq_some_iff, get?_eq_some_iff, h]

/-- To count the fields and look each of them up is to compare all entries, whatever their order. -/
theorem sameAs_iff_perm : a.sameAs b = true ↔ a.entries.Perm b.entries := by
  simp only [sameAs, Bool.and_eq_true, beq_iff_eq, List.all_eq_true]
  constructor
  · rintro ⟨hlen, hall⟩
    have hsubset : a.entries ⊆ b.entries := fun e he => get?_eq_some_iff.1 (hall e he)
    exact (List.subperm_of_subset a.nodup_entries hsubset).perm_of_length_le hlen.ge
  · intro h
    exact ⟨h.length_eq, fun e he => get?_eq_some_iff.2 (h.subset he)⟩

end Fields

namespace Marker

theorem sameAs_iff {a b : Marker} : a.sameAs b = true ↔ a.type = b.type ∧ ∀ name, a.value? name = b.value? name := by
  rw [sameAs, Bool.and_eq_true, beq_iff_eq, Fields.sameAs_iff_perm, ← Fields.forall_get?_iff_perm]
  rfl

theorem equivalence_sameAs : Equivalence fun a b : Marker => a.sameAs b = true where
  refl _ := sameAs_iff.2 ⟨rfl, fun _ => rfl⟩
  symm h := sameAs_iff.2 ⟨(sameAs_iff.1 h).1.symm, fun name => ((sameAs_iff.1 h).2 name).symm⟩
  trans h h' := sameAs_iff.2 ⟨(sameAs_iff.1 h).1.trans (sameAs_iff.1 h').1,
    fun name => ((sameAs_iff.1 h).2 name).trans ((sameAs_iff.1 h').2 name)⟩

/-- **A marker is its type and the last value of each name that was written.** The names are distinct and stand in the
order of their first writes. Two markers are the same exactly when their types are and each name has the same value in
both, wherever it stands; values are the same when they are of one kind and have the same content, lists entry by entry
at every depth. This is an equivalence, and the readers of a field answer and report the same for markers that are the
same. -/
theorem sameAs_ofWrites :
    (∀ type writes, let m := ofWrites type writes
      m.type = type ∧ m.fields.names.Nodup ∧ (∀ name, name ∈ m.fields.names ↔ name ∈ writes.map Prod.fst) ∧
      m.fields.names.Pairwise (fun a b => (writes.map Prod.fst).idxOf a < (writes.map Prod.fst).idxOf b) ∧
      (∀ name value, m.value? name = some value ↔ IsLastWrite writes name value) ∧
      ∀ name, m.value? name = none ↔ name ∉ writes.map Prod.fst) ∧
    (∀ type writes type' writes', let m := ofWrites type writes
      let m' := ofWrites type' writes'
      m.sameAs m' = true ↔ type = type' ∧ ∀ name, m.value? name = m'.value? name) ∧
    (∀ v w : Value, (v == w) = true ↔ v.Alike w) ∧ (∀ v w : Value, v.shape ≠ w.shape → (v == w) = false) ∧
    (Equivalence fun a b : Marker => a.sameAs b = true) ∧
    ∀ a b : Marker, a.sameAs b = true → ∀ member site,
      a.readType member site = b.readType member site ∧ a.readTypes member site = b.readTypes member site := by
  refine ⟨fun type writes => ?_, fun type writes type' writes' => sameAs_iff, fun v w => ?_, fun v w hshape => ?_,
    equivalence_sameAs, fun a b h member site => ?_⟩
  · exact ⟨rfl, (Fields.ofWrites writes).distinct, fun name => Fields.mem_names_ofWrites,
      Fields.pairwise_names_ofWrites writes, fun name value => Fields.get?_ofWrites_eq_some_iff,
      fun name => Fields.get?_eq_none_iff.trans (not_congr Fields.mem_names_ofWrites)⟩
  · rw [beq_iff_eq, Value.alike_iff]
  · exact beq_eq_false_iff_ne.2 fun hsame => hshape (congrArg Value.shape hsame)
  · have hvalue := (sameAs_iff.1 h).2 member
    exact ⟨(readType_congr site (.inl hvalue)).symm, (readTypes_congr site (.inl hvalue)).symm⟩

/-- A target that is written twice and modules between, against modules that are written twice around the target. What
is written last agrees, in another order of the fields; with two entries of an inner list exchanged it does not. -/
theorem sameAs_ofWrites_rewritten :
    let directive : TypeName := ⟨"autodagger.AutoComponent", by decide⟩
    let app : Value := .type ⟨"demo.App", by decide⟩
    let listed (inner : List Value) : Value := .list [app, .list inner, .bool true]
    let modules := listed [.text "demo.Core", .int 1]
    let writes := [("target", .text "demo.App"), ("modules", modules), ("target", app)]
    let m := ofWrites directive writes
    let m' := ofWrites directive [("modules", .int 3), ("target", app), ("modules", modules)]
    m.fields.names = ["target", "modules"] ∧ m'.fields.names = ["modules", "target"] ∧
    IsLastWrite writes "target" app ∧ m.value? "target" = some app ∧ m.value? "scope" = none ∧
    m.sameAs m' = true ∧ (∀ name, m.value? name = m'.value? name) ∧ m'.sameAs m = true ∧
    m.readTypes "modules" "demo.App" = m'.readTypes "modules" "demo.App" ∧
    (app == .text "demo.App") = false ∧ ¬modules.Alike (listed [.int 1, .text "demo.Core"]) := by
  intro directive app listed modules writes m m'
  obtain ⟨hwritten, hiff, halike, hkinds, hequiv, hreaders⟩ := sameAs_ofWrites
  obtain ⟨-, -, -, -, hlast, hnone⟩ := hwritten directive writes
  have htarget : IsLastWrite writes "target" app := ⟨writes.take 2, [], rfl, by decide⟩
  have hsame : m.sameAs m' = true := by decide
  exact ⟨by decide, by decide, htarget, (hlast _ _).2 htarget, (hnone _).2 (by decide), hsame,
    ((hiff ..).1 hsame).2, hequiv.symm hsame, (hreaders _ _ hsame _ _).2, hkinds _ _ (by decide),
    mt (halike _ _).2 (by decide)⟩

end Marker

end ComponentDirective
