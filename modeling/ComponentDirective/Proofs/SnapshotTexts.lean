import ComponentDirective.Proofs.WrittenTokens
import ComponentDirective.Snapshot

/-!
# Snapshots lose nothing

The JSON form of field values, markers and descriptors determines them: a value stands under its kind, fields keep their
order, and what is absent is written as what no present value is. As different JSON values have different texts, the
text of a snapshot determines the data (`render_snapshot_iff`).
-/

namespace ComponentDirective

/-! ## JSON forms of parts -/

namespace Json

theorem int_inj {m n : Int} (h : int m = int n) : m = n := by
  have hnum := Json.number.inj h
  simp only [Numeral.ofInt, Numeral.mk.injEq, decide_eq_decide, and_true] at hnum
  omega

theorem nat_inj {m n : Nat} (h : nat m = nat n) : m = n := Int.ofNat.inj (int_inj h)

/-- An optional value is known from its JSON form if no value has the form of none. -/
theorem optional_inj {α : Type} {f : α → Json} (hf : ∀ a b, f a = f b → a = b) (hnull : ∀ a, f a ≠ .null)
    {a b : Option α} (h : optional f a = optional f b) : a = b := by
  cases a with
  | none =>
    cases b with
    | none => rfl
    | some b => exact absurd h.symm (hnull b)
  | some a =>
    cases b with
    | none => exact absurd h (hnull a)
    | some b => exact congrArg some (hf a b h)

end Json

theorem TypeName.toJson_inj {s t : TypeName} (h : s.toJson = t.toJson) : s = t := by
  obtain ⟨s, hs⟩ := s
  obtain ⟨t, ht⟩ := t
  obtain rfl : s = t := Json.text.inj h
  rfl

theorem DeclId.toJson_inj {a b : DeclId} (h : a.toJson = b.toJson) : a = b := DeclId.index_inj.1 (Json.nat_inj h)

theorem Shape.key_inj {a b : Shape} (h : a.key = b.key) : a = b := by
  cases a <;> cases b <;> first | rfl | exact absurd h (by decide)

/-! ## Field values -/

namespace Value

theorem tagged_inj {a b : Shape} {c d : Json} (h : tagged a c = tagged b d) : a = b ∧ c = d := by
  simp only [tagged, Json.object.injEq, List.cons.injEq, Prod.mk.injEq, Json.text.injEq, true_and, and_true] at h
  exact ⟨Shape.key_inj h.1, h.2⟩

mutual

theorem toJson_inj (v w : Value) (h : v.toJson = w.toJson) : v = w := by
  cases v <;> cases w <;> simp only [toJson] at h <;> obtain ⟨hshape, hcontent⟩ := tagged_inj h <;> cases hshape
  case type.type s t => exact congrArg Value.type (TypeName.toJson_inj hcontent)
  case unresolved.unresolved s t => exact congrArg Value.unresolved (Json.text.inj hcontent)
  case list.list vs ws => exact congrArg Value.list (listToJson_inj vs ws (Json.array.inj hcontent))
  case text.text s t => exact congrArg Value.text (Json.text.inj hcontent)
  case int.int m n => exact congrArg Value.int (Int64.toInt_inj.1 (Json.int_inj hcontent))
  case bool.bool b c => exact congrArg Value.bool (Json.bool.inj hcontent)

theorem listToJson_inj (vs ws : List Value) (h : listToJson vs = listToJson ws) : vs = ws := by
  match vs, ws with
  | [], [] => rfl
  | [], w :: ws => simp only [listToJson, reduceCtorEq] at h
  | v :: vs, [] => simp only [listToJson, reduceCtorEq] at h
  | v :: vs, w :: ws =>
    simp only [listToJson, List.cons.injEq] at h
    rw [toJson_inj v w h.1, listToJson_inj vs ws h.2]

end

end Value

/-! ## Markers and descriptors -/

theorem Marker.toJson_inj {m n : Marker} (h : m.toJson = n.toJson) : m = n := by
  obtain ⟨type, entries, distinct⟩ := m
  obtain ⟨type', entries', distinct'⟩ := n
  simp only [toJson, Json.object.injEq, List.cons.injEq, Prod.mk.injEq, true_and, and_true] at h
  obtain ⟨htype, hentries⟩ := h
  have hfields : entries = entries' := by
    refine (List.map_inj_right fun e e' he => ?_).1 hentries
    obtain ⟨hname, hvalue⟩ := Prod.mk.inj he
    exact Prod.ext hname (Value.toJson_inj _ _ hvalue)
  subst hfields
  rw [TypeName.toJson_inj htype]

theorem TypeName.map_toJson_inj {ss ts : List TypeName} (h : ss.map toJson = ts.map toJson) : ss = ts :=
  (List.map_inj_right fun _ _ => toJson_inj).1 h

theorem Descriptor.toJson_inj {d d' : Descriptor} (h : d.toJson = d'.toJson) : d = d' := by
  simp only [toJson, Json.object.injEq, List.cons.injEq, Prod.mk.injEq, Json.array.injEq, true_and, and_true] at h
  obtain ⟨hcomponent, htarget, htemplate, hdependencies, hmodules, hsuperinterfaces, hscope⟩ := h
  obtain ⟨component, target, template, dependencies, modules, superinterfaces, scope⟩ := d
  obtain rfl := DeclId.toJson_inj hcomponent
  obtain rfl := TypeName.toJson_inj htarget
  obtain rfl := Json.optional_inj (fun _ _ => TypeName.toJson_inj) (fun _ => Json.noConfusion) htemplate
  obtain rfl := TypeName.map_toJson_inj hdependencies
  obtain rfl := TypeName.map_toJson_inj hmodules
  obtain rfl := TypeName.map_toJson_inj hsuperinterfaces
  obtain rfl := Json.optional_inj (fun _ _ => Marker.toJson_inj) (fun _ => Json.noConfusion) hscope
  rfl

/-! ## Texts -/

/-- **Snapshots lose nothing.** Descriptors with the same compact text are equal: component, target, template, the three
lists with their order, and the scope with its type and its fields in their order. So are field values, whatever they
hold at any depth. -/
theorem render_snapshot_iff :
    (∀ d d' : Descriptor, d.toJson.render = d'.toJson.render ↔ d = d') ∧
    ∀ v v' : Value, v.toJson.render = v'.toJson.render ↔ v = v' := by
  refine ⟨fun d d' => ⟨fun h => ?_, fun h => h ▸ rfl⟩, fun v v' => ⟨fun h => ?_, fun h => h ▸ rfl⟩⟩
  · exact Descriptor.toJson_inj (Json.render_inj h)
  · exact Value.toJson_inj v v' (Json.render_inj h)

end ComponentDirective
