import ComponentDirective.Proofs.OptionsReader
import ComponentDirective.Proofs.StoreRuns
import Mathlib.Data.Option.Basic

/-!
# Which documents are options

The draft that an object leaves has for each option the one value that the object has under its key
(`Draft.foldlM_enter_eq_ok_iff`). So an object is options when it has no option twice and each with a value of its kind,
and when the names that it gives or leaves to the defaults are names of types; it then overrides the defaults
(`Options.parse_documents`). Neither white space, nor the order of the members, nor members under other keys matter, and
an array of up to four values stands for the object that gives them to the options in their order.
-/

namespace ComponentDirective

/-! ## Values under a key -/

/-- The keys of the options, in the order in which an array gives the options. -/
def Options.keys : List String := ["directiveKind", "scopeAnnotation", "warnUnscoped", "parallel"]

theorem Options.mem_keys_iff {key : String} : key ∈ keys ↔ ∃ slot : Slot, slot.key = key := by
  change key ∈ Slot.all.map Slot.key ↔ _
  rw [List.mem_map]
  exact ⟨fun ⟨slot, _, h⟩ => ⟨slot, h⟩, fun ⟨slot, h⟩ => ⟨slot, by cases slot <;> decide, h⟩⟩

/-- The values that members give under a key. -/
def valuesAt (key : String) (ms : List (String × Json)) : List Json := (ms.filter (·.1 = key)).map (·.2)

theorem valuesAt_append (key : String) (ms ns : List (String × Json)) :
    valuesAt key (ms ++ ns) = valuesAt key ms ++ valuesAt key ns := by
  rw [valuesAt, List.filter_append, List.map_append, valuesAt, valuesAt]

theorem valuesAt_self (key : String) (v : Json) : valuesAt key [(key, v)] = [v] := by simp [valuesAt]

theorem valuesAt_of_ne {key k : String} (h : key ≠ k) (v : Json) : valuesAt key [(k, v)] = [] := by
  simp [valuesAt, h.symm]

theorem mem_valuesAt {key : String} {v : Json} {ms : List (String × Json)} : v ∈ valuesAt key ms ↔ (key, v) ∈ ms := by
  simp [valuesAt]

theorem length_valuesAt (key : String) (ms : List (String × Json)) :
    (valuesAt key ms).length = (ms.map Prod.fst).count key := by
  rw [valuesAt, List.length_map, List.count_eq_length_filter, List.filter_map, List.length_map]
  rfl

/-- What members give under a key: a value of a kind, or the default when they do not have the key. -/
def Gives {α : Type} (ms : List (String × Json)) (key : String) (kind : α → Json) (default a : α) : Prop :=
  (key, kind a) ∈ ms ∨ (∀ v, (key, v) ∉ ms) ∧ a = default

theorem gives_iff {α : Type} {ms : List (String × Json)} {key : String} {kind : α → Json} {default a : α}
    (honce : (ms.map Prod.fst).count key ≤ 1) : Gives ms key kind default a ↔
      ∃ given : Option α, (given.map kind).toList = valuesAt key ms ∧ given.getD default = a := by
  constructor
  · rintro (hmem | ⟨hnone, rfl⟩)
    · have hlen : (valuesAt key ms).length ≤ 1 := by rwa [length_valuesAt]
      obtain ⟨v, hv⟩ := List.length_eq_one_iff.1
        (Nat.le_antisymm hlen (List.length_pos_of_mem (mem_valuesAt.2 hmem)))
      have heq : kind a = v := List.mem_singleton.1 (hv ▸ mem_valuesAt.2 hmem)
      exact ⟨some a, by rw [hv, ← heq]; rfl, rfl⟩
    · exact ⟨none, (List.eq_nil_iff_forall_not_mem.2 fun v hv => hnone v (mem_valuesAt.1 hv)).symm, rfl⟩
  · rintro ⟨given, hvalues, rfl⟩
    cases given with
    | none => exact .inr ⟨fun v hv => List.not_mem_nil (hvalues ▸ mem_valuesAt.2 hv), rfl⟩
    | some a => exact .inl (mem_valuesAt.1 (hvalues ▸ List.mem_singleton.2 rfl))

/-! ## What an object leaves in a draft -/

theorem Slot.ofKey?_eq_some_iff {key : String} {slot : Slot} : ofKey? key = some slot ↔ key = slot.key := by
  refine ⟨fun h => ?_, fun h => h ▸ ofKey?_key slot⟩
  exact (beq_iff_eq.1 (List.find?_some (p := fun slot : Slot => slot.key == key) h)).symm

theorem Slot.key_inj {a b : Slot} (h : a.key = b.key) : a = b :=
  Option.some.inj ((ofKey?_key a).symm.trans (h ▸ ofKey?_key b))

namespace Draft

theorem ext_value {d d' : Draft} (h : ∀ slot, d.value slot = d'.value slot) : d = d' := by
  have htext : Function.Injective (Option.map Json.text) := Option.map_injective fun _ _ => Json.text.inj
  have hflag : Function.Injective (Option.map Json.bool) := Option.map_injective fun _ _ => Json.bool.inj
  obtain ⟨directive, scope, warnUnscoped, parallel⟩ := d
  rw [show directive = _ from htext (h .directive), show scope = _ from htext (h .scope),
    show warnUnscoped = _ from hflag (h .warnUnscoped), show parallel = _ from hflag (h .parallel)]

theorem value_of_has {d : Draft} {slot : Slot} (h : d.has slot = false) : d.value slot = none := by
  rw [has_eq] at h
  exact Option.not_isSome_iff_eq_none.1 (by rw [h]; exact Bool.false_ne_true)

/-- A member that enters is behind what its option has already. -/
theorem values_of_enter {d d' : Draft} {k : String} {v : Json} (h : d.enter (k, v) = .ok d') (slot : Slot) :
    (d'.value slot).toList = (d.value slot).toList ++ valuesAt slot.key [(k, v)] := by
  unfold enter at h
  split at h
  · next hslot =>
    cases h
    have hne : slot.key ≠ k := by
      rintro rfl
      rw [Slot.ofKey?_key] at hslot
      cases hslot
    rw [valuesAt_of_ne hne, List.append_nil]
  · next own hslot =>
    obtain rfl : k = own.key := Slot.ofKey?_eq_some_iff.1 hslot
    split at h
    · cases h
    · next hhas =>
      obtain ⟨-, hvalue, hothers⟩ := value_of_fill h
      by_cases heq : slot = own
      · rw [heq, hvalue, value_of_has (Bool.not_eq_true _ ▸ hhas), valuesAt_self]
        rfl
      · rw [hothers slot heq, valuesAt_of_ne fun hkey => heq (Slot.key_inj hkey), List.append_nil]

/-- A value that an option can have can be put into a draft. -/
theorem exists_fill (d : Draft) {d' : Draft} {v : Json} {slot : Slot} (h : d'.value slot = some v) :
    ∃ d₁, d.fill v.lead slot = .ok d₁ := by
  cases slot <;> obtain ⟨a, -, rfl⟩ := Option.map_eq_some_iff.1 h <;> exact ⟨_, rfl⟩

/-- There is room for one value only. -/
theorem none_and_some_of_toList {o o' : Option Json} {v : Json} {vs : List Json} (h : o'.toList = o.toList ++ v :: vs) :
    o = none ∧ o' = some v := by
  cases o with
  | some w => cases o' <;> cases h
  | none =>
    cases o' with
    | none => cases h
    | some w => exact ⟨rfl, congrArg some (List.cons.inj h).1⟩

/-- A member enters when some draft has its value behind what is given already. -/
theorem exists_enter {d d' : Draft} {k : String} {v : Json} {rest : Slot → List Json}
    (h : ∀ slot, (d'.value slot).toList = (d.value slot).toList ++ (valuesAt slot.key [(k, v)] ++ rest slot)) :
    ∃ d₁, d.enter (k, v) = .ok d₁ := by
  unfold enter
  cases hslot : Slot.ofKey? k with
  | none => exact ⟨d, rfl⟩
  | some own =>
    obtain rfl : k = own.key := Slot.ofKey?_eq_some_iff.1 hslot
    have hown := h own
    rw [valuesAt_self] at hown
    obtain ⟨hnone, hsome⟩ := none_and_some_of_toList hown
    have hhas : d.has own = false := by rw [has_eq, hnone]; rfl
    simp only [hhas, Bool.false_eq_true, if_false]
    exact exists_fill d hsome

/-- **The draft that members leave** has for each option the values under its key, behind what was given before. As it
has at most one value for each option, and one of its kind, this says too which members can be read. -/
theorem foldlM_enter_eq_ok_iff {ms : List (String × Json)} {d d' : Draft} : ms.foldlM enter d = .ok d' ↔
    ∀ slot, (d'.value slot).toList = (d.value slot).toList ++ valuesAt slot.key ms := by
  induction ms generalizing d with
  | nil =>
    simp only [valuesAt, List.filter_nil, List.map_nil, List.append_nil]
    refine ⟨fun h _ => by rw [Except.ok.inj h], fun h => congrArg Except.ok (ext_value fun slot => ?_)⟩
    have hlist := congrArg List.head? (h slot)
    rwa [Option.head?_toList, Option.head?_toList, eq_comm] at hlist
  | cons m ms ih =>
    obtain ⟨k, v⟩ := m
    have hcons : ∀ slot : Slot, valuesAt slot.key ((k, v) :: ms) =
        valuesAt slot.key [(k, v)] ++ valuesAt slot.key ms := fun slot => valuesAt_append slot.key [(k, v)] ms
    simp only [hcons]
    rw [List.foldlM_cons]
    constructor
    · intro h slot
      cases henter : d.enter (k, v) with
      | error e => rw [henter] at h; cases h
      | ok d₁ =>
        rw [henter] at h
        rw [ih.1 h slot, values_of_enter henter, List.append_assoc]
    · intro h
      -- the final draft shows that the first member can enter, and the others go on from what it leaves
      obtain ⟨d₁, henter⟩ := exists_enter h
      rw [henter]
      refine ih.2 fun slot => ?_
      rw [values_of_enter henter, List.append_assoc]
      exact h slot

theorem foldlM_enter_empty {ms : List (String × Json)} {d : Draft} :
    ms.foldlM enter .empty = .ok d ↔ ∀ slot, (d.value slot).toList = valuesAt slot.key ms := by
  have hempty : ∀ slot, (Draft.empty.value slot).toList = [] := fun slot => by cases slot <;> rfl
  simp only [foldlM_enter_eq_ok_iff, hempty, List.nil_append]

/-- The order of the members does not matter. -/
theorem foldlM_enter_perm {ms ns : List (String × Json)} {d : Draft} (h : ms.Perm ns)
    (hms : ms.foldlM enter .empty = .ok d) : ns.foldlM enter .empty = .ok d := by
  refine foldlM_enter_empty.2 fun slot => ?_
  have hperm : (valuesAt slot.key ns).Perm (d.value slot).toList := by
    rw [foldlM_enter_empty.1 hms slot]
    exact (h.symm.filter _).map _
  cases hd : d.value slot with
  | none =>
    rw [hd] at hperm
    exact hperm.eq_nil.symm
  | some v =>
    rw [hd] at hperm
    exact (List.perm_singleton.1 hperm).symm

/-- Members under other keys than those of the options do not matter. -/
theorem foldlM_enter_filter (ms : List (String × Json)) (d : Draft) :
    (ms.filter (·.1 ∈ Options.keys)).foldlM enter d = ms.foldlM enter d := by
  induction ms generalizing d with
  | nil => rfl
  | cons m ms ih =>
    rw [List.filter_cons, List.foldlM_cons]
    by_cases hm : m.1 ∈ Options.keys
    · rw [if_pos (decide_eq_true hm), List.foldlM_cons]
      simp only [ih]
    · have hslot : Slot.ofKey? m.1 = none := Option.eq_none_iff_forall_ne_some.2 fun slot hslot =>
        hm (Options.mem_keys_iff.2 ⟨slot, (Slot.ofKey?_eq_some_iff.1 hslot).symm⟩)
      have henter : d.enter m = .ok d := by simp only [enter, hslot]
      rw [if_neg (by simpa using hm), henter, ih]
      rfl

end Draft

/-! ## Objects as options -/

namespace Options

/-- The options are the default ones, overridden by members that have each option at most once. -/
structure Overrides (ms : List (String × Json)) (o : Options) : Prop where
  once : ∀ key ∈ keys, (ms.map Prod.fst).count key ≤ 1
  directiveText : Gives ms "directiveKind" .text Options.default.directiveText o.directiveText
  scopeText : Gives ms "scopeAnnotation" .text Options.default.scopeText o.scopeText
  warnUnscoped : Gives ms "warnUnscoped" .bool Options.default.warnUnscoped o.warnUnscoped
  parallel : Gives ms "parallel" .bool Options.default.parallel o.parallel

/-- **Members override the defaults** exactly when they can be read, by the draft that they leave. -/
theorem overrides_iff {ms : List (String × Json)} {o : Options} :
    Overrides ms o ↔ ∃ d, ms.foldlM Draft.enter .empty = .ok d ∧ d.options = o := by
  simp only [Draft.foldlM_enter_empty]
  constructor
  · intro h
    have honce : ∀ slot : Slot, (ms.map Prod.fst).count slot.key ≤ 1 := fun slot =>
      h.once _ (mem_keys_iff.2 ⟨slot, rfl⟩)
    obtain ⟨directive, hdirective, hd⟩ := (gives_iff (honce .directive)).1 h.directiveText
    obtain ⟨scope, hscope, hs⟩ := (gives_iff (honce .scope)).1 h.scopeText
    obtain ⟨warnUnscoped, hwarn, hw⟩ := (gives_iff (honce .warnUnscoped)).1 h.warnUnscoped
    obtain ⟨parallel, hparallel, hp⟩ := (gives_iff (honce .parallel)).1 h.parallel
    refine ⟨⟨directive, scope, warnUnscoped, parallel⟩, fun slot => ?_, ?_⟩
    · cases slot with
      | directive => exact hdirective
      | scope => exact hscope
      | warnUnscoped => exact hwarn
      | parallel => exact hparallel
    · simp only [Draft.options, hd, hs, hw, hp]
  · rintro ⟨d, hvalues, rfl⟩
    have honce : ∀ slot : Slot, (ms.map Prod.fst).count slot.key ≤ 1 := fun slot => by
      rw [← length_valuesAt, ← hvalues]
      exact Option.length_toList_le
    exact ⟨fun key hkey => (mem_keys_iff.1 hkey).elim fun slot hslot => hslot ▸ honce slot,
      (gives_iff (honce .directive)).2 ⟨d.directive, hvalues .directive, rfl⟩,
      (gives_iff (honce .scope)).2 ⟨d.scope, hvalues .scope, rfl⟩,
      (gives_iff (honce .warnUnscoped)).2 ⟨d.warnUnscoped, hvalues .warnUnscoped, rfl⟩,
      (gives_iff (honce .parallel)).2 ⟨d.parallel, hvalues .parallel, rfl⟩⟩

/-- Neither the order of the members nor members under other keys matter. -/
theorem Overrides.perm {ms ns : List (String × Json)} {o : Options} (ho : Overrides ms o)
    (h : (ns.filter (·.1 ∈ keys)).Perm (ms.filter (·.1 ∈ keys))) : Overrides ns o := by
  obtain ⟨d, hd, rfl⟩ := overrides_iff.1 ho
  rw [← Draft.foldlM_enter_filter] at hd
  have hns := Draft.foldlM_enter_perm h.symm hd
  rw [Draft.foldlM_enter_filter] at hns
  exact overrides_iff.2 ⟨d, hns, rfl⟩

/-- Options that can be read are checked for their names. -/
theorem parse_of_overrides {ms : List (String × Json)} {s : String} {o : Options} (hs : (Json.object ms).Writes s)
    (ho : Overrides ms o) : parse s = o.checkNames := by
  obtain ⟨d, hd, rfl⟩ := overrides_iff.1 ho
  rw [parse_object hs, hd, Except.bind]

end Options

/-! ## Objects as options with names -/

/-- A text that is no name is reported without the blanks around it. -/
theorem TypeName.error_of_parse {s : String} {e : ModelError} (h : parse s = .error e) :
    e = .malformedTypeName (Text.trim s) := by
  unfold parse at h
  split at h
  · cases h
  · exact (Except.error.inj h).symm

namespace Options

/-- An object is options when it overrides the defaults and both names are names of types. -/
theorem parse_eq_ok_iff {ms : List (String × Json)} {s : String} {o : Options} (hs : (Json.object ms).Writes s) :
    parse s = .ok o ↔ Overrides ms o ∧ o.IsNamed := by
  constructor
  · intro h
    rw [parse_object hs] at h
    cases hd : ms.foldlM Draft.enter .empty with
    | error e => rw [hd] at h; cases h
    | ok d =>
      rw [hd, Except.bind] at h
      obtain ⟨rfl, hnamed⟩ := checkNames_eq_ok_iff.1 h
      exact ⟨overrides_iff.2 ⟨d, hd, rfl⟩, hnamed⟩
  · rintro ⟨ho, hnamed⟩
    rw [parse_of_overrides hs ho]
    exact checkNames_eq_ok_iff.2 ⟨rfl, hnamed⟩

/-- **Which documents are options.** A JSON object, however its tokens are spelled and spaced, is options exactly when
it has each option at most once and with a value of its kind, and both names are names of types; it overrides the
defaults. When nothing but a name is wrong, the directive's is reported if it is malformed, else that of the scope
annotation. White space and members under other keys never matter, and the order of the members does not as long as the
object can be read. An array of up to four values is read as the object that gives them to the options in order. -/
theorem parse_documents :
    (∀ (ms : List (String × Json)) (s : String), (Json.object ms).Writes s →
      (∀ o, parse s = .ok o ↔ Overrides ms o ∧ o.IsNamed) ∧
      (∀ o, Overrides ms o →
        (∀ e, TypeName.parse o.directiveText = .error e →
          e = .malformedTypeName (Text.trim o.directiveText) ∧ parse s = .error (.name e)) ∧
        ∀ name e, TypeName.parse o.directiveText = .ok name → TypeName.parse o.scopeText = .error e →
          e = .malformedTypeName (Text.trim o.scopeText) ∧ parse s = .error (.name e)) ∧
      ∀ (ns : List (String × Json)) (t : String), (Json.object ns).Writes t →
        (ns.filter (·.1 ∈ keys) = ms.filter (·.1 ∈ keys) → parse t = parse s) ∧
        ((ns.filter (·.1 ∈ keys)).Perm (ms.filter (·.1 ∈ keys)) → ∀ o, parse s = .ok o → parse t = .ok o)) ∧
    ∀ (vs : List Json) (s t : String), vs.length ≤ 4 → (Json.array vs).Writes s → (Json.object (keys.zip vs)).Writes t →
      parse s = parse t := by
  refine ⟨fun ms s hs => ⟨fun o => parse_eq_ok_iff hs, fun o ho => ⟨fun e he => ⟨TypeName.error_of_parse he, ?_⟩,
    fun name e hname he => ⟨TypeName.error_of_parse he, ?_⟩⟩, fun ns t ht => ⟨fun hsame => ?_, fun hperm o ho => ?_⟩⟩,
    fun vs s t hlen hs ht => ?_⟩
  · rw [parse_of_overrides hs ho]
    simp only [checkNames, directive, he]
  · rw [parse_of_overrides hs ho]
    simp only [checkNames, directive, scopeKind, hname, he]
  · rw [parse_object ht, parse_object hs, ← Draft.foldlM_enter_filter ns, hsame, Draft.foldlM_enter_filter]
  · obtain ⟨hover, hnamed⟩ := (parse_eq_ok_iff hs).1 ho
    exact (parse_eq_ok_iff ht).2 ⟨hover.perm hperm, hnamed⟩
  · rw [parse_array hs hlen, parse_object ht]
    rfl

/-- An object with blanks, a capital exponent mark, an unknown member and an escaped key, and an array with a malformed
name. -/
theorem parse_documents_spelled :
    let ms : List (String × Json) := [("x", .array [.number ⟨true, 0, [], some 2⟩, .null]), ("parallel", .bool false)]
    let s := "\t\x7b \"x\" :[-0E+2 ,null],\"\\u0070arallel\":false \x7d"
    let o : Options := { Options.default with parallel := false }
    (Json.object ms).Writes s ∧ Overrides ms o ∧ parse s = .ok o ∧
    parse (Json.array [.text " a..B"]).render = .error (.name (.malformedTypeName "a..B")) := by
  intro ms s o
  obtain ⟨hobjects, harrays⟩ := parse_documents
  have hs : (Json.object ms).Writes s := by
    have hnumeral : Json.Numeral.Spells ⟨true, 0, [], some 2⟩ ['-', '0', 'E', '+', '2'] :=
      ⟨['E', '+', '2'], .plus (.inr rfl) 2 [], by decide⟩
    have hunit : Json.SpellsUnit (((0 * 16 + 0) * 16 + 7) * 16 + 0) ['0', '0', '7', '0'] := .intro rfl rfl rfl rfl
    have hkey : Json.SpellsText ('p' :: "arallel".toList) (['\\', 'u', '0', '0', '7', '0'] ++ "arallel".toList) :=
      .cons (.unit hunit) (Json.spellsText_escape "arallel".toList)
    have hlays : Json.Lays (Json.object ms).written (['\t'] ++ (['\x7b'] ++ ([' '] ++ (['"', 'x', '"'] ++ ([' '] ++
        ([':'] ++ (['['] ++ (['-', '0', 'E', '+', '2'] ++ ([' '] ++ ([','] ++ (['n', 'u', 'l', 'l'] ++ ([']'] ++
        ([','] ++ (('"' :: (['\\', 'u', '0', '0', '7', '0'] ++ "arallel".toList) ++ ['"']) ++ ([':'] ++
        (['f', 'a', 'l', 's', 'e'] ++ ([' '] ++ (['\x7d'] ++ [])))))))))))))))))) :=
      .cons (by decide) .openObject <| .cons (by decide) (.text (s := "x") (Json.spellsText_escape ['x'])) <|
      .cons (by decide) .colon <| .tight .openArray <| .tight (.number hnumeral) <| .cons (by decide) .comma <|
      .tight .null <| .tight .closeArray <| .tight .comma <| .tight (.text (s := "parallel") hkey) <| .tight .colon <|
      .tight .false <| .cons (by decide) .closeObject <| .nil nofun
    simpa [Json.Writes, s] using hlays
  have ho : Overrides ms o :=
    ⟨by decide, .inr ⟨by simp [ms], rfl⟩, .inr ⟨by simp [ms], rfl⟩, .inr ⟨by simp [ms], rfl⟩, .inl (by simp [ms, o])⟩
  refine ⟨hs, ho, ((hobjects ms s hs).1 o).2 ⟨ho, ⟨_, directive_default⟩, _, scopeKind_default⟩, ?_⟩
  have hwritten := Json.writes_render (.object [("directiveKind", .text " a..B")])
  have hmalformed : Overrides [("directiveKind", .text " a..B")] { Options.default with directiveText := " a..B" } :=
    ⟨by decide, .inl (by simp), .inr ⟨by simp, rfl⟩, .inr ⟨by simp, rfl⟩, .inr ⟨by simp, rfl⟩⟩
  exact (harrays [.text " a..B"] _ _ (by decide) (Json.writes_render _) hwritten).trans
    (((hobjects _ _ hwritten).2.1 _ hmalformed).1 _ (by decide)).2

end Options

end ComponentDirective
