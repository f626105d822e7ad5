import ComponentDirective.Proofs.IdleChanges
import ComponentDirective.Proofs.ScopePlaces

/-!
# What one more marker does to an extraction

A marker stands behind those that a declaration has, so a directive that was found first is still found first, and so is
a scope. A marker that is not the scope annotation makes no other marker a scope (`Store.isScope_attach`). What remains
is that the new marker may itself be a further scope of the declaration from which the scope is taken, and then it is
reported behind all that was reported before (`extract_of_appended`).

The one case that is left out is a scope that is put on an element without any, while the scope is taken from the
component: there the new marker is the first scope of the element.
-/

namespace ComponentDirective

/-! ## Declarations -/

section Declarations

variable {d : Declaration} {id place : DeclId} {m : Marker}

/-- The name of a declaration does not depend on its markers. -/
theorem name_attached : (if id = place then { d with markers := d.markers ++ [m] } else d).name = d.name := by
  split <;> rfl

/-- What is found first stays first. -/
theorem find?_attached {type : TypeName} {first : Marker} (hf : d.find? type = some first) :
    (if id = place then { d with markers := d.markers ++ [m] } else d).find? type = some first := by
  split
  · rw [Declaration.find?] at hf
    rw [Declaration.find?, List.find?_append, hf, Option.some_or]
  · exact hf

/-- A marker that is looked for stands behind the others. -/
theorem filter_attached (p : Marker → Bool) :
    (if id = place then { d with markers := d.markers ++ [m] } else d).markers.filter p =
      d.markers.filter p ++ if id = place ∧ p m = true then [m] else [] := by
  by_cases hid : id = place
  · cases hp : p m with
    | false => simp [hid, hp]
    | true => simp [hid, hp]
  · simp [hid]

end Declarations

namespace Host

/-- A further scope is reported behind those that there were. -/
theorem conflicts_concat (scopeKind : TypeName) (site : String) (first m : Marker) (extra : List Marker) (p : Prop)
    [Decidable p] : conflicts scopeKind site (first :: (extra ++ if p then [m] else [])) =
      conflicts scopeKind site (first :: extra) ++
        if p then [(Finding.extraScope scopeKind m.type first.type).toDiagnostic site] else [] := by
  by_cases hp : p
  · simp only [conflicts, if_pos hp, List.map_append, List.map_cons, List.map_nil]
  · simp only [if_neg hp, List.append_nil]

end Host

/-! ## Stores -/

namespace Store

variable {s : Store} (h : s.Sound) {scopeKind : TypeName} {m : Marker} (hm : m.type ≠ scopeKind) (place : DeclId)
include h hm

theorem definesScope_attach (type : TypeName) :
    (s.attach place m).host.definesScope type scopeKind = s.host.definesScope type scopeKind := by
  unfold Host.definesScope
  rw [show (s.attach place m).host.declarationOf = s.host.declarationOf from rfl]
  cases ht : s.host.declarationOf type with
  | none => rfl
  | some i =>
    obtain ⟨d, hd⟩ := h.exists_declaration_idOf? ht
    simp only [hd, declaration_attach place hd]
    split
    · rw [bears_attached hm]
    · rfl

/-- A marker that is not the scope annotation makes no marker a scope, wherever it is put. -/
theorem isScope_attach : (s.attach place m).host.isScope scopeKind = s.host.isScope scopeKind := by
  funext a
  rw [Host.isScope, definesScope_attach h hm, Host.isScope]

omit hm in
theorem sound_attach {id : DeclId} (hid : id ∈ s.host.declarationIds) (a : Marker) : (s.attach id a).Sound := by
  have hsound := sound_annotate h id a
  rwa [annotate_of_lt (h.mem_declarationIds_iff_lt.1 hid)] at hsound

end Store

/-! ## The search for a scope -/

section Search

variable {s : Store} (h : s.Sound) {directive scopeKind : TypeName} {r : Request} {el co : Declaration}
  (hel : s.host.declaration r.element = .ok el) (hco : s.host.declaration r.component = .ok co)
  {place : MarkerPlace} (hplace : s.host.scopePlace? scopeKind r.element r.component = some place)
  {id : DeclId} (hid : id ∈ s.host.declarationIds) {m : Marker} (hm : m.type ≠ scopeKind)
  (hcase : ¬(id = r.element ∧ place.declaration ≠ r.element ∧ s.host.isScope scopeKind m = true))
include h hel hco hplace hid hm hcase

/-- The search finds the scope that it found before, and reports one more conflict when the marker is a further scope of
the declaration that has it. -/
theorem scope_attach : ∃ first owner, s.host.declaration place.declaration = .ok owner ∧
    (s.host.scope scopeKind r.element r.component).value = .ok (some first) ∧
    ((s.attach id m).host.scope scopeKind r.element r.component).value = .ok (some first) ∧
    ((s.attach id m).host.scope scopeKind r.element r.component).diagnostics =
      (s.host.scope scopeKind r.element r.component).diagnostics ++
        if id = place.declaration ∧ s.host.isScope scopeKind m = true then
          [(Finding.extraScope scopeKind m.type first.type).toDiagnostic owner.name.text] else [] := by
  have hel' := Store.declaration_attach (m := m) id hel
  have hco' := Store.declaration_attach (m := m) id hco
  have hc := h.closed_host
  have hc' := (Store.sound_attach h hid m).closed_host
  rw [Host.value_scope scopeKind hel hco (hc.findSome?_fault? _) (hc.findSome?_fault? _),
    Host.diagnostics_scope scopeKind hel hco (hc.findSome?_fault? _) (hc.findSome?_fault? _),
    Host.value_scope scopeKind hel' hco' (hc'.findSome?_fault? _) (hc'.findSome?_fault? _),
    Host.diagnostics_scope scopeKind hel' hco' (hc'.findSome?_fault? _) (hc'.findSome?_fault? _)]
  simp only [Store.isScope_attach h hm, filter_attached, name_attached, eq_comm (b := id)]
  rcases Host.scopePlace?_cases hel hco hplace with ⟨hdecl, hne⟩ | ⟨hdecl, hnil, hne⟩
  · -- the element has the scope, so the component is not searched
    obtain ⟨first, extra, hscopes⟩ := List.exists_cons_of_ne_nil hne
    refine ⟨first, el, hdecl ▸ hel, ?_⟩
    simp only [hscopes, hdecl, List.cons_append, List.head?_cons, reduceCtorEq, if_false, true_and]
    exact Host.conflicts_concat ..
  · obtain ⟨first, extra, hscopes⟩ := List.exists_cons_of_ne_nil hne
    -- a scope on the element would be found first, unless the element is the component that has one already
    have hfree : ¬(id = r.element ∧ s.host.isScope scopeKind m = true) := by
      rintro ⟨hel_id, hscope⟩
      refine hcase ⟨hel_id, fun hsame => hne ?_, hscope⟩
      rw [hdecl] at hsame
      rw [hsame, hel] at hco
      rwa [← Except.ok.inj hco]
    refine ⟨first, co, hdecl ▸ hco, ?_⟩
    simp only [hnil, hscopes, hdecl, if_neg hfree, List.nil_append, List.cons_append, List.head?_cons, if_true,
      true_and]
    exact Host.conflicts_concat ..

end Search

/-! ## Extraction -/

/-- **The first directive and the first scope stay first.** An extraction has found a scope, and a marker other than the
scope annotation is attached to some declaration. Unless the marker is a scope on an element whose scope was taken from
the component, the extraction ends with the same descriptor. It reports what it reported before, and behind it, if the
marker is a further scope of the declaration that has the scope, that the two conflict there. -/
theorem extract_of_appended (changes : List Store.Change) {directive scopeKind : TypeName} {warn : Bool} {r : Request}
    {site : String} {d : Descriptor} {place : MarkerPlace} {id : DeclId} {m : Marker}
    (hd : (Extractor.extract ⟨(Store.ofChanges changes).host, directive, scopeKind, warn⟩ r site).value = .ok d)
    (hplace : (Store.ofChanges changes).host.scopePlace? scopeKind r.element r.component = some place)
    (hid : id ∈ (Store.ofChanges changes).host.declarationIds) (hm : m.type ≠ scopeKind)
    (hcase : ¬(id = r.element ∧ place.declaration ≠ r.element ∧
      (Store.ofChanges changes).host.isScope scopeKind m = true)) :
    let h := (Store.ofChanges changes).host
    let h' := (Store.ofChanges (changes ++ [.annotate id m])).host
    let before := Extractor.extract ⟨h, directive, scopeKind, warn⟩ r site
    let after := Extractor.extract ⟨h', directive, scopeKind, warn⟩ r site
    ∃ first owner, d.scope = some first ∧ h.declaration place.declaration = .ok owner ∧ after.value = .ok d ∧
      after.diagnostics = before.diagnostics ++ if id = place.declaration ∧ h.isScope scopeKind m = true then
        [(Finding.extraScope scopeKind m.type first.type).toDiagnostic owner.name.text] else [] := by
  intro h h' before after
  have hsound := Store.sound_ofChanges changes
  have hstore : Store.ofChanges (changes ++ [.annotate id m]) = (Store.ofChanges changes).attach id m := by
    rw [Store.ofChanges_concat]
    exact congrArg Prod.snd (Store.annotate_of_lt (hsound.mem_declarationIds_iff_lt.1 hid) m)
  obtain ⟨co, el, directive', scope, hco, hel, hdir, hscope, rfl, heq⟩ := Extractor.exists_of_extract_ok hd
  obtain ⟨first, owner, howner, hfound, hfound', hreported⟩ := scope_attach hsound hel hco hplace hid hm hcase
  rw [← hstore] at hfound' hreported
  have hel' := Store.declaration_attach (m := m) id hel
  have hco' := Store.declaration_attach (m := m) id hco
  rw [← hstore] at hel' hco'
  have hvalue := Extractor.value_attempt (x := ⟨h', directive, scopeKind, warn⟩) site hco' hel' (find?_attached hdir)
  have hdiag := Extractor.diagnostics_attempt (x := ⟨h', directive, scopeKind, warn⟩) site hco' hel'
    (find?_attached hdir)
  have hsame : scope = some first := Except.ok.inj (hscope.symm.trans hfound)
  rw [hfound'] at hvalue
  rw [hreported] at hdiag
  refine ⟨first, owner, hsame, howner, ?_, ?_⟩
  · rw [Extractor.value_extract, hvalue, hsame, Descriptor.ofSettings_congr name_attached]
  · rw [show after.diagnostics = _ from congrArg _ (Extractor.extract_eq_attempt hvalue), hdiag,
      show before.diagnostics = _ from congrArg _ heq, Extractor.diagnostics_readDirective, ← List.append_assoc]

/-- The changes that build a component `demo.App` with a scope `demo.PerApp` and a marker whose type `demo.Carrier`
carries the directive. There is another scope, `demo.PerUser`, which nothing bears yet. -/
def scopedChanges : List Store.Change :=
  [.scopeMarker "demo.PerApp" ⟨"javax.inject.Scope", .refl true⟩,
    .scopeMarker "demo.PerUser" ⟨"javax.inject.Scope", .refl true⟩,
    .declare "demo.Carrier" .markerType, .annotate ⟨2⟩ (.plain ⟨"autodagger.AutoComponent", .refl true⟩),
    .declare "demo.App" .classType, .annotate ⟨3⟩ (.plain ⟨"demo.Carrier", .refl true⟩),
    .annotate ⟨3⟩ (.plain ⟨"demo.PerApp", .refl true⟩)]

/-- The component gets the other scope behind its own: the first one is kept, and the two conflict. -/
theorem extract_of_appended_scope :
    let scopeKind : TypeName := ⟨"javax.inject.Scope", by decide⟩
    let extract (changes : List Store.Change) := Extractor.extract
      ⟨(Store.ofChanges changes).host, ⟨"autodagger.AutoComponent", by decide⟩, scopeKind, false⟩
      (.indirect ⟨2⟩ ⟨3⟩) "demo.App"
    let perUser : Marker := .plain ⟨"demo.PerUser", by decide⟩
    let d : Descriptor :=
      ⟨⟨3⟩, ⟨"demo.App", by decide⟩, none, [], [], [], some (.plain ⟨"demo.PerApp", by decide⟩)⟩
    (extract scopedChanges).value = .ok d ∧
    (Store.ofChanges scopedChanges).host.scopePlace? scopeKind ⟨2⟩ ⟨3⟩ = some ⟨⟨3⟩, 1⟩ ∧
    ⟨3⟩ ∈ (Store.ofChanges scopedChanges).host.declarationIds ∧ perUser.type ≠ scopeKind ∧
    (extract (scopedChanges ++ [.annotate ⟨3⟩ perUser])).value = .ok d ∧
    (extract (scopedChanges ++ [.annotate ⟨3⟩ perUser])).diagnostics = [⟨.multipleScopes,
      "Class annotated with @AutoComponent cannot have several scopes (@Scope): @PerUser conflicts with @PerApp.",
      some "demo.App"⟩] := by
  intro scopeKind extract perUser d
  have hd : (extract scopedChanges).value = .ok d := by rfl
  have hplace : (Store.ofChanges scopedChanges).host.scopePlace? scopeKind ⟨2⟩ ⟨3⟩ = some ⟨⟨3⟩, 1⟩ := by rfl
  have hid : (⟨3⟩ : DeclId) ∈ (Store.ofChanges scopedChanges).host.declarationIds := by decide
  have hm : perUser.type ≠ scopeKind := by decide
  have hnone : (extract scopedChanges).diagnostics = [] := by decide
  have hscope : (Store.ofChanges scopedChanges).host.isScope scopeKind perUser = true := by decide
  obtain ⟨first, owner, hfirst, howner, hvalue, hdiag⟩ :=
    extract_of_appended scopedChanges hd hplace hid hm (by decide)
  obtain rfl := Option.some.inj hfirst
  have hname : owner.name.text = "demo.App" := by
    have hat := congrArg (fun answer => answer.map (·.name.text)) howner
    exact (Except.ok.inj (Eq.trans (by decide) hat)).symm
  refine ⟨hd, hplace, hid, hm, hvalue, hdiag.trans ?_⟩
  rw [if_pos ⟨rfl, hscope⟩, hname, show Recorded.diagnostics _ = [] from hnone]
  decide

end ComponentDirective
