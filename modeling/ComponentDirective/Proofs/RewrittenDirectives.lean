import ComponentDirective.Proofs.DirectiveContents

/-!
# Directives written from descriptors

`Descriptor.toDirective` writes down what a descriptor holds as a directive. Nothing is reported when it is read, and
what is read is what the descriptor holds (`Settings.read_toDirective`). So the written directive can stand in place of
the one from which the descriptor was extracted: the extraction answers the same again, and reports only what was
reported about the template and the scopes (`Extractor.extract_toDirective`).
-/

namespace ComponentDirective

/-! ## The written directive -/

namespace Descriptor

/-- The fields of a directive that holds the data of a descriptor. -/
def writes (d : Descriptor) : List (String × Value) :=
  ("target", .type d.target) :: ((d.template.toList.map fun t => ("fromTemplate", .type t)) ++
    [("dependencies", .ofTypes d.dependencies), ("modules", .ofTypes d.modules),
      ("superinterfaces", .ofTypes d.superinterfaces)])

/-- The directive that holds the data of a descriptor. -/
def toDirective (d : Descriptor) (directive : TypeName) : Marker := .ofWrites directive d.writes

/-- What the written directive sets: all but a target `void`. -/
def settings (d : Descriptor) : Settings :=
  ⟨(some d.target).filter (!·.isVoid), d.template, d.dependencies, d.modules, d.superinterfaces⟩

variable (d : Descriptor) (directive : TypeName)

theorem value?_toDirective : (d.toDirective directive).value? "target" = some (.type d.target) ∧
    (d.toDirective directive).value? "fromTemplate" = d.template.map .type ∧
    (d.toDirective directive).value? "dependencies" = some (.ofTypes d.dependencies) ∧
    (d.toDirective directive).value? "modules" = some (.ofTypes d.modules) ∧
    (d.toDirective directive).value? "superinterfaces" = some (.ofTypes d.superinterfaces) := by
  have hempty (name : String) : Fields.empty.get? name = none := rfl
  cases ht : d.template <;>
    simp [toDirective, writes, Marker.ofWrites, Marker.value?, Fields.ofWrites, Fields.get?_insert, hempty, ht]

end Descriptor

/-! ## Reading it -/

section Reading

variable {m : Marker} {member : String} (site : String)

theorem Marker.readType_type {t : TypeName} (hv : m.value? member = some (.type t)) :
    m.readType member site = pure ((some t).filter (!·.isVoid)) := by
  simp only [readType, hv]
  rfl

theorem Marker.readTypes_ofTypes {ts : List TypeName} (hv : m.value? member = some (.ofTypes ts)) :
    m.readTypes member site = pure ts := by
  simp only [readTypes, hv]
  exact Value.readTypes_ofTypes site member ts

/-- A type that is read is not `void`. -/
theorem Marker.isVoid_readType {t : TypeName} (ht : (m.readType member site).value = some t) : t.isVoid = false := by
  rw [value_readType, Option.filter_eq_some_iff] at ht
  simpa using ht.2

end Reading

/-- **The written directive reads back**, and nothing is reported. -/
theorem Settings.read_toDirective (d : Descriptor) (htemplate : ∀ t ∈ d.template, t.isVoid = false)
    (directive : TypeName) (site : String) : read (d.toDirective directive) site = pure d.settings := by
  obtain ⟨htarget, hfrom, hdependencies, hmodules, hsuperinterfaces⟩ := d.value?_toDirective directive
  have hread : (d.toDirective directive).readType "fromTemplate" site = pure d.template := by
    cases ht : d.template with
    | none => rw [Marker.readType_of_leaves site (.inl (hfrom.trans (by rw [ht]; rfl)))]
    | some t =>
      rw [Marker.readType_type site (hfrom.trans (by rw [ht]; rfl)), Option.filter_some, htemplate t ht]
      rfl
  simp only [read, Marker.readType_type site htarget, hread, Marker.readTypes_ofTypes site hdependencies,
    Marker.readTypes_ofTypes site hmodules, Marker.readTypes_ofTypes site hsuperinterfaces, pure_bind]
  rfl

/-- A descriptor sets what it was made of: a target that was left open is the name of the component, even when the
component is named `void`. -/
theorem Descriptor.ofSettings_settings {s : Settings} (htarget : ∀ t ∈ s.target, t.isVoid = false)
    (component : Declaration) (id : DeclId) (scope scope' : Option Marker) :
    ofSettings component id (ofSettings component id s scope).settings scope' =
      { ofSettings component id s scope with scope := scope' } := by
  obtain ⟨target, template, dependencies, modules, superinterfaces⟩ := s
  cases target with
  | none =>
    have hopen : ((some component.name).filter (!·.isVoid)).getD component.name = component.name := by
      rw [Option.filter_some]
      split <;> rfl
    simp only [ofSettings, settings, Option.getD_none, hopen]
  | some t =>
    simp only [ofSettings, settings, Option.getD_some, Option.filter_some, htarget t rfl]
    rfl

/-- Settings and those of their descriptor fit together alike. -/
theorem Settings.check_settings (s : Settings) (component : Declaration) (id : DeclId) (scope : Option Marker)
    (site : String) : (Descriptor.ofSettings component id s scope).settings.check site = s.check site := rfl

/-! ## Extracting again -/

namespace Extractor

variable {x : Extractor} {r : Request} {site : String}

/-- **Reading normalises a directive once and for all.** When the directive of a successful extraction is replaced by
the one that is written from its descriptor, the extraction answers the same data again, with a scope of the same type.
It reports exactly what was reported about the template and the scopes, and nothing about values; and its descriptor is
written as the same directive again. -/
theorem extract_toDirective {d : Descriptor} (hd : (x.extract r site).value = .ok d) :
    let again := (x.substitute r.element (d.toDirective x.directive)).extract r site
    ∃ d', again.value = .ok d' ∧ d' = { d with scope := d'.scope } ∧
      d'.scope.map (·.type) = d.scope.map (·.type) ∧
      again.diagnostics = (x.extract r site).diagnostics.filter
        (fun g => g.code = .templateWithConfiguration ∨ g.code = .multipleScopes) ∧
      again.diagnostics.filter (·.code = .invalidTypeReference) = [] ∧
      d'.toDirective x.directive = d.toDirective x.directive := by
  intro again
  obtain ⟨component, element, m, scope, hco, hel, hm, hscope, hof, heq⟩ := exists_of_extract_ok hd
  have hel' := Host.declaration_substitute_self (m := d.toDirective x.directive) hel
  have hm' : (element.substitute (d.toDirective x.directive)).find? x.directive =
      some (d.toDirective x.directive) := Declaration.find?_substitute (m := d.toDirective x.directive) hm
  obtain ⟨co', hco', hname⟩ := Host.exists_declaration_substitute x.host r.element (d.toDirective x.directive) hco
  have hsearch := Host.value_scope_substitute x.host r.element (d.toDirective x.directive) x.scopeKind r.element
    r.component
  rw [hscope] at hsearch
  obtain ⟨scope', hscope', htype⟩ := hsearch.exists_of_ok
  have htemplate : ∀ t ∈ d.template, t.isVoid = false := by
    rw [hof]
    exact fun t ht => Marker.isVoid_readType site ht
  have hread := Settings.read_toDirective d htemplate x.directive site
  have hagain : Descriptor.ofSettings co' r.component d.settings scope' = { d with scope := scope' } := by
    rw [Descriptor.ofSettings_congr hname, hof]
    exact Descriptor.ofSettings_settings (fun t ht => Marker.isVoid_readType site ht) ..
  have hvalue := value_attempt (x := x.substitute r.element (d.toDirective x.directive)) site hco' hel' hm'
  have hdiag := diagnostics_attempt (x := x.substitute r.element (d.toDirective x.directive)) site hco' hel' hm'
  simp only [substitute, hscope', hread, Recorded.value_pure, hagain] at hvalue
  have hcheck : d.settings.check site = (Settings.read m site).value.check site := by
    rw [hof]
    exact Settings.check_settings ..
  have hreports : again.diagnostics = (x.extract r site).diagnostics.filter
      (fun g => g.code = .templateWithConfiguration ∨ g.code = .multipleScopes) := by
    simp only [substitute, hread, Recorded.diagnostics_pure, Recorded.value_pure, hcheck, List.nil_append,
      Host.diagnostics_scope_substitute] at hdiag
    have hkept := filter_readDirective x r site component m
      fun code => code = .templateWithConfiguration ∨ code = .multipleScopes
    rw [heq]
    exact (congrArg _ (extract_eq_attempt hvalue)).trans (hdiag.trans hkept.symm)
  refine ⟨{ d with scope := scope' }, ?_, rfl, ?_, hreports, ?_, rfl⟩
  · rw [value_extract]
    exact hvalue
  · rw [htype, hof]
    rfl
  · rw [hreports, List.filter_filter]
    exact List.filter_eq_nil_iff.2 fun g _ => by cases g.code <;> simp

/-- A directive that is wrong in many ways: its target is yet to be generated, its template conflicts with its lists,
and one of these breaks off at a nested list. Its own type defines a scope, and so does the marker behind it. -/
def messyHost : Host :=
  Store.host (.ofChanges [.scopeMarker "autodagger.AutoComponent" ⟨"javax.inject.Scope", .refl true⟩,
    .scopeMarker "demo.PerApp" ⟨"javax.inject.Scope", .refl true⟩, .declare "demo.App" .classType,
    .annotate ⟨2⟩ (.ofWrites ⟨"autodagger.AutoComponent", .refl true⟩ [("modules", .type ⟨"demo.Core", .refl true⟩),
      ("target", .unresolved "demo.Generated"), ("fromTemplate", .type ⟨"demo.Base", .refl true⟩),
      ("dependencies", .list [.type ⟨"void", .refl true⟩, .text "demo.Log", .list [], .bool true]),
      ("note", .int 7)]),
    .annotate ⟨2⟩ (.plain ⟨"demo.PerApp", .refl true⟩)])

/-- Of the five reports about it, two are left when it is written from its descriptor. -/
theorem extract_toDirective_messy :
    let x : Extractor := ⟨messyHost, ⟨"autodagger.AutoComponent", by decide⟩, ⟨"javax.inject.Scope", by decide⟩, true⟩
    let first := x.extract (.direct ⟨2⟩) "demo.App"
    first.diagnostics.map (·.code) = [.invalidTypeReference, .invalidTypeReference, .invalidTypeReference,
      .templateWithConfiguration, .multipleScopes] ∧
    ∃ d d', first.value = .ok d ∧ d.target.text = "demo.App" ∧ d.dependencies.map (·.text) = ["void"] ∧
      let again := (x.substitute ⟨2⟩ (d.toDirective x.directive)).extract (.direct ⟨2⟩) "demo.App"
      again.value = .ok d' ∧ d' = { d with scope := d'.scope } ∧
        again.diagnostics.map (·.code) = [.templateWithConfiguration, .multipleScopes] := by
  intro x first
  have hcodes : first.diagnostics.map (·.code) = [.invalidTypeReference, .invalidTypeReference, .invalidTypeReference,
      .templateWithConfiguration, .multipleScopes] := by decide
  have hdata : first.value.map (fun d => (d.target.text, d.dependencies.map (·.text))) =
      .ok ("demo.App", ["void"]) := by decide
  cases hd : first.value with
  | error e =>
    rw [hd] at hdata
    cases hdata
  | ok d =>
    rw [hd] at hdata
    obtain ⟨htarget, hdependencies⟩ := Prod.mk.inj (Except.ok.inj hdata)
    obtain ⟨d', hvalue, hsame, -, hdiag, -, -⟩ := extract_toDirective (x := x) (r := .direct ⟨2⟩) hd
    have hkept : (first.diagnostics.filter (fun g => g.code = .templateWithConfiguration ∨
        g.code = .multipleScopes)).map (·.code) = [.templateWithConfiguration, .multipleScopes] := by decide
    exact ⟨hcodes, d, d', rfl, htarget, hdependencies, hvalue, hsame, (congrArg _ hdiag).trans hkept⟩

end Extractor

end ComponentDirective
