import ComponentDirective.Proofs.Extraction
import ComponentDirective.Proofs.ListFields
import ComponentDirective.Proofs.ScopeAnswers
import ComponentDirective.Proofs.ValidDirectives

/-!
# What a successful extraction reports, and what it keeps

An extraction that succeeds reports what the readers of the five fields report, then a template beside a configuration,
then the scopes that conflict with the one that applies (`Extractor.extract_reports`). The conflict of the template is
decided on the descriptor, that is on the data that survived its reading. That data does not depend on what is reported:
a field of one type keeps the type that is written in it, and a list field the types of its longest flat beginning
(`Descriptor.Keeps`).
-/

namespace ComponentDirective

/-! ## Fields -/

namespace Marker

variable (m : Marker) (member : String)

/-- What the readers report about the fields of a directive, one field after another. -/
def fieldReports (site : String) : List Diagnostic :=
  (typeMembers.flatMap fun member => (m.readType member site).diagnostics) ++
    listMembers.flatMap fun member => (m.readTypes member site).diagnostics

/-- What a field of one type stands for: the type that is written in it, unless that is `void`. -/
def StandsFor (o : Option TypeName) : Prop :=
  ∀ t, o = some t ↔ m.value? member = some (.type t) ∧ t.isVoid = false

/-- What a list field stands for: the types of the entries in front of the first nested list. A value by itself is the
only entry of its field, and a field that is not written has none. -/
def StandsForList (ts : List TypeName) : Prop :=
  ∃ p, Value.LongestFlat p (m.entries member) ∧ ts = p.filterMap Value.asType

variable {m member}

theorem standsFor_readType (site : String) : m.StandsFor member (m.readType member site).value := by
  intro t
  rw [value_readType, Option.filter_eq_some_iff, Option.bind_eq_some_iff, Bool.not_eq_true']
  refine and_congr_left fun _ => ⟨?_, fun hv => ⟨_, hv, rfl⟩⟩
  rintro ⟨v, hv, ht⟩
  rw [hv, Value.asType_eq_some_iff.1 ht]

theorem standsForList_readTypes (site : String) : m.StandsForList member (m.readTypes member site).value :=
  ⟨_, Value.longestFlat_readable _, value_readTypes ..⟩

theorem diagnostics_of_absent (site : String) (hv : m.value? member = none) :
    (m.readType member site).diagnostics = [] ∧ (m.readTypes member site).diagnostics = [] := by
  simp only [readType, readTypes, hv]
  exact ⟨rfl, rfl⟩

theorem code_fieldReports {site : String} {d : Diagnostic} (hd : d ∈ m.fieldReports site) :
    d.code = .invalidTypeReference := by
  rcases List.mem_append.1 hd with hd | hd
  · obtain ⟨member, -, hd⟩ := List.mem_flatMap.1 hd
    exact code_readType hd
  · obtain ⟨member, -, hd⟩ := List.mem_flatMap.1 hd
    exact code_readTypes hd

end Marker

theorem Settings.diagnostics_read_eq_fieldReports (m : Marker) (site : String) :
    (read m site).diagnostics = m.fieldReports site := by
  simp only [diagnostics_read, Marker.fieldReports, Marker.typeMembers, Marker.listMembers, List.flatMap_cons,
    List.flatMap_nil, List.append_nil, List.append_assoc]

/-! ## Extractions -/

/-- A descriptor keeps the data of a directive: what its fields stand for, and the component's own type for a target
that is left open. -/
structure Descriptor.Keeps (d : Descriptor) (m : Marker) (component : Declaration) : Prop where
  target : ∃ named, m.StandsFor "target" named ∧ d.target = named.getD component.name
  template : m.StandsFor "fromTemplate" d.template
  dependencies : m.StandsForList "dependencies" d.dependencies
  modules : m.StandsForList "modules" d.modules
  superinterfaces : m.StandsForList "superinterfaces" d.superinterfaces

theorem Descriptor.keeps_ofSettings (m : Marker) (component : Declaration) (id : DeclId) (site : String)
    (scope : Option Marker) : (ofSettings component id (Settings.read m site).value scope).Keeps m component where
  target := ⟨_, Marker.standsFor_readType site, rfl⟩
  template := Marker.standsFor_readType site
  dependencies := Marker.standsForList_readTypes site
  modules := Marker.standsForList_readTypes site
  superinterfaces := Marker.standsForList_readTypes site

namespace Extractor

variable {x : Extractor} {r : Request} {site : String}

/-- **What a successful extraction reports, and what it keeps.** First comes what the readers report about the fields of
the first directive, field after field. One report follows if the descriptor has a template and lists something, and
then one for each scope behind the first one of the declaration whose scopes count; the failure of an extraction is not
among them. The descriptor keeps the same data whatever is reported. -/
theorem extract_reports {d : Descriptor} (hd : (x.extract r site).value = .ok d) (session : Session) :
    ∃ el co m, x.host.Leads x.directive r el co m ∧
      let source := x.host.scopeSource x.scopeKind r.element r.component
      let scopes := x.host.scopesOf x.scopeKind source
      (session.keep (x.extract r site)).diagnostics = session.diagnostics ++ (m.fieldReports site ++
        (if d.template.isSome && d.isManual then [Finding.templateWithConfiguration.toDiagnostic site] else []) ++
        Host.conflicts x.scopeKind (x.host.site source) scopes) ∧
      (∀ g ∈ m.fieldReports site, g.code = .invalidTypeReference) ∧
      (∀ member, m.value? member = none →
        (m.readType member site).diagnostics = [] ∧ (m.readTypes member site).diagnostics = []) ∧
      (∀ g ∈ (x.extract r site).diagnostics, g.code ≠ .unreadableDirective) ∧
      d.component = r.component ∧ d.scope = scopes.head? ∧ d.Keeps m co := by
  obtain ⟨co, el, m, scope, hco, hel, hm, hscope, hof, heq⟩ := exists_of_extract_ok hd
  obtain ⟨-, -, hfirst, hconflicts⟩ := Host.scope_ok hscope
  have hcheck : d.isManual = (Settings.read m site).value.isManual := by rw [hof]; rfl
  have htemplate : d.template = (Settings.read m site).value.template := by rw [hof]; rfl
  refine ⟨el, co, m, ⟨hel, hco, hm⟩, ?_, fun g => Marker.code_fieldReports,
    fun member hv => Marker.diagnostics_of_absent site hv, ?_, ?_, ?_, ?_⟩
  · rw [Session.diagnostics_keep, heq, diagnostics_readDirective, Settings.diagnostics_read_eq_fieldReports,
      Settings.diagnostics_check, hconflicts, hcheck, htemplate]
  · intro g hg
    rw [value_extract] at hd
    rw [extract_eq_attempt hd] at hg
    exact code_attempt x r site hg
  · rw [hof]
    rfl
  · rw [hof]
    exact hfirst
  · rw [hof]
    exact Descriptor.keeps_ofSettings ..

/-- The crowded directive of `demo.App` leaves three reports about its fields and one about its template, and the scopes
behind it two; these name the interface, while the others name the site that is given. -/
theorem extract_reports_crowded :
    let x : Extractor := ⟨Host.strandedHost, ⟨"autodagger.AutoComponent", by decide⟩,
      ⟨"javax.inject.Scope", by decide⟩, false⟩
    let session : Session := { Session.start with
      diagnostics := [⟨.unreadableDirective, "unknown declaration #5", some "#5"⟩] }
    let first := x.extract (.direct ⟨2⟩) "demo.Main"
    ∃ d, first.value = .ok d ∧ d.scope = some (.plain ⟨"demo.PerUser", by decide⟩) ∧
      (session.keep first).diagnostics.map (fun g => (g.code, g.site)) = [(.unreadableDirective, some "#5"),
        (.invalidTypeReference, some "demo.Main"), (.invalidTypeReference, some "demo.Main"),
        (.invalidTypeReference, some "demo.Main"), (.templateWithConfiguration, some "demo.Main"),
        (.multipleScopes, some "demo.App"), (.multipleScopes, some "demo.App")] := by
  intro x session first
  have hconflict : first.value.map (fun d => d.template.isSome && d.isManual) = .ok true := by decide
  have hdirective : (x.host.declaration ⟨2⟩).toOption.bind (·.find? x.directive) = some Host.crowdedDirective := by rfl
  cases hd : first.value with
  | error e =>
    rw [hd] at hconflict
    cases hconflict
  | ok d =>
    obtain ⟨el, co, m, hl, hdiag, -, -, -, -, hscope, -⟩ := extract_reports hd session
    have hel : x.host.declaration ⟨2⟩ = .ok el := hl.element
    rw [hel] at hdirective
    obtain rfl : m = Host.crowdedDirective := Option.some.inj (hl.directive.symm.trans hdirective)
    rw [hd] at hconflict
    have hboth : (d.template.isSome && d.isManual) = true := Except.ok.inj hconflict
    refine ⟨d, rfl, hscope.trans (by rfl), ?_⟩
    rw [hdiag, if_pos hboth]
    decide

end Extractor

end ComponentDirective
