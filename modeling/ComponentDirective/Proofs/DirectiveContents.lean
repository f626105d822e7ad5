import ComponentDirective.Proofs.Extraction
import ComponentDirective.Proofs.SubstitutedMarkers
import ComponentDirective.Proofs.ValidDirectives
import ComponentDirective.Store

/-!
# What an extraction sees of a directive

A field that is not written reads as one that is written with its default, and no other field is read. So directives
with the same settings (`Marker.SameSettings`) read alike (`Settings.read_congr`), and the one can stand in place of the
other: the extraction ends in the same way and reports the same (`Extractor.extract_substitute`).
-/

namespace ComponentDirective

/-! ## Directives with the same settings -/

namespace Marker

/-- A field of one type is left open: it is not written, or written as `void`. -/
def LeavesType (m : Marker) (member : String) : Prop :=
  m.value? member = none ∨ m.value? member = some (.type .void)

/-- A field of several types is left open: it is not written, or written as the empty list. -/
def LeavesTypes (m : Marker) (member : String) : Prop :=
  m.value? member = none ∨ m.value? member = some (.list [])

instance (m : Marker) (member : String) : Decidable (m.LeavesType member) := inferInstanceAs (Decidable (_ ∨ _))

instance (m : Marker) (member : String) : Decidable (m.LeavesTypes member) := inferInstanceAs (Decidable (_ ∨ _))

/-- Each field that is read holds the same value in both markers, or is left open in both. -/
structure SameSettings (a b : Marker) : Prop where
  types : ∀ member ∈ typeMembers, a.value? member = b.value? member ∨ a.LeavesType member ∧ b.LeavesType member
  lists : ∀ member ∈ listMembers, a.value? member = b.value? member ∨ a.LeavesTypes member ∧ b.LeavesTypes member

variable {a b : Marker} {member : String} (site : String)

theorem readType_of_leaves (h : a.LeavesType member) : a.readType member site = pure none := by
  unfold readType
  rcases h with h | h
  · rw [h]
  · rw [h]
    rfl

theorem readTypes_of_leaves (h : a.LeavesTypes member) : a.readTypes member site = pure [] := by
  unfold readTypes
  rcases h with h | h
  · rw [h]
  · rw [h]
    rfl

theorem readType_congr (h : a.value? member = b.value? member ∨ a.LeavesType member ∧ b.LeavesType member) :
    b.readType member site = a.readType member site := by
  rcases h with h | ⟨ha, hb⟩
  · simp only [readType, h]
  · rw [readType_of_leaves site ha, readType_of_leaves site hb]

theorem readTypes_congr (h : a.value? member = b.value? member ∨ a.LeavesTypes member ∧ b.LeavesTypes member) :
    b.readTypes member site = a.readTypes member site := by
  rcases h with h | ⟨ha, hb⟩
  · simp only [readTypes, h]
  · rw [readTypes_of_leaves site ha, readTypes_of_leaves site hb]

end Marker

/-- Directives with the same settings read alike. -/
theorem Settings.read_congr {a b : Marker} (h : a.SameSettings b) (site : String) : read b site = read a site := by
  simp only [read, Marker.readType_congr site (h.types "target" (by decide)),
    Marker.readType_congr site (h.types "fromTemplate" (by decide)),
    Marker.readTypes_congr site (h.lists "dependencies" (by decide)),
    Marker.readTypes_congr site (h.lists "modules" (by decide)),
    Marker.readTypes_congr site (h.lists "superinterfaces" (by decide))]

/-! ## Two extractions -/

namespace Extractor

variable {x : Extractor} {r : Request} {el : Declaration} {old new : Marker}

/-- The extractor on the host on which a marker is substituted. -/
def substitute (x : Extractor) (id : DeclId) (m : Marker) : Extractor := { x with host := x.host.substitute id m }

/-- Two outcomes that differ at most in the marker that is the scope, and only if this is the directive itself: the same
failure, or the same descriptor with a scope at the same place. -/
inductive SameOutcome (x x' : Extractor) (r : Request) (old new : Marker) : Outcome → Outcome → Prop
  | failed (e : ExtractError) : SameOutcome x x' r old new (.error e) (.error e)
  | extracted {d d' : Descriptor} {place : Option MarkerPlace} :
    x.host.scopePlace? x.scopeKind r.element r.component = place →
    x'.host.scopePlace? x.scopeKind r.element r.component = place →
    d.scope = place.bind x.host.markerAt? → d'.scope = place.bind x'.host.markerAt? →
    d' = { d with scope := d'.scope } →
    (d'.scope = d.scope ∨ x.host.isScope x.scopeKind old = true ∧ d.scope = some old ∧ d'.scope = some new) →
    SameOutcome x x' r old new (.ok d) (.ok d')

section Substituted

variable (hel : x.host.declaration r.element = .ok el) (hold : el.find? x.directive = some old)
  (htype : new.type = x.directive)
include hel hold htype

/-- A scope that is found is the same marker in both searches, unless it is the directive. -/
theorem scope_substitute {scope scope' : Option Marker}
    (hv : (x.host.scope x.scopeKind r.element r.component).value = .ok scope)
    (hv' : ((x.host.substitute r.element new).scope x.scopeKind r.element r.component).value = .ok scope') :
    scope' = scope ∨ x.host.isScope x.scopeKind old = true ∧ scope = some old ∧ scope' = some new := by
  have hat := Host.scope_eq_markerAt? hv
  have hat' := Host.scope_eq_markerAt? hv'
  rw [Host.scopePlace?_substitute] at hat'
  cases hp : x.host.scopePlace? x.scopeKind r.element r.component with
  | none =>
    rw [hp] at hat hat'
    exact .inl (hat'.trans hat.symm)
  | some p =>
    have hscope : ∀ m, scope = some m → x.host.isScope x.scopeKind m = true := fun m hm =>
      Host.isScope_of_markerAt? (hat.symm.trans hm)
    rw [hp, Option.bind_some] at hat hat'
    rcases Host.markerAt?_substitute hel (htype ▸ hold) p with heq | ⟨-, hm, hm'⟩
    · exact .inl (hat'.trans (heq.trans hat.symm))
    · exact .inr ⟨hscope old (hat.trans hm), hat.trans hm, hat'.trans hm'⟩

theorem attempt_substitute (site : String) (hsame : old.SameSettings new) :
    SameOutcome x (x.substitute r.element new) r old new (x.attempt r site).value
      ((x.substitute r.element new).attempt r site).value ∧
    ((x.substitute r.element new).attempt r site).diagnostics = (x.attempt r site).diagnostics := by
  have hel' := Host.declaration_substitute_self (m := new) hel
  have hnew : (el.substitute new).find? x.directive = some new := htype ▸ Declaration.find?_substitute (htype ▸ hold)
  rcases Host.declaration_substitute_cases x.host r.element new r.component with
    ⟨e, hco, hco'⟩ | ⟨co, co', hco, hco', heq⟩
  · have hattempt : x.attempt r site = pure (.error (.model e)) := by simp only [attempt, hco]
    have hattempt' : (x.substitute r.element new).attempt r site = pure (.error (.model e)) := by
      simp only [attempt, substitute, hco']
    rw [hattempt, hattempt']
    exact ⟨.failed _, rfl⟩
  · have hname : co'.name = co.name := by rcases heq with rfl | rfl <;> rfl
    rw [value_attempt site hco hel hold, diagnostics_attempt site hco hel hold,
      value_attempt (x := x.substitute r.element new) site hco' hel' hnew,
      diagnostics_attempt (x := x.substitute r.element new) site hco' hel' hnew, Settings.read_congr hsame]
    refine ⟨?_, congrArg _ (Host.diagnostics_scope_substitute ..)⟩
    simp only [substitute]
    rcases (Host.value_scope_substitute x.host r.element new x.scopeKind r.element r.component).failed_or with
      ⟨e, hv, hv'⟩ | ⟨scope, scope', hv, hv'⟩
    · rw [hv, hv']
      exact .failed _
    · rw [hv, hv']
      refine .extracted rfl (Host.scopePlace?_substitute ..) (Host.scope_eq_markerAt? hv) ?_ ?_ ?_
      · rw [← Host.scopePlace?_substitute x.host r.element new]
        exact Host.scope_eq_markerAt? hv'
      · simp only [Descriptor.ofSettings, hname]
      · exact scope_substitute hel hold htype hv hv'

/-- **An extraction sees of a directive what its settings are.** When the first directive on the element is replaced by
one with the same settings, whatever else is written in the two and in which order, the extraction ends in the same way
and reports the same. -/
theorem extract_substitute (site : String) (hsame : old.SameSettings new) :
    SameOutcome x (x.substitute r.element new) r old new (x.extract r site).value
      ((x.substitute r.element new).extract r site).value ∧
    ((x.substitute r.element new).extract r site).diagnostics = (x.extract r site).diagnostics := by
  obtain ⟨hv, hd⟩ := attempt_substitute hel hold htype site hsame
  rw [value_extract, value_extract, diagnostics_extract, diagnostics_extract, hd]
  generalize (x.attempt r site).value = outcome at hv ⊢
  generalize ((x.substitute r.element new).attempt r site).value = outcome' at hv ⊢
  exact ⟨hv, by cases hv <;> rfl⟩

end Substituted

/-- A directive whose own type defines a scope, once with its defaults written and a note beside them, and once without
them. -/
theorem extract_substitute_defaults :
    let scopeKind : TypeName := ⟨"javax.inject.Scope", by decide⟩
    let directive : TypeName := ⟨"autodagger.AutoComponent", by decide⟩
    let listed : String × Value := ("dependencies", .ofTypes [⟨"demo.Core", by decide⟩])
    let old : Marker :=
      .ofWrites directive [("target", .type .void), listed, ("note", .bool true), ("modules", .list [])]
    let new : Marker := .ofWrites directive [("comment", .text "short"), listed]
    let x : Extractor := ⟨(Store.ofChanges [.scopeMarker "autodagger.AutoComponent" scopeKind,
      .declare "demo.App" .classType, .annotate ⟨1⟩ old]).host, directive, scopeKind, false⟩
    let el : Declaration := ⟨⟨1⟩, ⟨"demo.App", by decide⟩, .classType, [old]⟩
    x.host.declaration ⟨1⟩ = .ok el ∧ el.find? directive = some old ∧ new.type = directive ∧ old.SameSettings new ∧
    ∃ d d', (x.extract (.direct ⟨1⟩) "demo.App").value = .ok d ∧
      ((x.substitute ⟨1⟩ new).extract (.direct ⟨1⟩) "demo.App").value = .ok d' ∧
      d'.dependencies = d.dependencies ∧ d'.target = d.target := by
  intro scopeKind directive listed old new x el
  have hel : x.host.declaration ⟨1⟩ = .ok el := by rfl
  have hold : el.find? directive = some old := by rfl
  have hsame : old.SameSettings new := ⟨by decide, by decide⟩
  have hv : SameOutcome x (x.substitute ⟨1⟩ new) (.direct ⟨1⟩) old new (x.extract (.direct ⟨1⟩) "demo.App").value
      ((x.substitute ⟨1⟩ new).extract (.direct ⟨1⟩) "demo.App").value :=
    (extract_substitute (x := x) (r := .direct ⟨1⟩) hel hold rfl "demo.App" hsame).1
  have hok : (x.extract (.direct ⟨1⟩) "demo.App").value.isOk = true := by decide
  refine ⟨hel, hold, rfl, hsame, ?_⟩
  generalize (x.extract (.direct ⟨1⟩) "demo.App").value = outcome at hv hok ⊢
  generalize ((x.substitute ⟨1⟩ new).extract (.direct ⟨1⟩) "demo.App").value = outcome' at hv ⊢
  cases hv with
  | failed e => cases hok
  | @extracted d d' _ _ _ _ _ heq _ => exact ⟨d, d', rfl, rfl, by rw [heq], by rw [heq]⟩

end Extractor

end ComponentDirective
