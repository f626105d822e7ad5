import ComponentDirective.Proofs.Extraction
import ComponentDirective.Proofs.ScopePlaces

/-!
# What an extraction notes in its journal

An event reports a diagnostic, notes a marker that defines a scope, or tells how something ended (`Event.perm_kinds`).
The readers of a directive and its check only report (`Recorded.OnlyReports`), and the search for a scope tells of no
end. So an extraction tells of its end exactly when it succeeds (`Extractor.endings_of_ok`,
`Extractor.endings_of_error`), and a descriptor with a scope leaves one note for the scope and one for each conflict
with it (`Extractor.length_scopes_extract`).
-/

namespace ComponentDirective

/-! ## Kinds of events -/

namespace Event

/-- The type of a marker that was found to define a scope. -/
def scope? : Event → Option TypeName
  | .scopeFound marker => some marker
  | _ => none

/-- Whether an event tells how an extraction or a run ended. -/
def isEnding : Event → Bool
  | .diagnosed _ | .scopeFound _ => false
  | .unscoped _ | .extracted .. | .finished .. => true

/-- **Events are of three kinds.** -/
theorem perm_kinds (events : List Event) : events.Perm ((events.filterMap diagnostic?).map .diagnosed ++
    (events.filterMap scope?).map .scopeFound ++ events.filter isEnding) := by
  induction events with
  | nil => exact .nil
  | cons e events ih =>
    cases e with
    | diagnosed d => exact ih.cons _
    | scopeFound marker =>
      refine (ih.cons _).trans ?_
      rw [List.append_assoc]
      exact List.perm_middle.symm.trans (.of_eq (by rw [List.append_assoc]; rfl))
    | unscoped component => exact (ih.cons _).trans List.perm_middle.symm
    | extracted component target dependencies modules superinterfaces hasScope =>
      exact (ih.cons _).trans List.perm_middle.symm
    | finished components failures diagnostics => exact (ih.cons _).trans List.perm_middle.symm

end Event

namespace Recorded

variable {α β : Type}

/-- The types of the markers that were found to define a scope. -/
def scopes (r : Recorded α) : List TypeName := r.events.filterMap Event.scope?

/-- The events that tell how something ended. -/
def endings (r : Recorded α) : List Event := r.events.filter Event.isEnding

@[simp] theorem scopes_pure (a : α) : (pure a : Recorded α).scopes = [] := rfl

@[simp] theorem scopes_bind (r : Recorded α) (f : α → Recorded β) :
    (r >>= f).scopes = r.scopes ++ (f r.value).scopes := by
  simp [scopes]

@[simp] theorem endings_pure (a : α) : (pure a : Recorded α).endings = [] := rfl

@[simp] theorem endings_bind (r : Recorded α) (f : α → Recorded β) :
    (r >>= f).endings = r.endings ++ (f r.value).endings := by
  simp [endings]

/-! ## Steps that only report -/

/-- All that is noted on the way to a value are diagnostics. -/
def OnlyReports (r : Recorded α) : Prop := r.scopes = [] ∧ r.endings = []

theorem onlyReports_pure (a : α) : (pure a : Recorded α).OnlyReports := ⟨rfl, rfl⟩

theorem onlyReports_report (site : String) (f : Finding) : (report site f).OnlyReports := ⟨rfl, rfl⟩

theorem OnlyReports.bind {r : Recorded α} {f : α → Recorded β} (hr : r.OnlyReports) (hf : (f r.value).OnlyReports) :
    (r >>= f).OnlyReports := by
  constructor
  · rw [scopes_bind, hr.1, hf.1, List.nil_append]
  · rw [endings_bind, hr.2, hf.2, List.nil_append]

end Recorded

open Recorded (OnlyReports)

theorem Value.onlyReports_readClass (site member : String) (v : Value) : (v.readClass site member).OnlyReports := by
  unfold readClass
  split
  · exact (Recorded.onlyReports_report ..).bind (Recorded.onlyReports_pure _)
  · exact Recorded.onlyReports_pure _

theorem Value.onlyReports_readEntries (site member : String) (vs : List Value) :
    (readEntries site member vs).OnlyReports := by
  induction vs with
  | nil => exact Recorded.onlyReports_pure _
  | cons v vs ih =>
    cases hv : v.asList with
    | some entries =>
      obtain rfl := asList_eq_some_iff.1 hv
      exact (Recorded.onlyReports_report ..).bind (Recorded.onlyReports_pure _)
    | none =>
      rw [readEntries_cons site member hv]
      exact (onlyReports_readClass ..).bind (ih.bind (Recorded.onlyReports_pure _))

theorem Marker.onlyReports_readType (m : Marker) (member site : String) : (m.readType member site).OnlyReports := by
  unfold readType
  split
  · exact Recorded.onlyReports_pure _
  · exact (Value.onlyReports_readClass ..).bind (Recorded.onlyReports_pure _)

theorem Marker.onlyReports_readTypes (m : Marker) (member site : String) : (m.readTypes member site).OnlyReports := by
  unfold readTypes
  split
  · exact Recorded.onlyReports_pure _
  · exact Value.onlyReports_readEntries ..

namespace Settings

theorem onlyReports_read (m : Marker) (site : String) : (read m site).OnlyReports :=
  (m.onlyReports_readType ..).bind <| (m.onlyReports_readType ..).bind <| (m.onlyReports_readTypes ..).bind <|
    (m.onlyReports_readTypes ..).bind <| (m.onlyReports_readTypes ..).bind (Recorded.onlyReports_pure _)

theorem onlyReports_check (s : Settings) (site : String) : (s.check site).OnlyReports := by
  unfold check
  split
  · exact Recorded.onlyReports_report ..
  · exact Recorded.onlyReports_pure _

end Settings

/-! ## The search for a scope -/

namespace Host

variable (h : Host) (scopeKind : TypeName)

theorem onlyReports_reportExtra (site : String) (first : Marker) (extra : List Marker) :
    (reportExtra site scopeKind first extra).OnlyReports := by
  induction extra with
  | nil => exact Recorded.onlyReports_pure _
  | cons m extra ih => exact (Recorded.onlyReports_report ..).bind ih

theorem endings_markedScopes (ms : List Marker) : (h.markedScopes scopeKind ms).endings = [] := by
  induction ms with
  | nil => rfl
  | cons m ms ih =>
    rw [markedScopes]
    split
    · rfl
    · exact ih
    · rw [Recorded.endings_bind, Recorded.endings_bind, ih]
      cases (h.markedScopes scopeKind ms).value <;> rfl

/-- A scan that does not fail notes the scopes that it finds. -/
theorem scopes_markedScopes {ms : List Marker} (hf : ms.findSome? h.fault? = none) :
    (h.markedScopes scopeKind ms).scopes = (ms.filter (h.isScope scopeKind)).map (·.type) := by
  induction ms with
  | nil => rfl
  | cons m ms ih =>
    rw [List.findSome?_eq_none_iff, List.forall_mem_cons, ← List.findSome?_eq_none_iff] at hf
    have hrest := ih hf.2
    have hv := value_markedScopes h scopeKind ms
    rw [hf.2] at hv
    rw [markedScopes, definesScope_eq, hf.1]
    cases hs : h.isScope scopeKind m with
    | false => simpa [hs] using hrest
    | true =>
      simp only [Recorded.scopes_bind, hv, hrest, hs, List.filter_cons_of_pos, List.map_cons]
      exact congrArg (m.type :: ·) (List.append_nil _)

theorem endings_scopeOn (id : DeclId) : (h.scopeOn scopeKind id).endings = [] := by
  unfold scopeOn
  split
  · rfl
  · rw [Recorded.endings_bind, endings_markedScopes]
    split
    · rfl
    · rfl
    · rw [Recorded.endings_bind, (onlyReports_reportExtra ..).2]
      rfl

theorem scopes_scopeOn {id : DeclId} {d : Declaration} (hd : h.declaration id = .ok d)
    (hf : d.markers.findSome? h.fault? = none) :
    (h.scopeOn scopeKind id).scopes = (d.markers.filter (h.isScope scopeKind)).map (·.type) := by
  have hv := value_markedScopes h scopeKind d.markers
  rw [hf] at hv
  simp only [scopeOn, hd, Recorded.scopes_bind, scopes_markedScopes h scopeKind hf, hv]
  cases d.markers.filter (h.isScope scopeKind) with
  | nil => rfl
  | cons first extra =>
    rw [Recorded.scopes_bind, (onlyReports_reportExtra ..).1]
    exact List.append_nil _

variable {h scopeKind}

/-- A search notes the scope that it finds and each scope that conflicts with it. -/
theorem length_scopes_scopeOn {id : DeclId} {scope : Option Marker}
    (hv : (h.scopeOn scopeKind id).value = .ok scope) :
    (h.scopeOn scopeKind id).scopes.length = scope.toList.length + (h.scopeOn scopeKind id).diagnostics.length := by
  obtain ⟨d, hd, hf, rfl, hdiag⟩ := exists_of_scopeOn_ok hv
  rw [hdiag, scopes_scopeOn h scopeKind hd hf]
  cases d.markers.filter (h.isScope scopeKind) with
  | nil => rfl
  | cons first extra => simp [conflicts, Nat.add_comm]

/-- Where no scope is found there is no conflict. -/
theorem diagnostics_scopeOn_of_none {id : DeclId} (hv : (h.scopeOn scopeKind id).value = .ok none) :
    (h.scopeOn scopeKind id).diagnostics = [] := by
  obtain ⟨d, -, -, hnone, hdiag⟩ := exists_of_scopeOn_ok hv
  rw [hdiag, List.head?_eq_none_iff.1 hnone.symm]
  rfl

variable (h scopeKind)

theorem scopes_scope_eq (element component : DeclId) : (h.scope scopeKind element component).scopes =
    (h.scopeOn scopeKind element).scopes ++
      match (h.scopeOn scopeKind element).value with
      | .ok none => if element = component then [] else (h.scopeOn scopeKind component).scopes
      | _ => [] := by
  rw [scope, Recorded.scopes_bind]
  congr 1
  rcases (h.scopeOn scopeKind element).value with e | _ | m
  · rfl
  · exact apply_ite Recorded.scopes ..
  · rfl

theorem endings_scope (element component : DeclId) : (h.scope scopeKind element component).endings = [] := by
  rw [scope, Recorded.endings_bind, endings_scopeOn]
  split
  · split
    · rfl
    · exact endings_scopeOn ..
  · rfl

variable {h scopeKind}

theorem length_scopes_scope {element component : DeclId} {scope : Option Marker}
    (hv : (h.scope scopeKind element component).value = .ok scope) :
    (h.scope scopeKind element component).scopes.length =
      scope.toList.length + (h.scope scopeKind element component).diagnostics.length := by
  rw [scopes_scope_eq, diagnostics_scope_eq, List.length_append, List.length_append]
  rw [value_scope_eq] at hv
  cases hel : (h.scopeOn scopeKind element).value with
  | error e => simp [hel] at hv
  | ok found =>
    rw [length_scopes_scopeOn hel]
    cases found with
    | some m =>
      obtain rfl : some m = scope := by simpa [hel] using hv
      simp
    | none =>
      simp only [hel] at hv ⊢
      by_cases hsame : element = component
      · rw [if_pos hsame] at hv
        cases hv
        simp [hsame]
      · rw [if_neg hsame] at hv
        simp only [if_neg hsame, length_scopes_scopeOn hv, Option.toList_none, List.length_nil]
        omega

theorem diagnostics_scope_of_none {element component : DeclId}
    (hv : (h.scope scopeKind element component).value = .ok none) :
    (h.scope scopeKind element component).diagnostics = [] := by
  rw [value_scope_eq] at hv
  rw [diagnostics_scope_eq]
  rcases hel : (h.scopeOn scopeKind element).value with e | _ | m
  · simp [hel] at hv
  · simp only [hel] at hv ⊢
    rw [diagnostics_scopeOn_of_none hel, List.nil_append]
    by_cases hsame : element = component
    · rw [if_pos hsame]
    · rw [if_neg hsame] at hv ⊢
      exact diagnostics_scopeOn_of_none hv
  · simp [hel] at hv

end Host

/-! ## Extractions -/

/-- The announcement of a descriptor notes no scope. -/
theorem Descriptor.scopes_announce (d : Descriptor) (component : TypeName) (warnUnscoped : Bool) :
    (d.announce component warnUnscoped).scopes = [] := by
  unfold announce
  split <;> rfl

/-- An announcement is a warning, if one is called for, and the end of the extraction. -/
theorem Descriptor.endings_announce (d : Descriptor) (component : TypeName) (warnUnscoped : Bool) :
    (d.announce component warnUnscoped).endings = (if warnUnscoped && !d.isScoped then [.unscoped component] else []) ++
      [.extracted component d.target d.dependencies.length d.modules.length d.superinterfaces.length d.isScoped] := by
  unfold announce
  split <;> rfl

namespace Extractor

variable (x : Extractor) (r : Request) (site : String)

/-- Reading a directive ends with an announcement when it succeeds, and without one when it fails. -/
theorem endings_readDirective (component : Declaration) (m : Marker) :
    (x.readDirective r component m site).endings =
      match (x.readDirective r component m site).value with
      | .error _ => []
      | .ok d => (d.announce component.name x.warnUnscoped).endings := by
  rw [value_readDirective]
  simp only [readDirective, Recorded.endings_bind, (Settings.onlyReports_read m site).2,
    (Settings.onlyReports_check _ site).2, Host.endings_scope, List.nil_append]
  cases (x.host.scope x.scopeKind r.element r.component).value with
  | error e => rfl
  | ok scope => simp only [Recorded.endings_bind, Recorded.endings_pure, List.append_nil]

/-- An extraction that fails announces nothing. -/
theorem endings_of_error {e : ExtractError} (he : (x.extract r site).value = .error e) :
    (x.extract r site).endings = [] := by
  rw [value_extract] at he
  have hattempt : (x.attempt r site).endings = [] := by
    rcases attempt_eq_or x r site with ⟨e', hpure⟩ | ⟨component, m, hread⟩
    · rw [hpure]
      rfl
    · rw [hread] at he ⊢
      rw [endings_readDirective, he]
  rw [extract, Recorded.endings_bind, hattempt, he]
  rfl

/-- An extraction that succeeds announces its descriptor, under the name of the component. -/
theorem endings_of_ok {d : Descriptor} (hd : (x.extract r site).value = .ok d) : ∃ component,
    x.host.declaration d.component = .ok component ∧
      (x.extract r site).endings = (d.announce component.name x.warnUnscoped).endings := by
  obtain ⟨component, -, m, scope, hco, -, -, -, hof, heq⟩ := exists_of_extract_ok hd
  refine ⟨component, ?_, ?_⟩
  · rw [hof]
    exact hco
  · rw [heq] at hd ⊢
    rw [endings_readDirective, hd]

/-- Only the search for the scope reports conflicts of scopes. -/
theorem conflicts_readDirective (component : Declaration) (m : Marker) :
    (x.readDirective r component m site).diagnostics.filter (·.code = .multipleScopes) =
      (x.host.scope x.scopeKind r.element r.component).diagnostics :=
  filter_readDirective x r site component m fun code => code = .multipleScopes

/-- **The notes of scopes and the conflicts of a successful extraction account for each other.** Its scope is noted, and
each scope that conflicts with it; without a scope there is neither. -/
theorem length_scopes_extract {d : Descriptor} (hd : (x.extract r site).value = .ok d) :
    (x.extract r site).scopes.length =
        d.scope.toList.length + ((x.extract r site).diagnostics.filter (·.code = .multipleScopes)).length ∧
      (d.scope = none → (x.extract r site).diagnostics.filter (·.code = .multipleScopes) = []) := by
  obtain ⟨component, -, m, scope, -, -, -, hscope, rfl, heq⟩ := exists_of_extract_ok hd
  have hnotes : (x.readDirective r component m site).scopes =
      (x.host.scope x.scopeKind r.element r.component).scopes := by
    simp only [readDirective, Recorded.scopes_bind, (Settings.onlyReports_read m site).1,
      (Settings.onlyReports_check _ site).1, hscope, Descriptor.scopes_announce, Recorded.scopes_pure, List.nil_append,
      List.append_nil]
  rw [heq, conflicts_readDirective, hnotes]
  refine ⟨Host.length_scopes_scope hscope, fun hnone => Host.diagnostics_scope_of_none ?_⟩
  rw [hscope, show scope = none from hnone]

end Extractor

end ComponentDirective
