import ComponentDirective.Finding

/-!
# The journal of an extraction

Extraction keeps a journal: it notes each diagnostic that it reports, each scope that it finds, and how each component
ended. A `Recorded` value comes with the events that led to it. It may add events and cannot see those of others, which
is why extractions that share a journal do not influence each other. The diagnostics of a run are those of its journal.

* `Recorded.diagnostics_bind`: one step after another reports the diagnostics of the first, then those of the second.
-/

namespace ComponentDirective

/-! ## Events -/

inductive Event
  | diagnosed (diagnostic : Diagnostic)
  /-- A marker of this type defines a scope. -/
  | scopeFound (marker : TypeName)
  /-- The component has no scope. -/
  | unscoped (component : TypeName)
  /-- A component was extracted: its target, and how many dependencies, modules and superinterfaces it has. -/
  | extracted (component target : TypeName) (dependencies modules superinterfaces : Nat) (hasScope : Bool)
  /-- A whole run ended with so many components, failures and diagnostics. -/
  | finished (components failures diagnostics : Nat)
deriving DecidableEq

namespace Event

def diagnostic? : Event → Option Diagnostic
  | .diagnosed d => some d
  | _ => none

/-- The line of an event: its level and message, then its details. -/
def line : Event → String
  | .diagnosed d => "DEBUG " ++ d.message ++ details [("code", d.code.text)]
  | .scopeFound marker => "TRACE found scope annotation" ++ details [("marker", marker.text)]
  | .unscoped component =>
    "WARN component resolves to no scope and will be unscoped" ++ details [("component", component.text)]
  | .extracted component target dependencies modules superinterfaces hasScope =>
    "DEBUG extracted component" ++ details [("component", component.text), ("target_type", target.text),
      ("dependencies", dependencies.repr), ("modules", modules.repr), ("superinterfaces", superinterfaces.repr),
      ("scoped", if hasScope then "true" else "false")]
  | .finished components failures diagnostics =>
    "INFO extraction finished" ++ details [("components", components.repr), ("failures", failures.repr),
      ("diagnostics", diagnostics.repr)]
where
  details (fields : List (String × String)) : String :=
    String.join (fields.map fun f => "; " ++ f.1 ++ "=" ++ f.2)

end Event

/-! ## Recorded values -/

/-- A value and the events noted on the way to it, oldest first. -/
structure Recorded (α : Type) where
  value : α
  events : List Event

namespace Recorded

variable {α β : Type}

instance : Monad Recorded where
  pure a := ⟨a, []⟩
  bind r f := ⟨(f r.value).value, r.events ++ (f r.value).events⟩

@[simp] theorem value_pure (a : α) : (pure a : Recorded α).value = a := rfl

@[simp] theorem events_pure (a : α) : (pure a : Recorded α).events = [] := rfl

@[simp] theorem value_bind (r : Recorded α) (f : α → Recorded β) : (r >>= f).value = (f r.value).value := rfl

@[simp] theorem events_bind (r : Recorded α) (f : α → Recorded β) :
    (r >>= f).events = r.events ++ (f r.value).events := rfl

@[simp] theorem value_map (f : α → β) (r : Recorded α) : (f <$> r).value = f r.value := rfl

@[simp] theorem events_map (f : α → β) (r : Recorded α) : (f <$> r).events = r.events := List.append_nil _

@[ext] protected theorem ext {r s : Recorded α} (hv : r.value = s.value) (he : r.events = s.events) : r = s := by
  cases r
  cases s
  simp_all

instance : LawfulMonad Recorded :=
  LawfulMonad.mk' Recorded (fun _ => Recorded.ext rfl (List.append_nil _)) (fun _ _ => rfl)
    fun _ _ _ => Recorded.ext rfl (List.append_assoc ..)

/-- Notes an event. -/
def note (e : Event) : Recorded Unit := ⟨(), [e]⟩

def add (d : Diagnostic) : Recorded Unit := note (.diagnosed d)

/-- Reports a finding about a declaration. -/
def report (site : String) (f : Finding) : Recorded Unit := add (f.toDiagnostic site)

def diagnostics (r : Recorded α) : List Diagnostic := r.events.filterMap Event.diagnostic?

@[simp] theorem diagnostics_pure (a : α) : (pure a : Recorded α).diagnostics = [] := rfl

@[simp] theorem diagnostics_bind (r : Recorded α) (f : α → Recorded β) :
    (r >>= f).diagnostics = r.diagnostics ++ (f r.value).diagnostics := by
  simp [diagnostics]

@[simp] theorem diagnostics_map (f : α → β) (r : Recorded α) : (f <$> r).diagnostics = r.diagnostics := by
  simp [diagnostics]

@[simp] theorem diagnostics_report (site : String) (f : Finding) :
    (report site f).diagnostics = [f.toDiagnostic site] := rfl

end Recorded

end ComponentDirective
