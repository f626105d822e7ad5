import ComponentDirective.Host
import ComponentDirective.Journal

/-!
# The scope of a component

A marker defines a scope when the declaration of its type bears the scope annotation. The first such marker on the
element that carries the directive is the scope; only when the element has none and is not the component itself, the
component is searched in the same way. All further scopes of the searched declaration are reported against it.
-/

namespace ComponentDirective

namespace Host

/-- The markers of a list that define a scope. The scan ends at a marker whose type cannot be looked up. -/
def markedScopes (h : Host) (scopeKind : TypeName) : List Marker → Recorded (Except ModelError (List Marker))
  | [] => return .ok []
  | m :: rest =>
    match h.definesScope m.type scopeKind with
    | .error e => return .error e
    | .ok false => h.markedScopes scopeKind rest
    | .ok true => do
      Recorded.note (.scopeFound m.type)
      match ← h.markedScopes scopeKind rest with
      | .error e => return .error e
      | .ok scopes => return .ok (m :: scopes)

/-- Reports the scopes that stand behind the first one. -/
def reportExtra (site : String) (scopeKind : TypeName) (first : Marker) : List Marker → Recorded Unit
  | [] => return ()
  | m :: rest => do
    Recorded.report site (.extraScope scopeKind m.type first.type)
    reportExtra site scopeKind first rest

/-- The scope that a declaration carries: the first of its markers that defines one. -/
def scopeOn (h : Host) (scopeKind : TypeName) (id : DeclId) : Recorded (Except ModelError (Option Marker)) :=
  match h.declaration id with
  | .error e => return .error e
  | .ok d => do
    match ← h.markedScopes scopeKind d.markers with
    | .error e => return .error e
    | .ok [] => return .ok none
    | .ok (first :: extra) =>
      reportExtra d.name.text scopeKind first extra
      return .ok (some first)

/-- The scope of a component whose directive is on `element`. -/
def scope (h : Host) (scopeKind : TypeName) (element component : DeclId) :
    Recorded (Except ModelError (Option Marker)) := do
  match ← h.scopeOn scopeKind element with
  | .ok none => if element = component then return .ok none else h.scopeOn scopeKind component
  | answer => return answer

end Host

end ComponentDirective
