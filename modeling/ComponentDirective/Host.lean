import ComponentDirective.Declaration

/-!
# Hosts

A host answers three queries about the declarations of one compilation, and gives the same answer each time it is asked.
Nothing ties the three together: a type may be declared by a number that the host does not know. All else that
extraction asks of a host is composed of the three.
-/

namespace ComponentDirective

/-- The fixed answers to the three queries. -/
structure Host where
  declaration : DeclId → Except ModelError Declaration
  /-- The declaration that declares a type, for a type of this compilation. -/
  declarationOf : TypeName → Option DeclId
  /-- Every declaration, in the order of declaration. -/
  declarationIds : List DeclId

namespace Host

/-- The first directive of a kind on a declaration. -/
def directive (h : Host) (id : DeclId) (kind : TypeName) : Except ModelError (Option Marker) :=
  match h.declaration id with
  | .error e => .error e
  | .ok d => .ok (d.find? kind)

def markers (h : Host) (id : DeclId) : Except ModelError (List Marker) :=
  match h.declaration id with
  | .error e => .error e
  | .ok d => .ok d.markers

/-- Whether the declaration of a type bears the scope annotation. A type from outside the compilation never does. -/
def definesScope (h : Host) (type scopeKind : TypeName) : Except ModelError Bool :=
  match h.declarationOf type with
  | none => .ok false
  | some id =>
    match h.declaration id with
    | .error e => .error e
    | .ok d => .ok (d.bears scopeKind)

/-- The name to which failures of a declaration are attributed: its qualified name, or its number when it is unknown. -/
def site (h : Host) (id : DeclId) : String :=
  match h.declaration id with
  | .error _ => id.text
  | .ok d => d.name.text

end Host

/-! ## Hosts that give wrong answers -/

/-- Answers to give in place of a host's own. -/
structure Faults where
  /-- Answers about the declaration of a type; the last one about a type counts. -/
  declarationOf : List (TypeName × Option DeclId)
  /-- Declarations that are denied. -/
  hidden : List DeclId
  /-- The list of all declarations, when it is to be replaced. -/
  declarationIds : Option (List DeclId)

def Faults.none : Faults := ⟨[], [], .none⟩

def Host.withFaults (h : Host) (f : Faults) : Host where
  declaration id := if id ∈ f.hidden then .error (.unknownDeclaration id) else h.declaration id
  declarationOf t :=
    match f.declarationOf.reverse.find? (·.1 == t) with
    | some (_, answer) => answer
    | none => h.declarationOf t
  declarationIds := f.declarationIds.getD h.declarationIds

end ComponentDirective
