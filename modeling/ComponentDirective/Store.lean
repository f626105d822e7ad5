import ComponentDirective.Host

/-!
# The store of declarations

A store is built by declaring names and attaching markers. The place of a declaration in the store is its number, a
table holds the number under which each name was declared, and a change that fails leaves the store as it was.
`Store.host` answers the queries of a host from what was stored.

* `Store.declare_again`: declaring a known name answers its first number and changes nothing.
-/

namespace ComponentDirective

structure Store where
  /-- The declarations, each at the place that its number says. -/
  declarations : List Declaration
  /-- The numbers of the declared names; what is entered last about a name counts. -/
  numbers : List (TypeName × DeclId)

namespace Store

def empty : Store := ⟨[], []⟩

def size (s : Store) : Nat := s.declarations.length

/-- The declaration of a number. -/
def get? (s : Store) (id : DeclId) : Option Declaration := s.declarations[id.index]?

/-- The number under which a name was declared. -/
def idOf? (s : Store) (name : TypeName) : Option DeclId := s.numbers.lookup name

/-! ## Changes

A change answers the number of the declaration that it is about, or why it failed, together with the store it leaves. -/

/-- Declares a name, unless it is declared already: then the first declaration stays as it is. -/
def declare (s : Store) (text : String) (kind : Kind) : Except ModelError DeclId × Store :=
  match TypeName.parse text with
  | .error e => (.error e, s)
  | .ok name =>
    match s.idOf? name with
    | some id => (.ok id, s)
    | none =>
      let id := DeclId.ofIndex s.size
      (.ok id, ⟨s.declarations ++ [⟨id, name, kind, []⟩], (name, id) :: s.numbers⟩)

/-- Attaches a marker behind those that the declaration has. -/
def annotate (s : Store) (id : DeclId) (marker : Marker) : Except ModelError DeclId × Store :=
  if id.index < s.size then
    (.ok id, { s with
      declarations := s.declarations.modify id.index fun d => { d with markers := d.markers ++ [marker] } })
  else (.error (.unknownDeclaration id), s)

/-- Declares a marker type, unless its name is declared already, and puts the scope annotation on it. -/
def scopeMarker (s : Store) (text : String) (scopeKind : TypeName) : Except ModelError DeclId × Store :=
  match s.declare text .markerType with
  | (.error e, s) => (.error e, s)
  | (.ok id, s) => s.annotate id (.plain scopeKind)

inductive Change
  | declare (text : String) (kind : Kind)
  | annotate (id : DeclId) (marker : Marker)
  | scopeMarker (text : String) (scopeKind : TypeName)

def apply (s : Store) : Change → Except ModelError DeclId × Store
  | .declare text kind => s.declare text kind
  | .annotate id marker => s.annotate id marker
  | .scopeMarker text scopeKind => s.scopeMarker text scopeKind

/-- The store that a history of changes leaves. -/
def ofChanges (changes : List Change) : Store := changes.foldl (fun s c => (s.apply c).2) empty

theorem declare_again {s : Store} {text : String} {name : TypeName} {id : DeclId} (kind : Kind)
    (hp : TypeName.parse text = .ok name) (hid : s.idOf? name = some id) : s.declare text kind = (.ok id, s) := by
  simp [declare, hp, hid]

/-! ## Queries -/

def host (s : Store) : Host where
  declaration id :=
    match s.get? id with
    | some d => .ok d
    | none => .error (.unknownDeclaration id)
  declarationOf := s.idOf?
  declarationIds := s.declarations.map (·.id)

end Store

end ComponentDirective
