import ComponentDirective.Marker

/-!
# Declarations

A declaration has a number, the name of the type that it declares, a kind, and its markers in the order in which they
stand. Markers may repeat a type; `find?` answers the first of a type.
-/

namespace ComponentDirective

/-- What a declaration declares. -/
inductive Kind
  | classType
  | interfaceType
  /-- The type of a marker; a directive on it speaks for every declaration that bears the marker. -/
  | markerType
deriving DecidableEq

structure Declaration where
  id : DeclId
  name : TypeName
  kind : Kind
  markers : List Marker

namespace Declaration

def isMarkerType (d : Declaration) : Bool := d.kind == .markerType

/-- The first marker of a type. -/
def find? (d : Declaration) (type : TypeName) : Option Marker := d.markers.find? (·.isOf type)

def bears (d : Declaration) (type : TypeName) : Bool := (d.find? type).isSome

theorem isMarkerType_iff {d : Declaration} : d.isMarkerType = true ↔ d.kind = .markerType := beq_iff_eq

theorem bears_iff {d : Declaration} {type : TypeName} : d.bears type = true ↔ ∃ m ∈ d.markers, m.type = type := by
  simp [bears, find?, Marker.isOf]

/-- Equal number, name and kind, and the same markers one after another. -/
def sameAs (a b : Declaration) : Bool :=
  a.id == b.id && a.name == b.name && a.kind == b.kind && a.markers.length == b.markers.length &&
    (a.markers.zip b.markers).all fun p => p.1.sameAs p.2

end Declaration

end ComponentDirective
