import ComponentDirective.Component
import ComponentDirective.Json.Basic

/-!
# Snapshots

The JSON form of the data that extraction consumes and produces. A field value carries its kind, so that no two kinds
can be taken for each other, and fields stand in their order.
-/

namespace ComponentDirective

def TypeName.toJson (t : TypeName) : Json := .text t.text

/-- The key of a kind of value. -/
def Shape.key : Shape → String
  | .type => "type"
  | .unresolved => "unresolved"
  | .list => "list"
  | .text => "string"
  | .int => "int"
  | .bool => "bool"

namespace Value

/-- A value under its kind. -/
def tagged (shape : Shape) (content : Json) : Json := .object [("kind", .text shape.key), ("value", content)]

mutual

def toJson : Value → Json
  | .type t => tagged .type t.toJson
  | .unresolved s => tagged .unresolved (.text s)
  | .list vs => tagged .list (.array (listToJson vs))
  | .text s => tagged .text (.text s)
  | .int n => tagged .int (.int n.toInt)
  | .bool b => tagged .bool (.bool b)

def listToJson : List Value → List Json
  | [] => []
  | v :: vs => v.toJson :: listToJson vs

end

end Value

def Marker.toJson (m : Marker) : Json :=
  .object [("annotationType", m.type.toJson), ("values", .object (m.fields.entries.map fun e => (e.1, e.2.toJson)))]

def DeclId.toJson (id : DeclId) : Json := .nat id.index

/-- The key of a kind of declaration. -/
def Kind.key : Kind → String
  | .classType => "class"
  | .interfaceType => "interface"
  | .markerType => "annotation"

def Declaration.toJson (d : Declaration) : Json :=
  .object [("id", d.id.toJson), ("name", d.name.toJson), ("kind", .text d.kind.key),
    ("annotations", .array (d.markers.map Marker.toJson))]

def Descriptor.toJson (d : Descriptor) : Json :=
  .object [("componentElement", d.component.toJson), ("target", d.target.toJson),
    ("fromTemplate", .optional TypeName.toJson d.template),
    ("dependencies", .array (d.dependencies.map TypeName.toJson)),
    ("modules", .array (d.modules.map TypeName.toJson)),
    ("superinterfaces", .array (d.superinterfaces.map TypeName.toJson)),
    ("scope", .optional Marker.toJson d.scope)]

def Request.toJson (r : Request) : Json :=
  .object [("element", r.element.toJson), ("componentElement", r.component.toJson)]

def Diagnostic.toJson (d : Diagnostic) : Json :=
  .object [("code", .text d.code.name), ("message", .text d.message), ("site", .optional Json.text d.site)]

end ComponentDirective
