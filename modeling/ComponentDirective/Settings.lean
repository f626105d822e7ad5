import ComponentDirective.Journal
import ComponentDirective.Marker

/-!
# The settings of a directive

A directive names the target of a component, a template to copy it from, and three lists of types. A field that is not
written, or written with its default, leaves the setting open. A value that does not stand for a type is reported and
left out; an entry that is itself a list ends the reading of its field.

* `Value.readTypes_entries`: a value that is not a list reads as the list of that one value.
* `Value.readTypes_ofTypes`: a list of types reads back as it is, and nothing is reported.
-/

namespace ComponentDirective

/-! ## Values as types -/

namespace Value

/-- What is wrong with a value in the place of a class literal. -/
def complaint? (member : String) : Value → Option Finding
  | .type _ => none
  | .unresolved _ => some (.generatedClass member)
  | v => some (.notClassLiteral member v.shape)

/-- The type for which a value stands; a value that stands for none is reported. -/
def readClass (site member : String) (v : Value) : Recorded (Option TypeName) :=
  match v.complaint? member with
  | some finding => do
    Recorded.report site finding
    return none
  | none => return v.asType

/-- The types of the entries of a list, up to an entry that is itself a list. -/
def readEntries (site member : String) : List Value → Recorded (List TypeName)
  | [] => return []
  | .list _ :: _ => do
    Recorded.report site (.nestedList member)
    return []
  | v :: rest => do
    let head ← v.readClass site member
    let tail ← readEntries site member rest
    return head.toList ++ tail

/-- The values of a list field: the entries of a list, and a value that is not a list by itself. -/
def entries : Value → List Value
  | .list vs => vs
  | v => [v]

def readTypes (site member : String) (v : Value) : Recorded (List TypeName) := readEntries site member v.entries

theorem readTypes_entries (site member : String) {v : Value} (h : v.asList = none) :
    v.readTypes site member = (Value.list [v]).readTypes site member := by
  cases v with
  | list vs => cases h
  | _ => rfl

theorem readTypes_ofTypes (site member : String) (ts : List TypeName) :
    (ofTypes ts).readTypes site member = ⟨ts, []⟩ := by
  simp only [readTypes, ofTypes, entries]
  induction ts with
  | nil => rfl
  | cons t ts ih =>
    rw [List.map_cons, readEntries, ih]
    · rfl
    · intro vs h
      cases h

end Value

/-! ## Fields of a marker -/

namespace Marker

/-- A field of one type; `void` and a field that is not written stand for none. -/
def readType (m : Marker) (member site : String) : Recorded (Option TypeName) :=
  match m.value? member with
  | none => return none
  | some v => do
    let type ← v.readClass site member
    return type.filter (!·.isVoid)

/-- A field of several types, in the order in which they are written. -/
def readTypes (m : Marker) (member site : String) : Recorded (List TypeName) :=
  match m.value? member with
  | none => return []
  | some v => v.readTypes site member

end Marker

/-! ## Directives -/

/-- The data of a directive that survived its reading. -/
structure Settings where
  target : Option TypeName
  template : Option TypeName
  dependencies : List TypeName
  modules : List TypeName
  superinterfaces : List TypeName
deriving DecidableEq

namespace Settings

/-- Reads the five fields one after another. -/
def read (m : Marker) (site : String) : Recorded Settings := do
  let target ← m.readType "target" site
  let template ← m.readType "fromTemplate" site
  let dependencies ← m.readTypes "dependencies" site
  let modules ← m.readTypes "modules" site
  let superinterfaces ← m.readTypes "superinterfaces" site
  return ⟨target, template, dependencies, modules, superinterfaces⟩

/-- Whether a dependency, a module or a superinterface is listed. -/
def isManual (s : Settings) : Bool :=
  !s.dependencies.isEmpty || !s.modules.isEmpty || !s.superinterfaces.isEmpty

/-- A template excludes a configuration of its own; both are kept all the same. -/
def check (s : Settings) (site : String) : Recorded Unit :=
  if s.template.isSome && s.isManual then Recorded.report site .templateWithConfiguration else return ()

end Settings

end ComponentDirective
