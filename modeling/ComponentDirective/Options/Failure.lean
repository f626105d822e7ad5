import ComponentDirective.Decimal.Shortest
import ComponentDirective.Json.Number
import ComponentDirective.Json.Token
import ComponentDirective.Options
import ComponentDirective.Text.Quoted

/-!
# Why options cannot be read

The text of options may not be JSON, may have another shape than options have, or may name a directive or a scope
annotation that is not the name of a type. A value of a wrong shape is described by what was found in its place.
-/

namespace ComponentDirective

/-- The options by themselves. -/
inductive Slot
  | directive
  | scope
  | warnUnscoped
  | parallel
deriving DecidableEq

namespace Slot

/-- In the order in which an array gives them. -/
def all : List Slot := [.directive, .scope, .warnUnscoped, .parallel]

/-- The key under which an object gives the option. -/
def key : Slot → String
  | .directive => "directiveKind"
  | .scope => "scopeAnnotation"
  | .warnUnscoped => "warnUnscoped"
  | .parallel => "parallel"

def ofKey? (key : String) : Option Slot := all.find? (·.key == key)

theorem ofKey?_key (s : Slot) : ofKey? s.key = some s := by cases s <;> decide

end Slot

/-- A value that was found in the place of another one. -/
inductive Found
  | null
  | flag (value : Bool)
  | number (value : Json.Number)
  | text (content : String)
  | array
  | object

def Found.describe : Found → String
  | .null => "null"
  | .flag true => "boolean `true`"
  | .flag false => "boolean `false`"
  | .number (.integer n) => "integer `" ++ n.repr ++ "`"
  | .number (.real x) => "floating point `" ++ Decimal.text x ++ "`"
  | .text s => "string " ++ Text.quoted s
  | .array => "sequence"
  | .object => "map"

/-- What a place calls for. -/
inductive Wanted
  | options
  | text
  | flag
deriving DecidableEq

def Wanted.describe : Wanted → String
  | .options => "struct ExtractorOptions"
  | .text => "a string"
  | .flag => "a boolean"

inductive OptionsError
  /-- The text is not JSON. -/
  | notJson (fault : Json.Fault)
  | wrongShape (found : Found) (wanted : Wanted)
  /-- An option is given twice. -/
  | duplicate (slot : Slot)
  /-- A name is not the name of a type. -/
  | name (cause : ModelError)

end ComponentDirective
