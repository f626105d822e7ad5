/-!
# Diagnostics

A diagnostic is a failure of validation: a code, a message and the declaration to which it is attributed. Its line reads
`error AC1001: SITE: MESSAGE`, without the middle part when it is attributed to nothing.
-/

namespace ComponentDirective

inductive Code
  /-- A field holds something that is not a type. -/
  | invalidTypeReference
  /-- A template is combined with a configuration of its own. -/
  | templateWithConfiguration
  /-- More than one scope applies to a component. -/
  | multipleScopes
  /-- The directive cannot be read. -/
  | unreadableDirective
deriving DecidableEq

namespace Code

def all : List Code := [.invalidTypeReference, .templateWithConfiguration, .multipleScopes, .unreadableDirective]

def number : Code → Nat
  | .invalidTypeReference => 1001
  | .templateWithConfiguration => 1002
  | .multipleScopes => 1003
  | .unreadableDirective => 1004

/-- The code of a number. -/
def ofNumber? (n : Nat) : Option Code := all.find? (·.number == n)

/-- The code as lines show it. -/
def text (c : Code) : String := "AC" ++ c.number.repr

/-- The code as snapshots show it. -/
def name : Code → String
  | .invalidTypeReference => "InvalidTypeReference"
  | .templateWithConfiguration => "TemplateWithConfiguration"
  | .multipleScopes => "MultipleScopes"
  | .unreadableDirective => "UnreadableDirective"

end Code

structure Diagnostic where
  code : Code
  message : String
  /-- The qualified name of the declaration to which the failure is attributed. -/
  site : Option String
deriving DecidableEq

namespace Diagnostic

/-- The line that reports a diagnostic. -/
def format (d : Diagnostic) : String :=
  match d.site with
  | some site => "error " ++ d.code.text ++ ": " ++ site ++ ": " ++ d.message
  | none => "error " ++ d.code.text ++ ": " ++ d.message

end Diagnostic

end ComponentDirective
