import ComponentDirective.Diagnostic
import ComponentDirective.Value

/-!
# Findings

A finding is what validation has to say about a directive, before it is worded. `Finding.toDiagnostic` words it and
attributes it to a declaration. A directive that cannot be read at all fails with an `ExtractError`, and that is a
finding too.
-/

namespace ComponentDirective

/-- Why a directive cannot be read at all. -/
inductive ExtractError
  /-- The element bears no directive of the kind. -/
  | directiveNotFound (element directive : TypeName)
  | model (cause : ModelError)
deriving DecidableEq

def ExtractError.message : ExtractError → String
  | .directiveNotFound element directive => element.text ++ " is not annotated with @" ++ directive.simple
  | .model cause => cause.message

inductive Finding
  /-- A field refers to a class that has yet to be generated. -/
  | generatedClass (member : String)
  /-- A field holds a value that is not a class literal. -/
  | notClassLiteral (member : String) (found : Shape)
  /-- An entry of a list field is a list. -/
  | nestedList (member : String)
  | templateWithConfiguration
  /-- A scope applies beside the first one. -/
  | extraScope (scopeKind extra first : TypeName)
  | unreadable (cause : ExtractError)
deriving DecidableEq

namespace Finding

def code : Finding → Code
  | .generatedClass _ | .notClassLiteral .. | .nestedList _ => .invalidTypeReference
  | .templateWithConfiguration => .templateWithConfiguration
  | .extraScope .. => .multipleScopes
  | .unreadable _ => .unreadableDirective

def message : Finding → String
  | .generatedClass member =>
    member ++ " cannot reference generated class. Use the class that applies the @AutoComponent annotation."
  | .notClassLiteral member found => member ++ " must be a class literal, found " ++ found.describe
  | .nestedList member => member ++ " entries must be class literals, found a nested list"
  | .templateWithConfiguration =>
    "Cannot have fromTemplate with dependencies/superinterfaces/modules at the same time"
  | .extraScope scopeKind extra first =>
    "Class annotated with @AutoComponent cannot have several scopes (@" ++ scopeKind.simple ++ "): @" ++
      extra.simple ++ " conflicts with @" ++ first.simple ++ "."
  | .unreadable cause => cause.message

/-- The diagnostic of a finding, attributed to a declaration. -/
def toDiagnostic (f : Finding) (site : String) : Diagnostic := ⟨f.code, f.message, some site⟩

end Finding

end ComponentDirective
