import ComponentDirective.TypeName

/-!
# The options of extraction

Options name the directive and the annotation that makes a marker type a scope, and say whether a component without a
scope is worth a warning and whether extractions may overlap. The two names are kept as they are written and read as
type names when they are used.
-/

namespace ComponentDirective

structure Options where
  /-- The written name of the directive. -/
  directiveText : String
  /-- The written name of the annotation that makes a marker type a scope. -/
  scopeText : String
  /-- Note a warning for each component without a scope. -/
  warnUnscoped : Bool
  /-- Extractions may overlap, in no particular order. -/
  parallel : Bool
deriving DecidableEq

namespace Options

/-- What holds for an option that is not given. -/
def default : Options := ⟨"autodagger.AutoComponent", "javax.inject.Scope", false, true⟩

def directive (o : Options) : Except ModelError TypeName := TypeName.parse o.directiveText

def scopeKind (o : Options) : Except ModelError TypeName := TypeName.parse o.scopeText

end Options

end ComponentDirective
