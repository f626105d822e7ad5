import ComponentDirective.Options
import ComponentDirective.Scope
import ComponentDirective.Settings

/-!
# Components

A request pairs the element that carries a directive with the component for which it speaks. An extractor answers a
request with the descriptor of the component. A directive that cannot be read at all fails the request, and the failure
is the last diagnostic that it reports; everything else that is wrong with a directive is a diagnostic beside the
descriptor.

* `Extractor.value_extract`: recording the failure does not change the answer.
-/

namespace ComponentDirective

/-! ## Requests and descriptors -/

/-- One component to extract. -/
structure Request where
  /-- The declaration that carries the directive. -/
  element : DeclId
  /-- The declaration for which the directive speaks. -/
  component : DeclId
deriving DecidableEq

namespace Request

/-- The directive is on the component itself. -/
def direct (component : DeclId) : Request := ⟨component, component⟩

/-- The directive is on the type of a marker that the component bears. -/
def indirect (carrier component : DeclId) : Request := ⟨carrier, component⟩

def isIndirect (r : Request) : Bool := r.element != r.component

end Request

/-- All that is needed to generate one component. -/
structure Descriptor where
  component : DeclId
  /-- The type for which the component is generated. -/
  target : TypeName
  /-- The component whose configuration is copied. -/
  template : Option TypeName
  dependencies : List TypeName
  modules : List TypeName
  superinterfaces : List TypeName
  /-- The scope to put on the generated component. -/
  scope : Option Marker

namespace Descriptor

def isScoped (d : Descriptor) : Bool := d.scope.isSome

/-- Whether a dependency, a module or a superinterface is listed. -/
def isManual (d : Descriptor) : Bool :=
  !d.dependencies.isEmpty || !d.modules.isEmpty || !d.superinterfaces.isEmpty

/-- The descriptor of a component from the settings of its directive; an open target is the component's own type. -/
def ofSettings (component : Declaration) (id : DeclId) (s : Settings) (scope : Option Marker) : Descriptor :=
  ⟨id, s.target.getD component.name, s.template, s.dependencies, s.modules, s.superinterfaces, scope⟩

/-- Equal data; the order of the scope's fields does not count. -/
def sameAs (a b : Descriptor) : Bool :=
  a.component == b.component && a.target == b.target && a.template == b.template &&
    a.dependencies == b.dependencies && a.modules == b.modules && a.superinterfaces == b.superinterfaces &&
    match a.scope, b.scope with
    | none, none => true
    | some m, some n => m.sameAs n
    | _, _ => false

/-- Notes how the extraction of a component ended. -/
def announce (d : Descriptor) (component : TypeName) (warnUnscoped : Bool) : Recorded Unit := do
  if warnUnscoped && !d.isScoped then Recorded.note (.unscoped component)
  Recorded.note (.extracted component d.target d.dependencies.length d.modules.length d.superinterfaces.length
    d.isScoped)

end Descriptor

/-! ## Extraction -/

/-- What extraction works with: a host, and the options with their names read. -/
structure Extractor where
  host : Host
  directive : TypeName
  scopeKind : TypeName
  warnUnscoped : Bool

namespace Extractor

/-- The directive's name is read before that of the scope annotation. -/
def ofOptions (h : Host) (o : Options) : Except ModelError Extractor :=
  match o.directive with
  | .error e => .error e
  | .ok directive =>
    match o.scopeKind with
    | .error e => .error e
    | .ok scopeKind => .ok ⟨h, directive, scopeKind, o.warnUnscoped⟩

/-- The outcome of one extraction. -/
abbrev Outcome := Except ExtractError Descriptor

/-- Reads a directive: its fields first, then whether they fit together, then the scope. -/
def readDirective (x : Extractor) (r : Request) (component : Declaration) (directive : Marker) (site : String) :
    Recorded Outcome := do
  let settings ← Settings.read directive site
  settings.check site
  match ← x.host.scope x.scopeKind r.element r.component with
  | .error e => return .error (.model e)
  | .ok scope =>
    let descriptor := Descriptor.ofSettings component r.component settings scope
    descriptor.announce component.name x.warnUnscoped
    return .ok descriptor

/-- Looks up the component, then the element, then the directive on it, and reads the directive. -/
def attempt (x : Extractor) (r : Request) (site : String) : Recorded Outcome :=
  match x.host.declaration r.component with
  | .error e => return .error (.model e)
  | .ok component =>
    match x.host.declaration r.element with
    | .error e => return .error (.model e)
    | .ok element =>
      match element.find? x.directive with
      | none => return .error (.directiveNotFound element.name x.directive)
      | some directive => x.readDirective r component directive site

/-- The descriptor of a request; its failures of validation are attributed to `site`. -/
def extract (x : Extractor) (r : Request) (site : String) : Recorded Outcome := do
  match ← x.attempt r site with
  | .ok descriptor => return .ok descriptor
  | .error e =>
    Recorded.report site (.unreadable e)
    return .error e

theorem value_extract (x : Extractor) (r : Request) (site : String) :
    (x.extract r site).value = (x.attempt r site).value := by
  simp only [extract, Recorded.value_bind]
  split <;> next h => simp [h]

end Extractor

end ComponentDirective
