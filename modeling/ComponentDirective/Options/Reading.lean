import ComponentDirective.Json.Skip
import ComponentDirective.Options.Failure

/-!
# Reading options

Options are written as a JSON object, whose unknown keys are passed over, or as an array of the first few of them in
their fixed order. A reader takes the text token by token, and what is wrong first is the error. Only when the text is
read to its end are the two names checked, the directive's before that of the scope annotation.

* `Reader.run_append`: a text is read piece by piece.
-/

namespace ComponentDirective

/-! ## Drafts -/

/-- The options given so far. -/
structure Draft where
  directive : Option String
  scope : Option String
  warnUnscoped : Option Bool
  parallel : Option Bool
deriving DecidableEq

namespace Draft

def empty : Draft := ⟨none, none, none, none⟩

def has (d : Draft) : Slot → Bool
  | .directive => d.directive.isSome
  | .scope => d.scope.isSome
  | .warnUnscoped => d.warnUnscoped.isSome
  | .parallel => d.parallel.isSome

/-- The options that are not given are the default ones. -/
def options (d : Draft) : Options where
  directiveText := d.directive.getD Options.default.directiveText
  scopeText := d.scope.getD Options.default.scopeText
  warnUnscoped := d.warnUnscoped.getD Options.default.warnUnscoped
  parallel := d.parallel.getD Options.default.parallel

end Draft

/-! ## Tokens as values -/

namespace Json.Token

/-- The error of a token in a place that calls for another value. -/
def refuse (wanted : Wanted) : Token → OptionsError
  | .null => .wrongShape .null wanted
  | .flag b => .wrongShape (.flag b) wanted
  | .number n =>
    match Number.ofNumeral n with
    | .ok value => .wrongShape (.number value) wanted
    | .error f => .notJson f
  | .text (.ok s) => .wrongShape (.text s) wanted
  | .text (.error f) => .notJson f
  | .openArray => .wrongShape .array wanted
  | .openObject => .wrongShape .object wanted
  | .broken f _ | .brokenText f _ => .notJson f
  | .closeArray | .closeObject | .comma | .colon => .notJson .malformed

def asText : Token → Except OptionsError String
  | .text (.ok s) => .ok s
  | t => .error (t.refuse .text)

def asFlag : Token → Except OptionsError Bool
  | .flag b => .ok b
  | t => .error (t.refuse .flag)

end Json.Token

open Json (Token Skip)

/-- Puts the value of an option into a draft. -/
def Draft.fill (d : Draft) (t : Token) : Slot → Except OptionsError Draft
  | .directive => t.asText.map fun s => { d with directive := some s }
  | .scope => t.asText.map fun s => { d with scope := some s }
  | .warnUnscoped => t.asFlag.map fun b => { d with warnUnscoped := some b }
  | .parallel => t.asFlag.map fun b => { d with parallel := some b }

/-! ## The reader -/

/-- What must come next while options are read. -/
inductive Place
  /-- The document. -/
  | document
  /-- The first key of the object, or its end. -/
  | firstKey
  | key
  /-- The colon behind the key of an option, or behind an unknown key. -/
  | colon (slot : Option Slot)
  | member (slot : Slot)
  /-- The rest of the value of an unknown key. -/
  | unknown (rest : Skip)
  /-- A comma or the end of the object. -/
  | afterMember
  /-- The first element of the array, or its end. -/
  | firstElement
  /-- The element for the first of these options. -/
  | element (slot : Slot) (others : List Slot)
  /-- A comma before the elements for these options, or the end of the array. -/
  | afterElement (others : List Slot)
  /-- Nothing. -/
  | nothing
deriving DecidableEq

/-- A place in the text and what has been read before it. -/
structure Reader where
  place : Place
  draft : Draft
deriving DecidableEq

namespace Reader

def start : Reader := ⟨.document, .empty⟩

def malformed {α : Type} : Except OptionsError α := .error (.notJson .malformed)

/-- A token where a key is expected. -/
def stepKey (d : Draft) : Token → Except OptionsError Reader
  | .text (.ok s) =>
    match Slot.ofKey? s with
    | none => .ok ⟨.colon none, d⟩
    | some slot => if d.has slot then .error (.duplicate slot) else .ok ⟨.colon (some slot), d⟩
  | .text (.error f) | .brokenText f _ => .error (.notJson f)
  | _ => malformed

/-- A token where the array has the element for an option. -/
def stepElement (d : Draft) (t : Token) (slot : Slot) (others : List Slot) : Except OptionsError Reader :=
  (d.fill t slot).map fun d => ⟨.afterElement others, d⟩

/-- A token of a value that is passed over. -/
def stepUnknown (d : Draft) (rest : Skip) (t : Token) : Except OptionsError Reader :=
  match rest.step t with
  | .error f => .error (.notJson f)
  | .ok none => .ok ⟨.afterMember, d⟩
  | .ok (some rest) => .ok ⟨.unknown rest, d⟩

/-- Takes one token. -/
def step (r : Reader) (t : Token) : Except OptionsError Reader :=
  match r.place, t with
  | .document, .openObject => .ok ⟨.firstKey, r.draft⟩
  | .document, .openArray => .ok ⟨.firstElement, r.draft⟩
  | .document, t => .error (t.refuse .options)
  | .firstKey, .closeObject => .ok ⟨.nothing, r.draft⟩
  | .firstKey, t => stepKey r.draft t
  | .key, t => stepKey r.draft t
  | .colon (some slot), .colon => .ok ⟨.member slot, r.draft⟩
  | .colon none, .colon => .ok ⟨.unknown (.value []), r.draft⟩
  | .colon _, _ => malformed
  | .member slot, t => (r.draft.fill t slot).map fun d => ⟨.afterMember, d⟩
  | .unknown rest, t => stepUnknown r.draft rest t
  | .afterMember, .comma => .ok ⟨.key, r.draft⟩
  | .afterMember, .closeObject => .ok ⟨.nothing, r.draft⟩
  | .afterMember, _ => malformed
  | .firstElement, .closeArray => .ok ⟨.nothing, r.draft⟩
  | .firstElement, t => stepElement r.draft t .directive [.scope, .warnUnscoped, .parallel]
  | .element slot others, t => stepElement r.draft t slot others
  | .afterElement (slot :: others), .comma => .ok ⟨.element slot others, r.draft⟩
  | .afterElement _, .closeArray => .ok ⟨.nothing, r.draft⟩
  | .afterElement _, _ => malformed
  | .nothing, _ => malformed

/-- Takes tokens one after another, up to the first error. -/
def run (r : Reader) : List Token → Except OptionsError Reader
  | [] => .ok r
  | t :: ts =>
    match r.step t with
    | .error e => .error e
    | .ok r => r.run ts

/-- The draft at the end of a text, when nothing is missing. -/
def finish (r : Reader) : Except OptionsError Draft :=
  if r.place = .nothing then .ok r.draft else .error (.notJson .truncated)

theorem run_append (r : Reader) (ts us : List Token) :
    r.run (ts ++ us) = match r.run ts with
      | .error e => .error e
      | .ok r => r.run us := by
  induction ts generalizing r with
  | nil => rfl
  | cons t ts ih =>
    rw [List.cons_append, run, run]
    cases r.step t with
    | error e => rfl
    | ok r' => exact ih r'

end Reader

/-! ## Options -/

namespace Options

/-- Both names are names of types. -/
def checkNames (o : Options) : Except OptionsError Options :=
  match o.directive with
  | .error e => .error (.name e)
  | .ok _ =>
    match o.scopeKind with
    | .error e => .error (.name e)
    | .ok _ => .ok o

/-- The options that a JSON text gives. -/
def parse (s : String) : Except OptionsError Options :=
  match Reader.start.run (Json.tokens s.toList) with
  | .error e => .error e
  | .ok r =>
    match r.finish with
    | .error e => .error e
    | .ok draft => draft.options.checkNames

end Options

end ComponentDirective
