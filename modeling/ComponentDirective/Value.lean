import ComponentDirective.TypeName

/-!
# Field values

The value written for a field of an annotation: a class literal, the name of a class that does not exist yet, a list, a
text, a number or a flag. Equality is by structure: kinds never mix, and lists compare entry by entry.
-/

namespace ComponentDirective

inductive Value
  /-- A class literal. -/
  | type (name : TypeName)
  /-- A class literal for a class that has yet to be generated; its text is kept as it stands. -/
  | unresolved (text : String)
  | list (entries : List Value)
  | text (content : String)
  | int (number : Int64)
  | bool (flag : Bool)

/-- The kind of a value, without its content. -/
inductive Shape
  | type | unresolved | list | text | int | bool
deriving DecidableEq

/-- The words for a shape in messages. -/
def Shape.describe : Shape → String
  | .type => "type"
  | .unresolved => "unresolved reference"
  | .list => "list"
  | .text => "string"
  | .int => "integer"
  | .bool => "boolean"

namespace Value

def shape : Value → Shape
  | .type _ => .type
  | .unresolved _ => .unresolved
  | .list _ => .list
  | .text _ => .text
  | .int _ => .int
  | .bool _ => .bool

def asType : Value → Option TypeName
  | .type t => some t
  | _ => none

def asList : Value → Option (List Value)
  | .list vs => some vs
  | _ => none

/-- A list of class literals. -/
def ofTypes (ts : List TypeName) : Value := .list (ts.map .type)

mutual

def decEq : (a b : Value) → Decidable (a = b)
  | .type a, .type b | .unresolved a, .unresolved b | .text a, .text b | .int a, .int b | .bool a, .bool b =>
    if h : a = b then .isTrue (h ▸ rfl) else .isFalse (by simpa using h)
  | .list as, .list bs =>
    match decEqList as bs with
    | .isTrue h => .isTrue (h ▸ rfl)
    | .isFalse h => .isFalse (by simpa using h)
  | .type _, .unresolved _ | .type _, .list _ | .type _, .text _ | .type _, .int _ | .type _, .bool _
  | .unresolved _, .type _ | .unresolved _, .list _ | .unresolved _, .text _ | .unresolved _, .int _
  | .unresolved _, .bool _ | .list _, .type _ | .list _, .unresolved _ | .list _, .text _ | .list _, .int _
  | .list _, .bool _ | .text _, .type _ | .text _, .unresolved _ | .text _, .list _ | .text _, .int _
  | .text _, .bool _ | .int _, .type _ | .int _, .unresolved _ | .int _, .list _ | .int _, .text _ | .int _, .bool _
  | .bool _, .type _ | .bool _, .unresolved _ | .bool _, .list _ | .bool _, .text _ | .bool _, .int _ =>
    .isFalse (by simp)

def decEqList : (as bs : List Value) → Decidable (as = bs)
  | [], [] => .isTrue rfl
  | [], _ :: _ | _ :: _, [] => .isFalse (by simp)
  | a :: as, b :: bs =>
    match decEq a b, decEqList as bs with
    | .isTrue h, .isTrue hs => .isTrue (h ▸ hs ▸ rfl)
    | .isFalse h, _ => .isFalse fun e => h (List.cons.inj e).1
    | _, .isFalse hs => .isFalse fun e => hs (List.cons.inj e).2

end

instance : DecidableEq Value := decEq

end Value

end ComponentDirective
