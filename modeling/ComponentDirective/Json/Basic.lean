import ComponentDirective.Json.Text

/-!
# JSON values and their compact text

A JSON value keeps its members in the order in which they are given. `Json.chars` writes it without blanks.
-/

namespace ComponentDirective

inductive Json
  | null
  | bool (flag : Bool)
  | number (numeral : Json.Numeral)
  | text (content : String)
  | array (items : List Json)
  | object (members : List (String × Json))

namespace Json

def int (n : Int) : Json := .number (.ofInt n)

def nat (n : Nat) : Json := int n

/-- A value that may be absent. -/
def optional {α : Type} (f : α → Json) : Option α → Json
  | none => .null
  | some a => f a

def texts (ss : List String) : Json := .array (ss.map .text)

mutual

/-- The compact text of a value. -/
def chars : Json → List Char
  | .null => ['n', 'u', 'l', 'l']
  | .bool true => ['t', 'r', 'u', 'e']
  | .bool false => ['f', 'a', 'l', 's', 'e']
  | .number n => n.chars
  | .text s => quote s.toList
  | .array items => '[' :: (itemsChars items ++ [']'])
  | .object members => '\x7b' :: (membersChars members ++ ['\x7d'])

/-- The items of an array, with commas between them. -/
def itemsChars : List Json → List Char
  | [] => []
  | [v] => chars v
  | v :: w :: rest => chars v ++ ',' :: itemsChars (w :: rest)

/-- The members of an object, with commas between them. -/
def membersChars : List (String × Json) → List Char
  | [] => []
  | [(k, v)] => quote k.toList ++ ':' :: chars v
  | (k, v) :: w :: rest => quote k.toList ++ ':' :: (chars v ++ ',' :: membersChars (w :: rest))

end

def render (v : Json) : String := String.ofList v.chars

end Json

end ComponentDirective
