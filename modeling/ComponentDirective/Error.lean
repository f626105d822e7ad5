/-!
# Declaration numbers and the causes of a failed query

A declaration is named by its number, written `#7`. A query fails because its declaration is unknown, or because a text
is not the name of a type; `ModelError.message` words the cause.
-/

namespace ComponentDirective

/-- The number by which a host knows a declaration. -/
structure DeclId where
  number : UInt32
deriving DecidableEq

namespace DeclId

/-- The declaration at a place of a list, counted from 0. -/
def ofIndex (i : Nat) : DeclId := ⟨UInt32.ofNat i⟩

def index (id : DeclId) : Nat := id.number.toNat

/-- The written form: `#` and the decimal digits. -/
def text (id : DeclId) : String := "#" ++ id.index.repr

theorem index_ofIndex {i : Nat} (h : i < UInt32.size) : (ofIndex i).index = i := by
  simp only [ofIndex, index, UInt32.toNat_ofNat']
  exact Nat.mod_eq_of_lt h

theorem index_ofIndex_le (i : Nat) : (ofIndex i).index ≤ i := by
  simp only [ofIndex, index, UInt32.toNat_ofNat']
  exact Nat.mod_le ..

theorem ofIndex_index (id : DeclId) : ofIndex id.index = id := by
  simp [ofIndex, index]

theorem index_inj {a b : DeclId} : a.index = b.index ↔ a = b :=
  ⟨fun h => by rw [← ofIndex_index a, h, ofIndex_index], fun h => h ▸ rfl⟩

end DeclId

/-- Why a query cannot be answered. -/
inductive ModelError
  /-- The host has no declaration of this number. -/
  | unknownDeclaration (id : DeclId)
  /-- The text, its blanks trimmed, does not name a type. -/
  | malformedTypeName (text : String)
deriving DecidableEq

def ModelError.message : ModelError → String
  | .unknownDeclaration id => "unknown declaration " ++ id.text
  | .malformedTypeName text => "malformed type name `" ++ text ++ "`"

end ComponentDirective
