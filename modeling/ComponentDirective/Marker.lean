import ComponentDirective.Value

/-!
# Markers and their fields

A marker is one annotation on a declaration: its type and the fields written at that place. Fields stand in the order in
which they were first written, and each name stands once; writing a name again replaces its value where it stands.

* `Fields.get?_insert`: a look-up after a write gives the written value at that name and the old one elsewhere.
* `Fields.names_insert`: a write appends a new name and leaves the order of the others.
* `Fields.sameAs`, `Marker.sameAs`: sameness does not see the order of the fields.
-/

namespace ComponentDirective

/-! ## Tables of fields -/

/-- Writes a field into a table: in place when the name is there, at the end when it is new. -/
def writeField (name : String) (value : Value) : List (String × Value) → List (String × Value)
  | [] => [(name, value)]
  | (k, v) :: rest => if k = name then (k, value) :: rest else (k, v) :: writeField name value rest

theorem map_fst_writeField (name : String) (value : Value) : ∀ entries : List (String × Value),
    (writeField name value entries).map Prod.fst =
      if name ∈ entries.map Prod.fst then entries.map Prod.fst else entries.map Prod.fst ++ [name]
  | [] => by simp [writeField]
  | (k, v) :: rest => by
    have ih := map_fst_writeField name value rest
    rw [writeField]
    by_cases h : k = name
    · simp [h]
    · simp only [if_neg h, List.map_cons, ih, List.mem_cons, Ne.symm h, false_or]
      split <;> rfl

/-- The fields of a marker, each name once. -/
structure Fields where
  entries : List (String × Value)
  distinct : (entries.map Prod.fst).Nodup

namespace Fields

def empty : Fields := ⟨[], List.nodup_nil⟩

def names (f : Fields) : List String := f.entries.map Prod.fst

def get? (f : Fields) (name : String) : Option Value := f.entries.lookup name

def insert (f : Fields) (name : String) (value : Value) : Fields where
  entries := writeField name value f.entries
  distinct := by
    rw [map_fst_writeField]
    split
    · exact f.distinct
    · next h =>
      rw [List.nodup_append]
      exact ⟨f.distinct, by simp, fun a ha b hb e => h (by simp_all)⟩

/-- The fields that a sequence of writes leaves. -/
def ofWrites (writes : List (String × Value)) : Fields := writes.foldl (fun f w => f.insert w.1 w.2) empty

theorem names_insert (f : Fields) (name : String) (value : Value) :
    (f.insert name value).names = if name ∈ f.names then f.names else f.names ++ [name] :=
  map_fst_writeField name value f.entries

theorem get?_insert (f : Fields) (name : String) (value : Value) (k : String) :
    (f.insert name value).get? k = if k = name then some value else f.get? k := by
  suffices h : ∀ entries : List (String × Value),
      (writeField name value entries).lookup k = if k = name then some value else entries.lookup k from h f.entries
  intro entries
  induction entries with
  | nil =>
    by_cases h : k = name
    · simp [writeField, h]
    · simp [writeField, List.lookup_cons, h, beq_eq_false_iff_ne.2 h]
  | cons e rest ih =>
    obtain ⟨k', v⟩ := e
    rw [writeField]
    by_cases hk : k' = name
    · subst hk
      by_cases h : k = k'
      · simp [h]
      · simp [List.lookup_cons, h, beq_eq_false_iff_ne.2 h]
    · rw [if_neg hk]
      by_cases h : k = k'
      · subst h
        simp [hk]
      · simp [List.lookup_cons, beq_eq_false_iff_ne.2 h, ih]

/-- As many fields, and the same value under each name. -/
def sameAs (a b : Fields) : Bool :=
  a.entries.length == b.entries.length && a.entries.all fun e => b.get? e.1 == some e.2

end Fields

/-! ## Markers -/

/-- One annotation on a declaration, with the fields that were written. -/
structure Marker where
  type : TypeName
  fields : Fields

namespace Marker

/-- A marker without fields. -/
def plain (type : TypeName) : Marker := ⟨type, .empty⟩

/-- The marker on which fields are written one after another. -/
def ofWrites (type : TypeName) (writes : List (String × Value)) : Marker := ⟨type, .ofWrites writes⟩

def value? (m : Marker) (name : String) : Option Value := m.fields.get? name

def isOf (m : Marker) (type : TypeName) : Bool := m.type == type

/-- Equal type and fields, whatever the order of the fields. -/
def sameAs (a b : Marker) : Bool := a.type == b.type && a.fields.sameAs b.fields

end Marker

end ComponentDirective
