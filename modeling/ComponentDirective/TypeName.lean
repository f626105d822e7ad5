import ComponentDirective.Error
import ComponentDirective.Text.Blank

/-!
# Qualified type names

A type name is a sequence of identifiers with a dot between neighbours, such as `com.example.Outer$Inner`. An identifier
is an ASCII letter, `_` or `$`, followed by such characters and digits. `TypeName.parse` trims a text and accepts it
when it has that form; a `TypeName` carries the proof that its text has it.

* `segments_intercalate`, `intercalate_segments`: cutting at the dots and joining with dots undo each other.
-/

namespace ComponentDirective

/-! ## Identifiers and their sequences -/

/-- An ASCII letter, an underscore or a dollar sign. -/
def isIdentStart (c : Char) : Bool := c.isAlpha || c == '_' || c == '$'

def isIdentPart (c : Char) : Bool := isIdentStart c || c.isDigit

def isIdentifier : List Char → Bool
  | [] => false
  | c :: cs => isIdentStart c && cs.all isIdentPart

/-- The pieces of a text between its dots; a text without a dot is one piece. -/
def segments : List Char → List (List Char)
  | [] => [[]]
  | c :: cs =>
    if c = '.' then [] :: segments cs
    else match segments cs with
      | [] => [[c]]
      | piece :: pieces => (c :: piece) :: pieces

theorem segments_ne_nil : ∀ cs : List Char, segments cs ≠ []
  | [] => by simp [segments]
  | c :: cs => by
    rw [segments]
    split
    · simp
    · split <;> simp

/-- Joining the pieces with dots gives the text back. -/
theorem intercalate_segments : ∀ cs : List Char, ['.'].intercalate (segments cs) = cs
  | [] => by simp [segments, List.intercalate]
  | c :: cs => by
    have ih := intercalate_segments cs
    have hne := segments_ne_nil cs
    rw [segments]
    cases hs : segments cs with
    | nil => exact absurd hs hne
    | cons p ps =>
      rw [hs] at ih
      split
      · next hc =>
        subst hc
        rw [List.intercalate_cons_of_ne_nil (by simp), ih]
        rfl
      · cases ps with
        | nil =>
          simp only [List.intercalate, List.intersperse_singleton, List.flatten_cons, List.flatten_nil,
            List.append_nil] at ih ⊢
          rw [ih]
        | cons q qs =>
          rw [List.intercalate_cons_of_ne_nil (by simp)] at ih ⊢
          rw [List.cons_append, List.cons_append, ih]

/-- Pieces without a dot in them are found again after they are joined with dots. -/
theorem segments_intercalate : ∀ {ps : List (List Char)}, ps ≠ [] → (∀ p ∈ ps, '.' ∉ p) →
    segments (['.'].intercalate ps) = ps
  | [], h, _ => absurd rfl h
  | [p], _, hp => by
    rw [show ['.'].intercalate [p] = p by simp [List.intercalate]]
    exact segments_of_not_mem (hp p (List.mem_cons_self ..))
  | p :: q :: qs, _, hp => by
    rw [List.intercalate_cons_of_ne_nil (by simp)]
    rw [segments_append_dot (hp p (List.mem_cons_self ..)),
      segments_intercalate (by simp) fun r hr => hp r (List.mem_cons_of_mem _ hr)]
where
  segments_of_not_mem : ∀ {p : List Char}, '.' ∉ p → segments p = [p]
    | [], _ => rfl
    | c :: p, h => by
      have ⟨hc, hp⟩ := not_or.1 (mt List.mem_cons.2 h)
      simp [segments, Ne.symm hc, segments_of_not_mem hp]
  segments_append_dot : ∀ {p r : List Char}, '.' ∉ p → segments (p ++ ['.'] ++ r) = p :: segments r
    | [], _, _ => by simp [segments]
    | c :: p, r, h => by
      have ⟨hc, hp⟩ := not_or.1 (mt List.mem_cons.2 h)
      have ih := segments_append_dot (r := r) hp
      simp only [List.cons_append, segments, Ne.symm hc, if_false] at ih ⊢
      rw [ih]

/-- Identifiers with single dots between them. -/
def isQualified (cs : List Char) : Bool := (segments cs).all isIdentifier

/-! ## Names -/

/-- The qualified name of a type. -/
structure TypeName where
  text : String
  qualified : isQualified text.toList = true
deriving DecidableEq

namespace TypeName

/-- Reads a name off a text, blanks around it aside. -/
def parse (s : String) : Except ModelError TypeName :=
  if h : isQualified (Text.trim s).toList = true then .ok ⟨Text.trim s, h⟩
  else .error (.malformedTypeName (Text.trim s))

/-- The name that stands for the absence of a type. -/
def void : TypeName := ⟨"void", by decide⟩

def isVoid (t : TypeName) : Bool := t.text == "void"

/-- The last identifier of the name. -/
def simple (t : TypeName) : String :=
  String.ofList ((segments t.text.toList).getLast (segments_ne_nil _))

/-- Names are ordered as their texts, character by character. -/
instance : Ord TypeName := ⟨fun a b => compare a.text b.text⟩

def sort (ts : List TypeName) : List TypeName := ts.mergeSort fun a b => !(b.text < a.text)

end TypeName

end ComponentDirective
