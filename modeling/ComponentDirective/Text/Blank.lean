/-!
# White space of Unicode

`isBlank` is the property White_Space, and `trim` takes the blanks off both ends of a text.

* `trimChars_append_blank`, `trimChars_blank_append`: padding with blanks does not change what `trim` leaves.
-/

namespace ComponentDirective.Text

/-- The property White_Space of Unicode. -/
def isBlank (c : Char) : Bool :=
  let n := c.toNat
  (0x9 ≤ n && n ≤ 0xD) || n == 0x20 || n == 0x85 || n == 0xA0 || n == 0x1680 || (0x2000 ≤ n && n ≤ 0x200A) ||
    n == 0x2028 || n == 0x2029 || n == 0x202F || n == 0x205F || n == 0x3000

/-- The blanks at the end are dropped. -/
def trimEnd (cs : List Char) : List Char := (cs.reverse.dropWhile isBlank).reverse

/-- The blanks at both ends are dropped, those inside stay. -/
def trimChars (cs : List Char) : List Char := trimEnd (cs.dropWhile isBlank)

def trim (s : String) : String := String.ofList (trimChars s.toList)

theorem dropWhile_blank_append {u : List Char} (hu : ∀ c ∈ u, isBlank c = true) (cs : List Char) :
    (u ++ cs).dropWhile isBlank = cs.dropWhile isBlank := by
  induction u with
  | nil => rfl
  | cons c u ih =>
    rw [List.cons_append, List.dropWhile_cons_of_pos (hu c (List.mem_cons_self ..))]
    exact ih fun d hd => hu d (List.mem_cons_of_mem _ hd)

theorem trimEnd_append_blank {w : List Char} (hw : ∀ c ∈ w, isBlank c = true) (cs : List Char) :
    trimEnd (cs ++ w) = trimEnd cs := by
  rw [trimEnd, List.reverse_append, dropWhile_blank_append (by simpa using hw), trimEnd]

theorem trimChars_blank_append {u : List Char} (hu : ∀ c ∈ u, isBlank c = true) (cs : List Char) :
    trimChars (u ++ cs) = trimChars cs := by
  rw [trimChars, dropWhile_blank_append hu, trimChars]

theorem trimChars_append_blank {w : List Char} (hw : ∀ c ∈ w, isBlank c = true) (cs : List Char) :
    trimChars (cs ++ w) = trimChars cs := by
  rw [trimChars, List.dropWhile_append, trimChars]
  split
  · next h =>
    rw [List.isEmpty_iff.1 h, ← List.append_nil w, dropWhile_blank_append hw]
    rfl
  · exact trimEnd_append_blank hw _

end ComponentDirective.Text
