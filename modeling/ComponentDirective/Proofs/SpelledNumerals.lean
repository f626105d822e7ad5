import ComponentDirective.Json.Numeral

/-!
# Spelled numerals read back

The whole part of a numeral has one spelling, a list of digits without superfluous zeros (`exists_digits`), but the mark
of an exponent may be a capital, its sign may be left out, and its digits may start with zeros (`SpellsExponent`). A
numeral is read off each of its spellings, whatever follows that cannot be part of it (`Numeral.scan_spells`); the
written form is one of them (`Numeral.spells_chars`).
-/

namespace ComponentDirective.Json

/-- A text that cannot carry on a numeral in front of it: it starts with no digit, point or exponent mark. -/
def Delimited (rest : List Char) : Prop :=
  ∀ c ∈ rest.head?, digit? c = none ∧ c ≠ '.' ∧ c ≠ 'e' ∧ c ≠ 'E'

theorem delimited_nil : Delimited [] := fun _ hc => by cases hc

theorem delimited_cons {c : Char} (hc : digit? c = none ∧ c ≠ '.' ∧ c ≠ 'e' ∧ c ≠ 'E') (cs : List Char) :
    Delimited (c :: cs) := by
  intro c' hc'
  obtain rfl := Option.some.inj hc'
  exact hc

/-! ## Digits of a number -/

theorem ofDigits_concat (ds : List (Fin 10)) (d : Fin 10) : ofDigits (ds ++ [d]) = 10 * ofDigits ds + d.val := by
  rw [ofDigits, List.foldl_append]
  rfl

/-- A number is written by digits, the first of which is no zero unless the number is. -/
theorem exists_digits (n : Nat) : ∃ d ds, Nat.toDigits 10 n = (d :: ds).map digitChar ∧ ofDigits (d :: ds) = n ∧
    (d = 0 → ds = []) := by
  induction n using Nat.strongRecOn with
  | ind n ih =>
    by_cases hlt : n < 10
    · exact ⟨⟨n, hlt⟩, [], Nat.toDigits_of_lt_base hlt, by simp [ofDigits], fun _ => rfl⟩
    · have hle : 10 ≤ n := Nat.le_of_not_lt hlt
      obtain ⟨d, ds, hchars, hof, hzero⟩ := ih (n / 10) (by omega)
      have hlast : n % 10 < 10 := Nat.mod_lt _ (by decide)
      refine ⟨d, ds ++ [⟨n % 10, hlast⟩], ?_, ?_, fun hd => ?_⟩
      · rw [Nat.toDigits_of_base_le (by decide) hle, hchars, ← List.cons_append, List.map_append]
        rfl
      · rw [← List.cons_append, ofDigits_concat, hof]
        exact Nat.div_add_mod n 10
      · -- a leading zero alone writes zero, but there are digits in front of the last one
        rw [hzero hd, hd] at hof
        simp only [ofDigits, List.foldl_cons, List.foldl_nil, Fin.val_zero, Nat.mul_zero, Nat.zero_add] at hof
        omega

/-! ## Parts of a numeral -/

namespace Numeral

theorem scanSome_digits {d : Fin 10} {ds : List (Fin 10)} {rest : List Char} (h : ∀ c ∈ rest.head?, digit? c = none) :
    scanSome ((d :: ds).map digitChar ++ rest) = .ok (d :: ds, rest) := by
  rw [scanSome, scanDigits_append (d :: ds) h]

theorem scanWhole_toDigits (n : Nat) {rest : List Char} (h : ∀ c ∈ rest.head?, digit? c = none) :
    scanWhole (Nat.toDigits 10 n ++ rest) = .ok (n, rest) := by
  obtain ⟨d, ds, hchars, hof, hzero⟩ := exists_digits n
  rw [scanWhole, hchars, scanSome_digits h]
  have hlead : ¬(1 < (d :: ds).length ∧ (d :: ds).head? = some 0) := by
    rintro ⟨hlen, hd⟩
    rw [hzero (Option.some.inj hd)] at hlen
    exact Nat.lt_irrefl 1 hlen
  simp only [if_neg hlead, hof]

/-- The written form of the digits behind the point. -/
def fractionChars (fraction : List (Fin 10)) : List Char :=
  if fraction.isEmpty then [] else '.' :: fraction.map digitChar

/-- A text spells an exponent: nothing does if there is none, else a mark, perhaps a sign, and digits. -/
inductive SpellsExponent : Option Int → List Char → Prop
  | absent : SpellsExponent none []
  | unsigned {mark : Char} (hmark : mark = 'e' ∨ mark = 'E') (d : Fin 10) (ds : List (Fin 10)) :
      SpellsExponent (some (ofDigits (d :: ds))) (mark :: (d :: ds).map digitChar)
  | plus {mark : Char} (hmark : mark = 'e' ∨ mark = 'E') (d : Fin 10) (ds : List (Fin 10)) :
      SpellsExponent (some (ofDigits (d :: ds))) (mark :: '+' :: (d :: ds).map digitChar)
  | minus {mark : Char} (hmark : mark = 'e' ∨ mark = 'E') (d : Fin 10) (ds : List (Fin 10)) :
      SpellsExponent (some (-ofDigits (d :: ds))) (mark :: '-' :: (d :: ds).map digitChar)

/-- An exponent stands behind a digit or is not there. -/
theorem SpellsExponent.head? {exponent : Option Int} {cs rest : List Char} (hs : SpellsExponent exponent cs)
    (h : Delimited rest) : ∀ c ∈ (cs ++ rest).head?, digit? c = none ∧ c ≠ '.' := by
  have hmarked : ∀ {mark : Char}, mark = 'e' ∨ mark = 'E' → digit? mark = none ∧ mark ≠ '.' := by
    rintro _ (rfl | rfl) <;> decide
  intro c hc
  cases hs with
  | absent => exact ⟨(h c hc).1, (h c hc).2.1⟩
  | unsigned hmark | plus hmark | minus hmark =>
    obtain rfl := Option.some.inj hc
    exact hmarked hmark

theorem head?_fractionChars (fraction : List (Fin 10)) {rest : List Char} (h : ∀ c ∈ rest.head?, digit? c = none) :
    ∀ c ∈ (fractionChars fraction ++ rest).head?, digit? c = none := by
  intro c hc
  cases fraction with
  | nil => exact h c hc
  | cons d ds =>
    obtain rfl := Option.some.inj hc
    decide

theorem scanFraction_chars (fraction : List (Fin 10)) {rest : List Char}
    (h : ∀ c ∈ rest.head?, digit? c = none ∧ c ≠ '.') :
    scanFraction (fractionChars fraction ++ rest) = .ok (fraction, rest) := by
  cases fraction with
  | nil =>
    cases rest with
    | nil => rfl
    | cons c cs =>
      have hc := (h c rfl).2
      simp [fractionChars, scanFraction, hc]
  | cons d ds => exact scanSome_digits fun c hc => (h c hc).1

/-- A digit is no sign. -/
theorem scanSign_digit (d : Fin 10) (cs : List Char) : scanSign (digitChar d :: cs) = (false, digitChar d :: cs) := by
  have hd : ∀ d : Fin 10, digitChar d ≠ '-' ∧ digitChar d ≠ '+' := by decide
  simp [scanSign, hd d]

theorem scanExponent_spells {exponent : Option Int} {cs rest : List Char} (hs : SpellsExponent exponent cs)
    (h : Delimited rest) : scanExponent (cs ++ rest) = .ok (exponent, rest) := by
  have hdigits : ∀ d ds, scanSome ((d :: ds).map digitChar ++ rest) = .ok (d :: ds, rest) := fun d ds =>
    scanSome_digits fun c hc => (h c hc).1
  cases hs with
  | absent =>
    cases rest with
    | nil => rfl
    | cons c cs =>
      obtain ⟨-, -, he, he'⟩ := h c rfl
      simp [scanExponent, he, he']
  | unsigned hmark d ds =>
    have hscan := hdigits d ds
    rw [List.map_cons, List.cons_append] at hscan
    rw [List.map_cons, List.cons_append, List.cons_append, scanExponent, if_pos hmark, scanSign_digit]
    simp only [hscan, Bool.false_eq_true, if_false]
  | plus hmark d ds =>
    rw [List.cons_append, List.cons_append, scanExponent, if_pos hmark]
    simp only [scanSign, hdigits d ds, Bool.false_eq_true, if_false]
  | minus hmark d ds =>
    rw [List.cons_append, List.cons_append, scanExponent, if_pos hmark]
    simp only [scanSign, hdigits d ds, if_true]

/-! ## Whole numerals -/

/-- A text spells a numeral; the spellings differ in the exponent only. -/
def Spells (n : Numeral) (cs : List Char) : Prop :=
  ∃ es, SpellsExponent n.exponent es ∧
    cs = (if n.negative then ['-'] else []) ++ (Nat.toDigits 10 n.whole ++ (fractionChars n.fraction ++ es))

/-- The written form of an exponent. -/
def exponentChars : Option Int → List Char
  | none => []
  | some e => 'e' :: ((if e < 0 then ['-'] else []) ++ Nat.toDigits 10 e.natAbs)

theorem spellsExponent_chars (exponent : Option Int) : SpellsExponent exponent (exponentChars exponent) := by
  cases exponent with
  | none => exact .absent
  | some e =>
    obtain ⟨d, ds, hchars, hof, -⟩ := exists_digits e.natAbs
    rw [exponentChars, hchars]
    split
    · have he : e = -(ofDigits (d :: ds) : Int) := by omega
      rw [he]
      exact .minus (.inl rfl) d ds
    · have he : e = (ofDigits (d :: ds) : Int) := by omega
      rw [he]
      exact .unsigned (.inl rfl) d ds

/-- The written form is a spelling. -/
theorem spells_chars (n : Numeral) : n.Spells n.chars := by
  refine ⟨exponentChars n.exponent, spellsExponent_chars n.exponent, ?_⟩
  rw [chars, List.append_assoc, List.append_assoc]
  rfl

theorem scanUnsigned_spells {n : Numeral} {es rest : List Char} (hs : SpellsExponent n.exponent es)
    (h : Delimited rest) : scanUnsigned n.negative (Nat.toDigits 10 n.whole ++ (fractionChars n.fraction ++ es) ++
      rest) = .ok (n, rest) := by
  have hexp := hs.head? h
  have hfrac := head?_fractionChars n.fraction fun c hc => (hexp c hc).1
  rw [List.append_assoc, List.append_assoc, scanUnsigned, scanWhole_toDigits _ hfrac]
  simp only [scanFraction_chars _ hexp, scanExponent_spells hs h]

/-- **A numeral is read off each of its spellings**, and what follows is left. -/
theorem scan_spells {n : Numeral} {cs rest : List Char} (hs : n.Spells cs) (h : Delimited rest) :
    scan (cs ++ rest) = .ok (n, rest) := by
  obtain ⟨es, hes, rfl⟩ := hs
  have hrest := scanUnsigned_spells hes h
  cases hneg : n.negative with
  | true =>
    rw [hneg] at hrest
    exact hrest
  | false =>
    obtain ⟨d, ds, hchars, -⟩ := exists_digits n.whole
    have hd : ∀ d : Fin 10, digitChar d ≠ '-' := by decide
    rw [hneg, hchars] at hrest
    rw [hchars]
    simp only [Bool.false_eq_true, if_false, List.nil_append, List.map_cons, List.cons_append] at hrest ⊢
    rw [scan]
    · exact hrest
    · intro cs hcs
      exact hd d (List.cons.inj hcs).1

/-- A numeral starts with a minus or a digit. -/
theorem Spells.exists_eq_cons {n : Numeral} {cs : List Char} (hs : n.Spells cs) :
    ∃ c ds, cs = c :: ds ∧ (c = '-' ∨ ∃ d, c = digitChar d) := by
  obtain ⟨es, -, rfl⟩ := hs
  cases n.negative with
  | true => exact ⟨'-', _, rfl, .inl rfl⟩
  | false =>
    obtain ⟨d, ds, hchars, -⟩ := exists_digits n.whole
    rw [hchars]
    exact ⟨digitChar d, _, rfl, .inr ⟨d, rfl⟩⟩

end Numeral

end ComponentDirective.Json
