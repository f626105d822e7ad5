/-!
# Numerals of JSON

A numeral has a sign, a whole part, digits behind a point, and an exponent. Each `Numeral` has one written form without
superfluous signs or zeros (`chars`). `scan` reads every form that JSON admits: a point or an exponent mark calls for
digits, and a whole part does not start with a zero unless it is one.

* `scanDigits_append`: digits are read up to the first character that is none.
-/

namespace ComponentDirective.Json

/-- Why a text is not JSON. -/
inductive Fault
  /-- The text ends too early. -/
  | truncated
  /-- The text goes on as JSON cannot. -/
  | malformed
deriving DecidableEq

/-! ## Digits -/

def digit? (c : Char) : Option (Fin 10) :=
  if h : '0'.toNat ≤ c.toNat ∧ c.toNat ≤ '9'.toNat then some ⟨c.toNat - '0'.toNat, by
    have h₀ : '0'.toNat = 48 := rfl
    have h₉ : '9'.toNat = 57 := rfl
    omega⟩
  else none

def digitChar (d : Fin 10) : Char := d.val.digitChar

theorem digit?_digitChar : ∀ d : Fin 10, digit? (digitChar d) = some d := by decide

/-- The digits at the start of a text, and what follows them. -/
def scanDigits : List Char → List (Fin 10) × List Char
  | [] => ([], [])
  | c :: cs =>
    match digit? c with
    | none => ([], c :: cs)
    | some d =>
      let (ds, rest) := scanDigits cs
      (d :: ds, rest)

theorem scanDigits_append (ds : List (Fin 10)) {rest : List Char} (h : ∀ c ∈ rest.head?, digit? c = none) :
    scanDigits (ds.map digitChar ++ rest) = (ds, rest) := by
  induction ds with
  | nil =>
    cases rest with
    | nil => rfl
    | cons c cs => simp [scanDigits, h c rfl]
  | cons d ds ih => simp [scanDigits, digit?_digitChar, ih]

theorem scanDigits_length : ∀ cs : List Char, (scanDigits cs).2.length ≤ cs.length
  | [] => Nat.le_refl _
  | c :: cs => by
    rw [scanDigits]
    split
    · exact Nat.le_refl _
    · exact Nat.le_succ_of_le (scanDigits_length cs)

/-- The number that digits write. -/
def ofDigits (ds : List (Fin 10)) : Nat := ds.foldl (fun n d => 10 * n + d.val) 0

/-! ## Numerals -/

structure Numeral where
  negative : Bool
  whole : Nat
  /-- The digits behind the point; none when there is no point. -/
  fraction : List (Fin 10)
  exponent : Option Int
deriving DecidableEq

namespace Numeral

def ofInt (n : Int) : Numeral := ⟨n < 0, n.natAbs, [], none⟩

/-- The written form. -/
def chars (n : Numeral) : List Char :=
  (if n.negative then ['-'] else []) ++ Nat.toDigits 10 n.whole ++
    (if n.fraction.isEmpty then [] else '.' :: n.fraction.map digitChar) ++
    match n.exponent with
    | none => []
    | some e => 'e' :: ((if e < 0 then ['-'] else []) ++ Nat.toDigits 10 e.natAbs)

/-- Digits where at least one is called for. -/
def scanSome (cs : List Char) : Except Fault (List (Fin 10) × List Char) :=
  match scanDigits cs with
  | ([], []) => .error .truncated
  | ([], _ :: _) => .error .malformed
  | (d :: ds, rest) => .ok (d :: ds, rest)

def scanWhole (cs : List Char) : Except Fault (Nat × List Char) :=
  match scanSome cs with
  | .error f => .error f
  | .ok (ds, rest) => if 1 < ds.length ∧ ds.head? = some 0 then .error .malformed else .ok (ofDigits ds, rest)

def scanFraction : List Char → Except Fault (List (Fin 10) × List Char)
  | '.' :: cs => scanSome cs
  | cs => .ok ([], cs)

/-- The sign of an exponent, `true` for a minus, and what follows it. -/
def scanSign : List Char → Bool × List Char
  | '-' :: cs => (true, cs)
  | '+' :: cs => (false, cs)
  | cs => (false, cs)

def scanExponent : List Char → Except Fault (Option Int × List Char)
  | [] => .ok (none, [])
  | c :: cs =>
    if c = 'e' ∨ c = 'E' then
      match scanSome (scanSign cs).2 with
      | .error f => .error f
      | .ok (ds, rest) => .ok (some (if (scanSign cs).1 then -(ofDigits ds : Int) else ofDigits ds), rest)
    else .ok (none, c :: cs)

/-- A numeral without its sign. -/
def scanUnsigned (negative : Bool) (cs : List Char) : Except Fault (Numeral × List Char) :=
  match scanWhole cs with
  | .error f => .error f
  | .ok (whole, cs) =>
    match scanFraction cs with
    | .error f => .error f
    | .ok (fraction, cs) =>
      match scanExponent cs with
      | .error f => .error f
      | .ok (exponent, cs) => .ok (⟨negative, whole, fraction, exponent⟩, cs)

/-- The numeral at the start of a text, and what follows it. -/
def scan : List Char → Except Fault (Numeral × List Char)
  | '-' :: cs => scanUnsigned true cs
  | cs => scanUnsigned false cs

/-! ### What a scan leaves is shorter -/

theorem scanSome_length {cs rest : List Char} {ds : List (Fin 10)} (h : scanSome cs = .ok (ds, rest)) :
    rest.length < cs.length := by
  have hlen : ∀ cs : List Char, (scanDigits cs).1 ≠ [] → (scanDigits cs).2.length < cs.length := by
    intro cs
    cases cs with
    | nil => intro h; exact absurd rfl h
    | cons c cs =>
      rw [scanDigits]
      split
      · intro h; exact absurd rfl h
      · intro _; exact Nat.lt_succ_of_le (scanDigits_length cs)
  have := hlen cs
  unfold scanSome at h
  split at h
  · cases h
  · cases h
  · next heq =>
    cases h
    rw [heq] at this
    exact this (by simp)

theorem scanWhole_length {cs rest : List Char} {n : Nat} (h : scanWhole cs = .ok (n, rest)) :
    rest.length < cs.length := by
  unfold scanWhole at h
  split at h
  · cases h
  · next heq =>
    split at h
    · cases h
    · cases h; exact scanSome_length heq

theorem scanFraction_length {cs rest : List Char} {ds : List (Fin 10)} (h : scanFraction cs = .ok (ds, rest)) :
    rest.length ≤ cs.length := by
  unfold scanFraction at h
  split at h
  · exact Nat.le_of_lt (Nat.lt_succ_of_lt (scanSome_length h))
  · cases h; exact Nat.le_refl _

theorem scanSign_length : ∀ cs : List Char, (scanSign cs).2.length ≤ cs.length := by
  intro cs
  unfold scanSign
  split <;> simp

theorem scanExponent_length {cs rest : List Char} {e : Option Int} (h : scanExponent cs = .ok (e, rest)) :
    rest.length ≤ cs.length := by
  unfold scanExponent at h
  split at h
  · cases h; exact Nat.le_refl _
  · next c cs =>
    split at h
    · split at h
      · cases h
      · next heq =>
        cases h
        have := scanSome_length heq
        have := scanSign_length cs
        simp only [List.length_cons]
        omega
    · cases h; exact Nat.le_refl _

theorem scanUnsigned_length {b : Bool} {cs rest : List Char} {n : Numeral} (h : scanUnsigned b cs = .ok (n, rest)) :
    rest.length < cs.length := by
  unfold scanUnsigned at h
  split at h
  · cases h
  · next h₁ =>
    split at h
    · cases h
    · next h₂ =>
      split at h
      · cases h
      · next h₃ =>
        cases h
        have := scanWhole_length h₁
        have := scanFraction_length h₂
        have := scanExponent_length h₃
        omega

theorem scan_length {cs rest : List Char} {n : Numeral} (h : scan cs = .ok (n, rest)) : rest.length < cs.length := by
  unfold scan at h
  split at h
  · exact Nat.lt_succ_of_lt (scanUnsigned_length h)
  · exact scanUnsigned_length h

end Numeral

end ComponentDirective.Json
