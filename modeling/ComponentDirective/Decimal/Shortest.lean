/-!
# The shortest decimal of a double

A finite double stands for all the reals that round to it. `shortest` finds, among the decimals in that interval, one on
the coarsest grid of powers of ten, and on that grid the one nearest to the double. All arithmetic is exact.

`text` writes a double with these digits: with a point while the leading digit lies between the fifth place behind
the point and the sixteenth before it, and with an exponent otherwise, which has a sign and no superfluous zeros.
-/

namespace ComponentDirective.Decimal

/-- The double `significand * 2 ^ exponent`. -/
structure Binary where
  significand : Nat
  exponent : Int
  /-- The next double below is nearer than the next one above. -/
  isPower : Bool

/-- The magnitude of a finite double. -/
def Binary.ofFloat (x : Float) : Binary :=
  let bits := x.toBits.toNat % 0x8000000000000000
  let stored := bits / 0x10000000000000
  let fraction := bits % 0x10000000000000
  ⟨if stored = 0 then fraction else fraction + 0x10000000000000, (max stored 1 : Nat) - 1075,
    fraction = 0 && 1 < stored⟩

/-- The digits of the multiple of `10 ^ e` that is nearest to the double among those that round to it. The double and
the two ends of its interval are counted in quarters of its last binary place; an end belongs to the interval when the
significand is even. Of two equally near multiples the even one counts. -/
def onGrid (b : Binary) (e : Int) : Option Nat :=
  let scale := Nat.pow 2 (b.exponent - 2).toNat * Nat.pow 10 (-e).toNat
  let step := Nat.pow 2 (2 - b.exponent).toNat * Nat.pow 10 e.toNat
  let value := 4 * b.significand * scale
  let low := (4 * b.significand - if b.isPower then 1 else 2) * scale
  let high := (4 * b.significand + 2) * scale
  let isInside (d : Nat) : Bool :=
    if b.significand % 2 = 0 then low ≤ d * step && d * step ≤ high else low < d * step && d * step < high
  let d := value / step
  let below := value - d * step
  let above := (d + 1) * step - value
  let lowerIsNearer := below < above || (below = above && d % 2 = 0)
  if isInside d && (lowerIsNearer || !isInside (d + 1)) then some d
  else if isInside (d + 1) then some (d + 1)
  else none

/-- Grids from `10 ^ (n - 346)` downwards; the first with a decimal that rounds to the double is the answer. -/
def search (b : Binary) : Nat → Nat × Int
  | 0 => (0, 0)
  | n + 1 =>
    let e : Int := n - 345
    match onGrid b e with
    | some d => (d, e)
    | none => search b n

/-- Digits and exponent of the shortest decimal of a double other than zero. -/
def shortest (b : Binary) : Nat × Int := search b 656

/-! ## Written form -/

def zeros (n : Nat) : List Char := List.replicate n '0'

/-- The digits of a number with a point behind the first `place` of them; `place` may lie outside the digits. -/
def withPoint (digits : List Char) (place : Int) : List Char :=
  if place ≤ 0 then ['0', '.'] ++ zeros (-place).toNat ++ digits
  else if digits.length ≤ place then digits ++ zeros (place.toNat - digits.length) ++ ['.', '0']
  else digits.take place.toNat ++ '.' :: digits.drop place.toNat

/-- The digits with a point behind the first one, and the exponent of that one. -/
def withExponent (digits : List Char) (exponent : Int) : List Char :=
  let tail := if digits.length ≤ 1 then [] else '.' :: digits.drop 1
  digits.take 1 ++ tail ++ ['e', if exponent < 0 then '-' else '+'] ++ Nat.toDigits 10 exponent.natAbs

/-- The text of a finite double. -/
def text (x : Float) : String :=
  let b := Binary.ofFloat x
  let sign := if x.toBits.toNat < 0x8000000000000000 then [] else ['-']
  let magnitude :=
    if b.significand = 0 then ['0', '.', '0']
    else
      let (d, e) := shortest b
      let digits := Nat.toDigits 10 d
      let place := digits.length + e
      if -5 < place ∧ place ≤ 16 then withPoint digits place else withExponent digits (place - 1)
  String.ofList (sign ++ magnitude)

end ComponentDirective.Decimal
