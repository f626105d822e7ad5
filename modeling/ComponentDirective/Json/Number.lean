import ComponentDirective.Json.Numeral

/-!
# Numbers

What a numeral stands for when it is read: an integer of 64 bits, signed or unsigned, or else a double. A double is
computed from as many leading digits as fit into 64 bits and a power of ten, by one division or multiplication for each
power that a double can hold. A numeral beyond the doubles is malformed.
-/

namespace ComponentDirective.Json

inductive Number
  | integer (value : Int)
  | real (value : Float)

namespace Number

/-- The greatest significand. -/
def maxSignificand : Nat := 0xFFFFFFFFFFFFFFFF

/-- Appends digits to a significand while it fits; the answer counts the digits that are left out. -/
def accumulate (significand : Nat) : List (Fin 10) → Nat × Nat
  | [] => (significand, 0)
  | d :: ds =>
    if significand * 10 + d.val ≤ maxSignificand then accumulate (significand * 10 + d.val) ds
    else (significand, ds.length + 1)

def powerOfTen (e : Nat) : Float := Float.ofScientific 1 false e

/-- Divides by a power of ten, in steps that a double can hold. -/
def scaleDown (x : Float) (e : Nat) : Float :=
  if 308 < e then if x == 0 then x else scaleDown (x / powerOfTen 308) (e - 308) else x / powerOfTen e
termination_by e
decreasing_by exact Nat.sub_lt (Nat.lt_trans (Nat.succ_pos _) ‹_›) (Nat.succ_pos _)

/-- The double nearest to a significand, scaled by a power of ten. -/
def scale (significand : Nat) (e : Int) : Except Fault Float :=
  let x := significand.toUInt64.toFloat
  if e < 0 then .ok (scaleDown x e.natAbs)
  else if e ≤ 308 then
    let y := x * powerOfTen e.natAbs
    if y.isInf then .error .malformed else .ok y
  else if x == 0 then .ok x
  else .error .malformed

/-- The exponents that are told apart; one beyond them leads out of the doubles or to zero. -/
def maxExponent : Int := 0x7FFFFFFF

/-- The double of a numeral. -/
def ofDecimal (n : Numeral) : Except Fault Float :=
  let whole := accumulate 0 ((Nat.toDigits 10 n.whole).filterMap digit?)
  let fraction := accumulate whole.1 n.fraction
  let places : Int := whole.2 - (n.fraction.length - fraction.2 : Nat)
  let exponent := n.exponent.getD 0
  let magnitude :=
    if maxExponent < exponent then if fraction.1 = 0 then .ok 0 else .error .malformed
    else if exponent < -maxExponent then .ok 0
    else scale fraction.1 (places + exponent)
  magnitude.map fun x => if n.negative then -x else x

/-- The number of a numeral: a numeral without point and exponent is an integer when 64 bits hold it. There is no
negative zero among the integers. -/
def ofNumeral (n : Numeral) : Except Fault Number :=
  if n.fraction.isEmpty && n.exponent.isNone then
    if !n.negative && n.whole ≤ maxSignificand then .ok (.integer n.whole)
    else if n.negative && 0 < n.whole && n.whole ≤ 0x8000000000000000 then .ok (.integer (-n.whole))
    else (ofDecimal n).map .real
  else (ofDecimal n).map .real

end Number

end ComponentDirective.Json
