/-!
# Doubles as exact numbers

A double is not a number, an infinity, or a whole number of units `2 ^ exponent` with a sign.
`Double.ofFloat` reads a `Float` that way, and `nearest` goes back: it rounds a quotient of two
whole numbers to the nearest double, a tie to the even significand, in exact arithmetic.

`rankKey` places the doubles on the whole numbers: the doubles that are numbers compare as their
keys do, the two zeros share one key, and what is not a number has none.
-/

namespace Launcher.Decimal

/-- The power of two with a natural exponent. -/
abbrev twoPow (n : Nat) : Nat := Nat.pow 2 n

/-- The power of ten with a natural exponent. -/
abbrev tenPow (n : Nat) : Nat := Nat.pow 10 n

/-- A double taken apart: a finite one is `significand * 2 ^ exponent`, negated if `negative`. -/
inductive Double where
  | notANumber
  | infinite (negative : Bool)
  | finite (negative : Bool) (significand : Nat) (exponent : Int)
deriving DecidableEq, Repr

/-- The double that a `Float` holds. -/
def Double.ofFloat (x : Float) : Double :=
  let bits := x.toBits.toNat
  let negative := twoPow 63 ≤ bits
  let field : Nat := bits / twoPow 52 % twoPow 11
  let fraction : Nat := bits % twoPow 52
  if field = 2047 then
    if fraction = 0 then .infinite negative else .notANumber
  else if field = 0 then .finite negative fraction (-1074)
  else .finite negative (twoPow 52 + fraction) (field - 1075)

/-- A quotient rounded to a whole number, a half to the even neighbour. -/
def roundDiv (num den : Nat) : Nat :=
  let whole := num / den
  let rest := num % den
  if 2 * rest < den then whole
  else if den < 2 * rest then whole + 1
  else if whole % 2 = 0 then whole else whole + 1

/-- The quotient `num / (den * 2 ^ exponent)` as numerator and denominator. -/
def scaleDown (num den : Nat) (exponent : Int) : Nat × Nat :=
  if 0 ≤ exponent then (num, den * twoPow exponent.toNat)
  else (num * twoPow (-exponent).toNat, den)

/-- The unit in which a positive quotient has 53 significant bits, or the smallest unit. -/
def unitExponent (num den : Nat) : Int :=
  let low := max ((num.log2 : Int) - den.log2 - 53) (-1074)
  let (n, d) := scaleDown num den low
  if n / d < twoPow 53 then low else low + 1

/-- The double nearest to `num / den`, negated if `negative`; infinite beyond the largest one. -/
def nearest (negative : Bool) (num den : Nat) : Float :=
  let sign := if negative then twoPow 63 else 0
  if num = 0 then Float.ofBits (UInt64.ofNat sign)
  else
    let unit := unitExponent num den
    let (n, d) := scaleDown num den unit
    let bits := (unit + 1074).toNat * twoPow 52 + roundDiv n d
    Float.ofBits (UInt64.ofNat (sign + min bits (2047 * twoPow 52)))

/-- The double nearest to `digits * 10 ^ exponent`. The first two tests settle the exponents whose
powers of ten would be needlessly long: every number there is infinite or zero as a double. -/
def nearestDecimal (negative : Bool) (digits : Nat) (exponent : Int) : Float :=
  if digits = 0 then nearest negative 0 1
  else if 400 < exponent then nearest negative (twoPow 1024) 1
  else if (digits.log2 : Int) / 3 + 2 + exponent < -330 then nearest negative 0 1
  else if 0 ≤ exponent then nearest negative (digits * tenPow exponent.toNat) 1
  else nearest negative digits (tenPow (-exponent).toNat)

/-- The double nearest to a whole number, none if that is beyond the largest double. -/
def ofInt? (n : Int) : Option Float :=
  let x := nearest (n < 0) n.natAbs 1
  if x.isInf then none else some x

/-- The whole number that is left when the places behind the point are cut off. -/
def truncate (negative : Bool) (significand : Nat) (exponent : Int) : Int :=
  let size : Nat :=
    if 0 ≤ exponent then significand * twoPow exponent.toNat
    else significand / twoPow (-exponent).toNat
  if negative then -(size : Int) else size

/-- The whole number that a double is, if it is one. -/
def wholeNumber? (x : Float) : Option Int :=
  match Double.ofFloat x with
  | .finite negative significand exponent =>
    if 0 ≤ exponent || significand % twoPow (-exponent).toNat = 0 then
      some (truncate negative significand exponent)
    else none
  | _ => none

/-- The place of a double among the doubles in ascending order; what is not a number has none. -/
def rankKey (x : Float) : Option Int :=
  let bits := x.toBits.toNat
  let size : Nat := bits % twoPow 63
  if 2047 * twoPow 52 < size then none
  else if twoPow 63 ≤ bits then some (-(size : Int)) else some (size : Int)

end Launcher.Decimal
