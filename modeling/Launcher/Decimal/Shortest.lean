import Launcher.Decimal.Binary64

/-!
# The shortest decimal of a double

`shortest` finds the decimal number with the fewest digits among those that read back as a given
positive double, and of several such the one nearest to it. A double stands for the interval of
reals that round to it, its ends included when its significand is even; for 1, 2, ... 17 digits the
two neighbours of the double on that grid of decimals are tested against the interval, and the
first grid with a hit wins.

`NumberStyle` says how such a decimal is written, and `NumberStyle.write` writes any double.
-/

namespace Launcher.Decimal

/-- A positive quotient of whole numbers. -/
structure Quotient where
  num : Nat
  den : Nat
deriving DecidableEq, Repr

/-- The quotient `n * 2 ^ exponent`. -/
def Quotient.ofScaled (n : Nat) (exponent : Int) : Quotient :=
  if 0 ≤ exponent then ⟨n * twoPow exponent.toNat, 1⟩ else ⟨n, twoPow (-exponent).toNat⟩

/-- The quotient in units of `10 ^ exponent`. -/
def Quotient.inUnits (v : Quotient) (exponent : Int) : Quotient :=
  if 0 ≤ exponent then ⟨v.num, v.den * tenPow exponent.toNat⟩
  else ⟨v.num * tenPow (-exponent).toNat, v.den⟩

/-- The quotient is at least `10 ^ exponent`. -/
def Quotient.reaches (v : Quotient) (exponent : Int) : Bool :=
  let u := v.inUnits exponent
  u.den ≤ u.num

/-- The decimal place of the first digit of a positive quotient. -/
def Quotient.leadingPlace (v : Quotient) : Int :=
  let guess := ((v.num.log2 : Int) - v.den.log2) * 30103 / 100000
  if v.reaches (guess + 1) then guess + 1
  else if v.reaches guess then guess
  else if v.reaches (guess - 1) then guess - 1
  else guess - 2

/-- The reals that round to one double: `low` and `high` stand in the same unit as `value`. -/
structure Interval where
  low : Nat
  value : Nat
  high : Nat
  closed : Bool
  exponent : Int
deriving DecidableEq, Repr

/-- The interval of a positive double; below a power of two the next double is twice as near. -/
def Interval.ofDouble (significand : Nat) (exponent : Int) : Interval :=
  let below := if significand = twoPow 52 ∧ exponent ≠ -1074 then 1 else 2
  ⟨4 * significand - below, 4 * significand, 4 * significand + 2, significand % 2 == 0,
    exponent - 2⟩

/-- The decimal `digits * 10 ^ place` lies in the interval. -/
def Interval.holds (i : Interval) (digits : Nat) (place : Int) : Bool :=
  let low := (Quotient.ofScaled i.low i.exponent).inUnits place
  let high := (Quotient.ofScaled i.high i.exponent).inUnits place
  if i.closed then low.num ≤ digits * low.den && digits * high.den ≤ high.num
  else low.num < digits * low.den && digits * high.den < high.num

/-- The nearer neighbour of the double on the grid of multiples of `10 ^ place` that lies in the
interval, if one does. -/
def Interval.onGrid? (i : Interval) (place : Int) : Option Nat :=
  let v := (Quotient.ofScaled i.value i.exponent).inUnits place
  let below := v.num / v.den
  let near := roundDiv v.num v.den
  let far := if near = below then below + 1 else below
  if i.holds near place then some near
  else if i.holds far place then some far
  else none

/-- The first of the grids from `10 ^ place` down on which the interval holds a decimal; on the
last one the nearest decimal is taken. -/
def Interval.search (i : Interval) : Nat → Int → Nat × Int
  | 0, place =>
    let v := (Quotient.ofScaled i.value i.exponent).inUnits place
    (roundDiv v.num v.den, place)
  | more + 1, place =>
    match i.onGrid? place with
    | some d => (d, place)
    | none => i.search more (place - 1)

/-- A decimal without its trailing zeros. -/
def stripZeros : Nat → Nat → Int → Nat × Int
  | 0, digits, place => (digits, place)
  | fuel + 1, digits, place =>
    if digits % 10 = 0 ∧ digits ≠ 0 then stripZeros fuel (digits / 10) (place + 1)
    else (digits, place)

/-- The shortest decimal `digits * 10 ^ place` that reads back as the positive double. -/
def shortest (significand : Nat) (exponent : Int) : Nat × Int :=
  let i := Interval.ofDouble significand exponent
  let (digits, place) := i.search 16 (Quotient.ofScaled i.value i.exponent).leadingPlace
  stripZeros 20 digits place

/-- How a double is written. -/
structure NumberStyle where
  /-- Numbers below this power of ten are written with an exponent. -/
  smallestPlace : Int
  /-- Numbers from this power of ten on are written with an exponent. -/
  largestPlace : Int
  /-- The least number of digits of an exponent. -/
  exponentWidth : Nat
  notANumber : String
  infinity : String
  minusInfinity : String

/-- The decimal digits of a whole number. -/
def digitChars (n : Nat) : List Char := Nat.toDigits 10 n

/-- The text padded at its start to the given length. -/
def padStart (width : Nat) (fill : Char) (cs : List Char) : List Char :=
  List.replicate (width - cs.length) fill ++ cs

/-- A decimal with its point where it belongs; a whole number keeps one place. -/
def positional (digits : List Char) (place : Int) : List Char :=
  let point := (digits.length : Int) + place
  if 0 ≤ place then digits ++ List.replicate place.toNat '0' ++ ['.', '0']
  else if point ≤ 0 then ['0', '.'] ++ List.replicate (-point).toNat '0' ++ digits
  else digits.take point.toNat ++ ['.'] ++ digits.drop point.toNat

/-- A decimal with one digit before its point, and its exponent with a sign. -/
def scientific (width : Nat) (digits : List Char) (place : Int) : List Char :=
  let exponent := (digits.length : Int) + place - 1
  let tail := digits.drop 1
  digits.take 1 ++ (if tail.isEmpty then [] else '.' :: tail) ++ ['e'] ++
    [if exponent < 0 then '-' else '+'] ++ padStart width '0' (digitChars exponent.natAbs)

/-- The characters of a double in a style. -/
def NumberStyle.chars (style : NumberStyle) (x : Float) : List Char :=
  match Double.ofFloat x with
  | .notANumber => style.notANumber.toList
  | .infinite negative => (if negative then style.minusInfinity else style.infinity).toList
  | .finite negative significand exponent =>
    let sign := if negative then ['-'] else []
    if significand = 0 then sign ++ ['0', '.', '0']
    else
      let (digits, place) := shortest significand exponent
      let ds := digitChars digits
      let first := (ds.length : Int) + place - 1
      sign ++
        if style.smallestPlace ≤ first ∧ first < style.largestPlace then positional ds place
        else scientific style.exponentWidth ds place

/-- The text of a double in a style. -/
def NumberStyle.write (style : NumberStyle) (x : Float) : String :=
  String.ofList (style.chars x)

/-- Numbers in messages: positional from a ten-thousandth up to ten to the sixteenth. -/
def messageStyle : NumberStyle where
  smallestPlace := -4
  largestPlace := 16
  exponentWidth := 2
  notANumber := "nan"
  infinity := "inf"
  minusInfinity := "-inf"

/-- Numbers in documents differ from those in messages in the names of what is not finite. -/
def documentStyle : NumberStyle :=
  { messageStyle with
    notANumber := "NaN", infinity := "Infinity", minusInfinity := "-Infinity" }

end Launcher.Decimal
