import Launcher.Decimal.Shortest

/-!
# A fixed number of places

A double is written with a given number of places behind the point: its exact value, rounded to the
last place, a half to the even neighbour. The sign stays even when only zeros are left.
-/

namespace Launcher.Decimal

/-- The characters of `units / 10 ^ places` with all its places. -/
def placedChars (places units : Nat) : List Char :=
  let ds := padStart (places + 1) '0' (digitChars units)
  let point := ds.length - places
  ds.take point ++ (if places = 0 then [] else '.' :: ds.drop point)

/-- The characters of a double with a fixed number of places. -/
def fixedChars (places : Nat) (x : Float) : List Char :=
  match Double.ofFloat x with
  | .notANumber => messageStyle.notANumber.toList
  | .infinite negative =>
    (if negative then messageStyle.minusInfinity else messageStyle.infinity).toList
  | .finite negative significand exponent =>
    let v := Quotient.ofScaled (significand * tenPow places) exponent
    (if negative then ['-'] else []) ++ placedChars places (roundDiv v.num v.den)

/-- The text of a double with a fixed number of places. -/
def fixed (places : Nat) (x : Float) : String :=
  String.ofList (fixedChars places x)

end Launcher.Decimal
