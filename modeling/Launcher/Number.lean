import Launcher.Value
import Launcher.Decimal.Binary64

/-!
# Numbers

A number is a truth value, which counts as one or zero, a whole number of any size, or a double.
Numbers keep their form when they are stored and shown. Sums and products of truth values and whole
numbers are whole and exact; where a double takes part the other number is rounded to the nearest
double, and a whole number beyond the largest double has none.

`Number.compare?` never rounds: a whole number and a double are compared by their exact values.
-/

namespace Launcher

open Launcher.Decimal

/-- A truth value, a whole number of any size, or a double. -/
inductive Number where
  | truth (b : Bool)
  | whole (n : Int)
  | real (x : Float)
deriving Inhabited

namespace Number

/-- The whole number that a number is by its form; a double is none, whatever its value. -/
def whole? : Number → Option Int
  | .truth b => some (if b then 1 else 0)
  | .whole n => some n
  | .real _ => none

/-- The double nearest to the number, none beyond the largest double. -/
def toFloat? : Number → Option Float
  | .truth b => some (if b then 1.0 else 0.0)
  | .whole n => ofInt? n
  | .real x => some x

/-- The number as a value. -/
def toValue : Number → Value
  | .truth b => .bool b
  | .whole n => .int n
  | .real x => .float x

/-- How a whole number stands to a double that has been taken apart. -/
def compareDouble? (n : Int) : Double → Option Ordering
  | .notANumber => none
  | .infinite negative => some (if negative then .gt else .lt)
  | .finite negative significand exponent =>
    let m : Int := if negative then -(significand : Int) else significand
    if 0 ≤ exponent then some (compare n (m * twoPow exponent.toNat))
    else some (compare (n * twoPow (-exponent).toNat) m)

/-- How two doubles stand to each other. -/
def compareFloats? (x y : Float) : Option Ordering :=
  if x < y then some .lt
  else if y < x then some .gt
  else if x == y then some .eq
  else none

/-- How two numbers stand to each other; what is not a number stands in no order. -/
def compare? : Number → Number → Option Ordering
  | .real x, .real y => compareFloats? x y
  | .real x, n => do (← compareDouble? (← n.whole?) (Double.ofFloat x)).swap
  | m, .real y => do compareDouble? (← m.whole?) (Double.ofFloat y)
  | m, n => do compare (← m.whole?) (← n.whole?)

/-- The first number is smaller. -/
def less (m n : Number) : Bool := m.compare? n == some .lt

/-- The numbers are of the same size. -/
def equals (m n : Number) : Bool := m.compare? n == some .eq

/-- The number is below zero; what is not a number is not. -/
def isNegative (n : Number) : Bool := n.less (.whole 0)

/-- The number is at most zero; what is not a number is not. -/
def isAtMostZero (n : Number) : Bool := n.isNegative || n.equals (.whole 0)

/-- Two numbers combined: whole ones exactly, others as doubles, if they have any. -/
def combine? (exact : Int → Int → Int) (rounded : Float → Float → Float) (m n : Number) :
    Option Number :=
  match m.whole?, n.whole? with
  | some k, some l => some (.whole (exact k l))
  | _, _ => do
    let x ← m.toFloat?
    let y ← n.toFloat?
    some (.real (rounded x y))

/-- The sum of two numbers. -/
def add? : Number → Number → Option Number := combine? (· + ·) (· + ·)

/-- The product of two numbers. -/
def mul? : Number → Number → Option Number := combine? (· * ·) (· * ·)

/-- The number with the other sign. -/
def neg : Number → Number
  | .truth b => .whole (if b then -1 else 0)
  | .whole n => .whole (-n)
  | .real x => .real (-x)

/-- The first number, or the bound if that is larger. -/
def atLeast (n bound : Number) : Number := if n.less bound then bound else n

/-- The first number, or the bound if that is smaller. -/
def atMost (n bound : Number) : Number := if bound.less n then bound else n

/-- Whole numbers are added exactly. -/
@[simp] theorem add?_whole (k l : Int) : add? (.whole k) (.whole l) = some (.whole (k + l)) := rfl

/-- Whole numbers are compared as such. -/
@[simp] theorem less_whole (k l : Int) : less (.whole k) (.whole l) = decide (k < l) := by
  rcases Int.lt_trichotomy k l with h | h | h
  · simp [less, compare?, whole?, compare, compareOfLessAndEq, h]
  · simp [less, compare?, whole?, compare, compareOfLessAndEq, h]
  · simp [less, compare?, whole?, compare, compareOfLessAndEq, Int.lt_asymm h, Int.ne_of_gt h]

/-- A whole number is at most zero as such. -/
theorem isAtMostZero_whole (n : Int) : isAtMostZero (.whole n) = decide (n ≤ 0) := by
  unfold isAtMostZero isNegative equals
  rw [less_whole]
  rcases Int.lt_trichotomy n 0 with h | h | h
  · simp [h, Int.le_of_lt h]
  · subst h
    rfl
  · have hc : compare? (.whole n) (.whole 0) = some (compare n 0) := rfl
    simp [hc, Int.not_lt.mpr (Int.le_of_lt h), Int.not_le.mpr h, compare, compareOfLessAndEq,
      Int.ne_of_gt h]

/-- A lower bound of whole numbers. -/
@[simp] theorem atLeast_whole (k l : Int) : atLeast (.whole k) (.whole l) = .whole (max k l) := by
  by_cases h : k < l
  · simp [atLeast, h, Int.max_eq_right (Int.le_of_lt h)]
  · simp [atLeast, h, Int.max_eq_left (Int.not_lt.1 h)]

/-- An upper bound of whole numbers. -/
@[simp] theorem atMost_whole (k l : Int) : atMost (.whole k) (.whole l) = .whole (min k l) := by
  by_cases h : l < k
  · simp [atMost, h, Int.min_eq_right (Int.le_of_lt h)]
  · simp [atMost, h, Int.min_eq_left (Int.not_lt.1 h)]

end Number

/-- The number that a value is. -/
def Value.number? : Value → Option Number
  | .bool b => some (.truth b)
  | .int n => some (.whole n)
  | .float x => some (.real x)
  | _ => none

end Launcher
