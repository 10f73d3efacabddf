import Launcher.Fault
import Launcher.Number
import Launcher.Decimal.Reading

/-!
# Values as numbers

`Value.toInt` and `Value.toFloat` turn a value into a whole number or a double where that makes
sense: truth values count as one and zero, a text is read as a number, and the places behind the
point are cut off for a whole number. Null, lists and objects are of the wrong type.
`Value.asNumber` and `Value.asDouble` take numbers only, and so do `Value.positive` and
`Value.nonNegative`, which say by name which one is refused.
-/

namespace Launcher.Value

open Launcher.Decimal

/-- The whole number that is left of a double without the places behind its point. -/
def wholePart (x : Float) : Except Fault Int :=
  match Double.ofFloat x with
  | .notANumber => .error .noWholePart
  | .infinite _ => .error .numberTooLarge
  | .finite negative significand exponent => .ok (truncate negative significand exponent)

/-- The whole number that a value gives. -/
def toInt : Value → Except Fault Int
  | .bool b => .ok (if b then 1 else 0)
  | .int n => .ok n
  | .float x => wholePart x
  | .text t =>
    match readInt t with
    | .ok n => .ok n
    | .error .malformed => .error (.badInteger t)
    | .error (.tooManyDigits count) => .error (.tooManyDigits (some count))
  | _ => .error .wrongType

/-- The double that a value gives. -/
def toFloat : Value → Except Fault Float
  | .bool b => .ok (if b then 1.0 else 0.0)
  | .int n =>
    match ofInt? n with
    | some x => .ok x
    | none => .error .numberTooLarge
  | .float x => .ok x
  | .text t =>
    match readFloat? t with
    | some x => .ok x
    | none => .error (.badNumber t)
  | _ => .error .wrongType

/-- The number that a value is. -/
def asNumber (given : Value) : Except Fault Number :=
  match given.number? with
  | some n => .ok n
  | none => .error .wrongType

/-- The double nearest to the number that a value is. -/
def asDouble (given : Value) : Except Fault Float := do
  match (← given.asNumber).toFloat? with
  | some x => .ok x
  | none => .error .numberTooLarge

/-- The number that a value is; it must be above zero. -/
def positive (name : Text) (given : Value) : Except Fault Number := do
  let n ← given.asNumber
  if n.isAtMostZero then .error (.notPositive name) else .ok n

/-- The number that a value is; it must not be below zero. -/
def nonNegative (name : Text) (given : Value) : Except Fault Number := do
  let n ← given.asNumber
  if n.isNegative then .error (.negative name) else .ok n

theorem positive_int_eq (n : Int) (name : Text) :
    (Value.int n).positive name
      = if n ≤ 0 then .error (.notPositive name) else .ok (.whole n) := by
  have hp : (Value.int n).positive name
      = if (Number.whole n).isAtMostZero then .error (.notPositive name) else .ok (.whole n) := rfl
  rw [hp, Number.isAtMostZero_whole]
  simp only [decide_eq_true_eq]

/-- A whole number that is accepted as positive is above zero and stays as it is. -/
theorem positive_int {n : Int} {name : Text} {number : Number}
    (h : (Value.int n).positive name = .ok number) : number = .whole n ∧ 0 < n := by
  rw [positive_int_eq] at h
  split at h
  · cases h
  · next hn => cases h; exact ⟨rfl, Int.not_le.mp hn⟩

end Launcher.Value
