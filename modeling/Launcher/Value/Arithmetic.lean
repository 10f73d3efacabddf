import Launcher.Value.Conversion

/-!
# Sums and products of values

Numbers are added and multiplied, texts and lists are joined by `Value.plus`; other values have no
sum. A number that would have to be rounded beyond the largest double is too large.
-/

namespace Launcher

/-- The sum of two numbers. -/
def Number.plus (m n : Number) : Except Fault Number :=
  match m.add? n with
  | some sum => .ok sum
  | none => .error .numberTooLarge

/-- The product of two numbers. -/
def Number.times (m n : Number) : Except Fault Number :=
  match m.mul? n with
  | some product => .ok product
  | none => .error .numberTooLarge

namespace Value

/-- The sum of two numbers, or two texts or lists joined. -/
def plus : Value → Value → Except Fault Value
  | .text s, .text t => .ok (.text (s ++ t))
  | .list vs, .list ws => .ok (.list (vs ++ ws))
  | v, w => do
    let sum ← (← v.asNumber).plus (← w.asNumber)
    .ok sum.toValue

/-- The product of two numbers. -/
def times (v w : Value) : Except Fault Value := do
  let product ← (← v.asNumber).times (← w.asNumber)
  .ok product.toValue

end Value

end Launcher
