import Launcher.Number

/-!
# Equal values

Numbers are equal when they are of the same size, in whatever form they are held; lists when their
items are equal one by one; objects when they have the same keys with equal values, in any order.
What is not a number is not equal to itself.
-/

namespace Launcher.Value

mutual

/-- The values are equal. -/
def same : Value → Value → Bool
  | .null, .null => true
  | .text s, .text t => s == t
  | .list vs, .list ws => sameItems vs ws
  | .object kvs, .object kws => kvs.length == kws.length && sameFields kvs kws
  | v, w =>
    match v.number?, w.number? with
    | some m, some n => m.equals n
    | _, _ => false

/-- The items of two lists are equal one by one. -/
def sameItems : List Value → List Value → Bool
  | [], [] => true
  | v :: vs, w :: ws => same v w && sameItems vs ws
  | _, _ => false

/-- Every field has an equal one under its key among others. -/
def sameFields : List (Text × Value) → Fields → Bool
  | [], _ => true
  | (k, v) :: kvs, others =>
    (match others.get? k with
      | some w => same v w
      | none => false) && sameFields kvs others

end

instance : BEq Value := ⟨same⟩

end Launcher.Value
