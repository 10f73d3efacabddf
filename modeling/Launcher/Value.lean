import Launcher.Text

/-!
# Values

A value is what a catalog record, a stored setting or the action of an entry holds. An object keeps
its fields in order and holds each key once; `Fields.put` replaces the value of a key where it
stands and adds a new key at the end.
-/

namespace Launcher

/-- A piece of data as documents hold it; whole numbers have any size. -/
inductive Value where
  | null
  | bool (b : Bool)
  | int (n : Int)
  | float (x : Float)
  | text (t : Text)
  | list (items : List Value)
  | object (fields : List (Text × Value))
deriving Inhabited

/-- The fields of an object in order. -/
abbrev Fields := List (Text × Value)

namespace Fields

/-- The value of a key, if the object has it. -/
def get? (fields : Fields) (key : Text) : Option Value :=
  (fields.find? (·.1 == key)).map (·.2)

/-- The value of a key, null if the object does not have it. -/
def getD (fields : Fields) (key : Text) : Value :=
  (fields.get? key).getD .null

/-- The object has the key. -/
def has (fields : Fields) (key : Text) : Bool := (fields.get? key).isSome

/-- Gives a key a value: in the place of the key, or at the end if it is new. -/
def put (key : Text) (v : Value) : Fields → Fields
  | [] => [(key, v)]
  | (k, w) :: rest => if k = key then (k, v) :: rest else (k, w) :: put key v rest

/-- The first object with every field of the second put into it. -/
def update (fields extra : Fields) : Fields :=
  extra.foldl (fun acc kv => put kv.1 kv.2 acc) fields

/-- A key just put has the value put. -/
theorem get?_put_self (key : Text) (v : Value) (fields : Fields) :
    (put key v fields).get? key = some v := by
  induction fields with
  | nil => simp [put, get?]
  | cons kw rest ih =>
    obtain ⟨k, w⟩ := kw
    by_cases h : k = key
    · simp [put, get?, h]
    · simp only [put, if_neg h]
      simpa [get?, List.find?_cons, h] using ih

/-- Putting one key leaves every other key as it was. -/
theorem get?_put_of_ne {key other : Text} (h : key ≠ other) (v : Value) (fields : Fields) :
    (put key v fields).get? other = fields.get? other := by
  induction fields with
  | nil => simp [put, get?, h]
  | cons kw rest ih =>
    obtain ⟨k, w⟩ := kw
    by_cases hk : k = key
    · subst hk
      simp [put, get?, h]
    · simp only [put, if_neg hk]
      by_cases ho : k = other
      · simp [get?, ho]
      · simpa [get?, List.find?_cons, ho] using ih

end Fields

namespace Value

/-- The value counts as true: null, false, zero and what is empty do not. -/
def isTrue : Value → Bool
  | .null => false
  | .bool b => b
  | .int n => n != 0
  | .float x => x != 0.0
  | .text t => !t.isEmpty
  | .list items => !items.isEmpty
  | .object fields => !fields.isEmpty

/-- The value is null. -/
def isNull : Value → Bool
  | .null => true
  | _ => false

/-- What a collection holds: the items of a list, the keys of an object. -/
def items? : Value → Option (List Value)
  | .list items => some items
  | .object fields => some (fields.map fun kv => .text kv.1)
  | _ => none

/-- What a value that can be gone through holds: the characters of a text, the items of a list, the
keys of an object. -/
def members? : Value → Option (List Value)
  | .text t => some (t.map fun c => .text [c])
  | v => v.items?

end Value

end Launcher
