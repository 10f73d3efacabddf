/-!
# A memory of one result

A memo remembers the result of one query. Asked for the same query again it answers without
computing; any other query replaces what it remembers. It counts both cases. A computation that
fails is counted and changes nothing else.

Queries are compared by `==`. A query that is not equal to itself can be remembered, but it is never
found again.

Modelled is `QueryCache`. The computation is a function of the query that may fail.
-/

namespace Launcher

/-- A query with its result, and how often a result was found here and how often not. -/
structure Memo (κ α : Type) where
  slot : Option (κ × α)
  hits : Nat
  misses : Nat

namespace Memo

variable {κ α ε : Type} [BEq κ]

/-- The memo that remembers nothing. -/
def empty : Memo κ α := ⟨none, 0, 0⟩

/-- The query that is remembered. -/
def query? (memo : Memo κ α) : Option κ := memo.slot.map (·.1)

/-- The result of a query, if it is the one remembered. -/
def find? (memo : Memo κ α) (query : κ) : Option α :=
  match memo.slot with
  | some (known, result) => if known == query then some result else none
  | none => none

/-- The query is the one remembered. -/
def holds (memo : Memo κ α) (query : κ) : Bool := (memo.find? query).isSome

/-- Counts a result found here. -/
def countHit (memo : Memo κ α) : Memo κ α := { memo with hits := memo.hits + 1 }

/-- Counts a result not found here. -/
def countMiss (memo : Memo κ α) : Memo κ α := { memo with misses := memo.misses + 1 }

/-- Remembers a query and its result. -/
def store (memo : Memo κ α) (query : κ) (result : α) : Memo κ α :=
  { memo with slot := some (query, result) }

/-- Forgets what is remembered, but not the counts. -/
def clear (memo : Memo κ α) : Memo κ α := { memo with slot := none }

/-- The result of a query, remembered or computed. -/
def getOrCompute (memo : Memo κ α) (query : κ) (compute : κ → Except ε α) :
    Except ε α × Memo κ α :=
  match memo.find? query with
  | some result => (.ok result, memo.countHit)
  | none =>
    match compute query with
    | .ok result => (.ok result, memo.countMiss.store query result)
    | .error fault => (.error fault, memo.countMiss)

/-- A query is held exactly when it is the one remembered. -/
theorem holds_iff [LawfulBEq κ] (memo : Memo κ α) (query : κ) :
    memo.holds query = true ↔ memo.query? = some query := by
  obtain ⟨slot, hits, misses⟩ := memo
  cases slot with
  | none => simp [holds, find?, query?]
  | some known => by_cases h : known.1 = query <;> simp [holds, find?, query?, h]

end Memo

end Launcher
