import Launcher.Session.Query
import Launcher.Value.Conversion

/-!
# Waiting for typing to rest

A debounce holds the query typed last until no other has come for an interval. Every new query
replaces the one held and starts the interval anew. Null is no query: it can be held in the place of
another one, but it does not wait.

Modelled is `DebounceTimer`. The clock is not part of it; every operation is given the time.
-/

namespace Launcher

/-- A query that is held, and the time at which it is due. -/
structure Held where
  deadline : Float
  query : Query

/-- The interval in seconds, and the query that is held. -/
structure Debounce where
  interval : Float
  held : Option Held

namespace Debounce

/-- A debounce that holds nothing; the interval is given in milliseconds and may not be negative. -/
def create (milliseconds : Value) : Except Fault Debounce := do
  let given ← milliseconds.nonNegative "interval_ms"
  .ok ⟨(← given.toValue.asDouble) / 1000.0, none⟩

/-- The query that waits. -/
def waiting? (debounce : Debounce) : Option Held :=
  debounce.held.filter fun held => !held.query.isNull

/-- A query waits. -/
def isPending (debounce : Debounce) : Bool := debounce.waiting?.isSome

/-- Holds a query from now on. -/
def hold (debounce : Debounce) (query : Query) (now : Value) : Except Fault Debounce := do
  .ok { debounce with held := some ⟨(← now.asDouble) + debounce.interval, query⟩ }

/-- A query waits and has rested for the interval. -/
def isDue (debounce : Debounce) (now : Value) : Except Fault Bool :=
  match debounce.waiting? with
  | none => .ok false
  | some held => do
    let now ← now.asNumber
    .ok ((Number.real held.deadline).less now || (Number.real held.deadline).equals now)

/-- Holds nothing any more. -/
def release (debounce : Debounce) : Debounce := { debounce with held := none }

end Debounce

end Launcher
