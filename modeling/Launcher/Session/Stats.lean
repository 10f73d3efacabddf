import Launcher.Value.Arithmetic

/-!
# Counting searches

A tally counts searches, those answered from memory apart from those that were scored. `Stats` adds
the durations of the scored ones: their sum, the shortest and the longest. Durations are taken from
any type with the operations of `Duration`; on the rationals they are exact. A duration that cannot
be added is a fault: its search is counted, and no duration changes.

Modelled is `SearchStats`. A session keeps its tally alone.
-/

namespace Launcher

/-- How many searches there were, and how many of them were answered from memory or scored. -/
structure Tally where
  total : Nat
  cached : Nat
  scored : Nat
deriving DecidableEq, Repr

namespace Tally

/-- No searches. -/
def zero : Tally := ⟨0, 0, 0⟩

/-- Counts a search. -/
def record (tally : Tally) (cached : Bool) : Tally :=
  if cached then { tally with total := tally.total + 1, cached := tally.cached + 1 }
  else { tally with total := tally.total + 1, scored := tally.scored + 1 }

end Tally

/-- Numbers that can be durations. -/
class Duration (α : Type) where
  zero : α
  add : α → α → Except Fault α
  less : α → α → Bool
  /-- An equal share of a duration. -/
  share : α → Nat → α

/-- Durations as they are given. Sums and shares are doubles; a single duration keeps its form. -/
instance : Duration Value where
  zero := .float 0.0
  add x y := x.plus y
  less x y :=
    match x.number?, y.number? with
    | some m, some n => m.less n
    | _, _ => false
  share x n :=
    match x.asDouble with
    | .ok x => .float (x / Float.ofNat n)
    | .error _ => x

/-- Exact durations. -/
instance : Duration Rat where
  zero := 0
  add x y := .ok (x + y)
  less x y := decide (x < y)
  share x n := x / (n : Rat)

/-- Counts of searches and the durations of the scored ones. -/
structure Stats (α : Type) where
  tally : Tally
  time : α
  fastest : Option α
  slowest : Option α

namespace Stats

variable {α : Type} [Duration α]

/-- Nothing recorded. -/
def empty : Stats α := ⟨Tally.zero, Duration.zero, none, none⟩

/-- The new duration if there is none yet or if it is preferred to the one there. -/
def better (prefers : α → α → Bool) (duration : α) : Option α → Option α
  | none => some duration
  | some known => if prefers duration known then some duration else some known

/-- Records a search; the duration of one answered from memory is not kept. -/
def record (stats : Stats α) (duration : α) (cached : Bool) : Except Fault Unit × Stats α :=
  let counted := { stats with tally := stats.tally.record cached }
  if cached then (.ok (), counted)
  else match Duration.add stats.time duration with
    | .error fault => (.error fault, counted)
    | .ok time =>
      (.ok (), { counted with
        time
        fastest := better Duration.less duration stats.fastest
        slowest := better (fun x y => Duration.less y x) duration stats.slowest })

/-- The mean duration of the scored searches, zero if there are none. -/
def average (stats : Stats α) : α :=
  if stats.tally.scored = 0 then Duration.zero else Duration.share stats.time stats.tally.scored

end Stats

end Launcher
