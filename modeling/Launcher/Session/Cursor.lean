import Launcher.Value.Arithmetic

/-!
# The cursor

The cursor marks one row of the list of results, or none when the list is empty. It moves by rows
and pages and stops at both ends. A new list puts it on the first row.

A move may be of any number, so that the cursor may come to rest between two rows; moves of whole
numbers keep it on a row (`move_whole`).

Modelled are `SelectionCursor` and `Navigation`.
-/

namespace Launcher

/-- A command that moves the cursor. -/
inductive Navigation where
  | next
  | previous
  | home
  | last
  | pageUp
  | pageDown
deriving DecidableEq, Repr

namespace Navigation

/-- The commands in the order of their description. -/
def all : List Navigation := [.next, .previous, .home, .last, .pageUp, .pageDown]

/-- The name of a command. -/
def name : Navigation → Text
  | .next => "next"
  | .previous => "previous"
  | .home => "home"
  | .last => "end"
  | .pageUp => "page-up"
  | .pageDown => "page-down"

/-- The command that a value names. -/
def ofValue (given : Value) : Except Fault Navigation :=
  match given with
  | .text s =>
    match all.find? (·.name == s) with
    | some command => .ok command
    | none => .error (.unknownCommand given)
  | _ => .error (.unknownCommand given)

end Navigation

/-- The place that is marked in a list of `count` rows. -/
structure Cursor where
  pageSize : Number
  count : Nat
  index : Option Number

namespace Cursor

/-- The cursor of an empty list; the size of a page is a number above zero. -/
def create (pageSize : Value) : Except Fault Cursor := do
  .ok ⟨← pageSize.positive "page_size", 0, none⟩

/-- The number of rows of a new list; below zero it is empty. -/
def reset (cursor : Cursor) (count : Int) : Cursor :=
  { cursor with
    count := count.toNat, index := if count ≤ 0 then none else some (.whole 0) }

/-- Moves the cursor by a number of rows as far as the list goes. -/
def move (cursor : Cursor) (delta : Number) : Except Fault Cursor :=
  match cursor.index with
  | none => .ok cursor
  | some row => do
    let moved ← row.plus delta
    .ok { cursor with
      index := some ((moved.atLeast (.whole 0)).atMost (.whole (cursor.count - 1))) }

/-- Moves the cursor by a value, which must be a number unless the list is empty. -/
def moveBy (cursor : Cursor) (delta : Value) : Except Fault Cursor :=
  match cursor.index with
  | none => .ok cursor
  | some _ => do cursor.move (← delta.asNumber)

/-- Carries out a command. -/
def apply (cursor : Cursor) : Navigation → Except Fault Cursor
  | .next => cursor.move (.whole 1)
  | .previous => cursor.move (.whole (-1))
  | .pageDown => cursor.move cursor.pageSize
  | .pageUp => cursor.move cursor.pageSize.neg
  | .home => .ok { cursor with index := cursor.index.map fun _ => .whole 0 }
  | .last => .ok { cursor with index := cursor.index.map fun _ => .whole (cursor.count - 1) }

/-- Carries out something that is not a command: the cursor of an empty list takes no notice. -/
def applyUnsupported (cursor : Cursor) (given : Value) : Except Fault Cursor :=
  match cursor.index with
  | none => .ok cursor
  | some _ => .error (.unsupportedCommand given)

/-- A move by whole rows from a row leads to the row that far away, or to the end of the list. -/
theorem move_whole (cursor : Cursor) (row delta : Int) (h : cursor.index = some (.whole row)) :
    cursor.move (.whole delta) = .ok { cursor with
      index := some (.whole (min (max (row + delta) 0) (cursor.count - 1))) } := by
  simp [move, h, Number.plus, bind, Except.bind]

end Cursor

end Launcher
