/-!
# Splitting texts

`splitAt sep cs` cuts a list, mostly of characters, at every separator; `joinWith sep` puts pieces
together with separators. A list without separators is one piece, so there is always at least one.

`dropStart?` takes a given beginning off a list.
-/

namespace Launcher.Text

variable {α : Type} [DecidableEq α]

/-- The pieces between the separators. -/
def splitAt (sep : α) : List α → List (List α)
  | [] => [[]]
  | c :: rest =>
    if c = sep then [] :: splitAt sep rest
    else match splitAt sep rest with
      | [] => [[c]]
      | piece :: pieces => (c :: piece) :: pieces

/-- The pieces with a separator between each two. -/
def joinWith (sep : α) : List (List α) → List α
  | [] => []
  | [piece] => piece
  | piece :: pieces => piece ++ sep :: joinWith sep pieces

/-- What follows a beginning of a list, if it is one. -/
def dropStart? : List α → List α → Option (List α)
  | [], rest => some rest
  | _ :: _, [] => none
  | a :: start, b :: rest => if a = b then dropStart? start rest else none

/-- A beginning and what follows it make up the whole. -/
theorem dropStart?_eq_some_iff {start whole rest : List α} :
    dropStart? start whole = some rest ↔ whole = start ++ rest := by
  induction start generalizing whole with
  | nil => simp [dropStart?, eq_comm]
  | cons a start ih =>
    cases whole with
    | nil => simp [dropStart?]
    | cons b whole =>
      by_cases h : a = b
      · simp [dropStart?, h, ih]
      · simp [dropStart?, h, Ne.symm h]

end Launcher.Text
