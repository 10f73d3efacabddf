import Launcher.Terminal.Width
import Launcher.Text.Split
import Launcher.Text.Words

/-!
# Breaking lines

A text is broken into lines where it says so, and where a word does not fit into the width. A word
keeps the blanks behind it, but they need not fit. A word that is too long for a line of its own is
folded into several, or stands on one line to be cut.

`breaks` gives the places in a line where new lines begin, and `brokenLine` the pieces between them.
-/

namespace Launcher.Terminal

open Launcher.Text

/-- What becomes of a word that is too long for a line. -/
inductive Overflow where
  | fold
  | ellipsis
deriving DecidableEq, Repr

/-- The places where pieces begin that follow each other, the first one at `place`; no line is
broken at its beginning. -/
def pieceStarts (place : Nat) : List Text → List Nat
  | [] => []
  | piece :: rest =>
    let starts := pieceStarts (place + piece.length) rest
    if place = 0 then starts else place :: starts

/-- The places where the words after `place` make a new line begin; `taken` is the number of columns
that are taken in the line so far. -/
def breaksFrom (overflow : Overflow) (size : Nat) (place taken : Nat) :
    List Text → List Nat
  | [] => []
  | word :: rest =>
    let next := place + word.length
    let needed := width (trimEnd word)
    if taken + needed ≤ size then breaksFrom overflow size next (taken + width word) rest
    else if needed ≤ size then place :: breaksFrom overflow size next (width word) rest
    else match overflow with
      | .fold =>
        let pieces := chop size word
        pieceStarts place pieces ++
          breaksFrom overflow size next ((pieces.getLast?.map width).getD taken) rest
      | .ellipsis =>
        pieceStarts place [word] ++ breaksFrom overflow size next (width word) rest

/-- The places where a line is broken to fit into a width. -/
def breaks (overflow : Overflow) (size : Nat) (cs : Text) : List Nat :=
  breaksFrom overflow size 0 0 (paddedWords cs)

/-- The pieces of a list between places, which are counted from `start` and ascend. -/
def cutAt (start : Nat) (cs : Text) : List Nat → List Text
  | [] => [cs]
  | place :: places => cs.take (place - start) :: cutAt place (cs.drop (place - start)) places

/-- A line without the blanks at its end that are beyond a number of characters. -/
def dropOverhang (size : Nat) (cs : Text) : Text :=
  let blanks := cs.length - (trimEnd cs).length
  cs.take (cs.length - min blanks (cs.length - size))

/-- The characters with spaces up to the next stop in place of each tab; `column` is where they
begin, and `before`, in reverse, what stands between the last stop and them. -/
def expandTabsFrom (column : Nat) (before : Text) : Text → Text
  | [] => before.reverse
  | c :: rest =>
    if c = '\t' then
      let cs := (.char ' ' :: before).reverse
      let reached := column + width cs
      let gap := (8 - reached % 8) % 8
      cs ++ spaces gap ++ expandTabsFrom (reached + gap) [] rest
    else expandTabsFrom column (c :: before) rest

/-- The pieces of one line, each of which fits into a width unless it is a single word. -/
def brokenLine (overflow : Overflow) (size : Nat) (cs : Text) : List Text :=
  let cs := expandTabsFrom 0 [] cs
  (cutAt 0 cs (breaks overflow size cs)).map (dropOverhang size)

/-- The lines of a text, broken to fit into a width. -/
def brokenLines (overflow : Overflow) (size : Nat) (cs : Text) : List Text :=
  (splitAt (.char '\n') cs).flatMap (brokenLine overflow size)

/-- A line cut to a width if it is too long. -/
def crop (overflow : Overflow) (size : Nat) (cs : Text) : Text :=
  if width cs ≤ size then cs
  else match overflow with
    | .fold => fit size cs
    | .ellipsis => fit (size - 1) cs ++ [.char '…']

/-- The lines of a text as a terminal of a given width shows them. -/
def shownLines (size : Nat) (cs : Text) : List Text :=
  (brokenLines .fold size cs).map (crop .fold size)

end Launcher.Terminal
