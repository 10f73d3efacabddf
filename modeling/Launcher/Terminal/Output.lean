import Launcher.Terminal.Markup
import Launcher.Text.Blank
import Launcher.Value.Conversion

/-!
# What an output can hold

Some marks are beyond ASCII; an output that cannot hold them gets ASCII in their place. A long text
is cut to a limit, with an ellipsis at its end. Sequences that switch colours are taken out of plain
output.

Modelled are `format_selection_marker` and `truncate`. The last part is done by what the launcher
echoes with.
-/

namespace Launcher.Terminal

open Launcher.Text

/-- The mark in front of a row. -/
def selectionMark (all selected : Bool) : Text :=
  if selected then styled "bold green" (if all then "▶" else ">") else []

/-- The characters up to a place; a negative place counts from the end. -/
def upTo (place : Int) (t : Text) : Text :=
  if 0 ≤ place then t.take place.toNat else t.take (t.length - place.natAbs)

/-- A text without blanks around it, cut to a limit if it is longer than that. -/
def cutTo (all : Bool) (limit : Int) (t : Text) : Text :=
  let trimmed := trim t
  if (trimmed.length : Int) ≤ limit then trimmed
  else
    let ellipsis : Text := if all then "…" else "..."
    trimEnd (upTo (limit - ellipsis.length) trimmed) ++ ellipsis

/-- A text cut to a limit; a dash if there is none. -/
def truncate (all : Bool) (limit : Int) (text : Option Text) : Text :=
  match text with
  | none => "-"
  | some t => if t.isEmpty then "-" else cutTo all limit t

/-- A value cut to a limit: whatever counts as false is shown as a dash, and any other value must be
a text. The limit must be a number, and a whole one where the text is longer. -/
def truncateGiven (all : Bool) (limit text : Value) : Except Fault Text :=
  if !text.isTrue then .ok "-"
  else match text with
    | .text t => do
      let number ← limit.asNumber
      let size := Number.whole (trim t).length
      if size.less number || size.equals number then .ok (trim t)
      else match number.whole? with
        | some n => .ok (cutTo all n t)
        | none => .error .wrongType
    | _ => .error .noSuchMember

/-- The code may stand between the bracket and the letter of a sequence that switches colours. -/
def isColourSign : Code → Bool
  | .char c => c == ';' || c == '?' || ('0' ≤ c && c ≤ '9')
  | .half _ => false

/-- The code ends a sequence that switches colours. -/
def endsColour : Code → Bool
  | .char c => ('a' ≤ c && c ≤ 'z') || ('A' ≤ c && c ≤ 'Z')
  | .half _ => false

/-- What follows a sequence that switches colours, if the codes after its escape begin one. -/
def afterColour? : Text → Option Text
  | .char '[' :: rest =>
    match rest.dropWhile isColourSign with
    | c :: after => if endsColour c then some after else none
    | [] => none
  | _ => none

/-- The codes without sequences that switch colours; `fuel` is at least their number. -/
def withoutColoursFrom : Nat → Text → Text
  | 0, _ => []
  | _, [] => []
  | fuel + 1, c :: rest =>
    match if c.toNat = 27 then afterColour? rest else none with
    | some after => withoutColoursFrom fuel after
    | none => c :: withoutColoursFrom fuel rest

/-- The text without sequences that switch colours. -/
def withoutColours (t : Text) : Text := withoutColoursFrom t.length t

end Launcher.Terminal
