import Launcher.Text.Blank

/-!
# Words

Words are what stands between blank characters. `paddedWords` keeps the blanks: each word has those
behind it, and the first one also those in front of it, so that the words of a text make up the
text, unless it is blank and has none. `wordsOf` takes the blanks off.
-/

namespace Launcher.Text

/-- A character in front of pieces: a word begins where a character that is not blank follows one
that is. -/
def addChar (c : Code) : List Text → List Text
  | [] => [[c]]
  | piece :: pieces =>
    if isBlank c && piece.head?.any fun d => !isBlank d then [c] :: piece :: pieces
    else (c :: piece) :: pieces

/-- The words of a text with the blanks behind them; blanks in front are a piece of their own. -/
def wordPieces (t : Text) : List Text := t.foldr addChar []

/-- Pieces with blanks in front taken into the first word; blanks alone make no word. -/
def joinFront : List Text → List Text
  | [] => []
  | [piece] => if piece.all isBlank then [] else [piece]
  | first :: second :: rest =>
    if first.all isBlank then (first ++ second) :: rest else first :: second :: rest

/-- The words of a text with the blanks around them. -/
def paddedWords (t : Text) : List Text := joinFront (wordPieces t)

/-- The words of a text. -/
def wordsOf (t : Text) : List Text := (paddedWords t).map trim

end Launcher.Text
