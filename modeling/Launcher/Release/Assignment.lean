import Launcher.Text.Blank
import Launcher.Text.Split

/-!
# Assignments in a text

An assignment begins at the start of a line and ends at the end of one: a key, an equals sign with
blank characters on both sides, and a value in double quotes that is not empty and holds no quote.
Blanks and value may run over several lines.

`Located.find? key cs` cuts a text at the first assignment of a key.

Modelled is the pattern by which both files are searched, as a reader of its own.
-/

namespace Launcher.Release

open Launcher.Text

/-- What follows a given character after blank characters, if it is there. -/
def afterBlanksAnd? (c : Char) (cs : List Char) : Option (List Char) :=
  dropStart? [c] (cs.dropWhile fun d => isBlank d)

/-- What follows a value and its closing quote, if the value is not empty and the line ends
there. -/
def afterQuoted? (cs : List Char) : Option (List Char) :=
  match cs.span (· != '"') with
  | (_ :: _, '"' :: rest) =>
    match rest with
    | [] => some rest
    | c :: _ => if c = '\n' then some rest else none
  | _ => none

/-- What follows an assignment of a key, if the characters begin with one. -/
def afterAssignment? (key cs : List Char) : Option (List Char) := do
  let rest ← dropStart? key cs
  let rest ← afterBlanksAnd? '=' rest
  let rest ← afterBlanksAnd? '"' rest
  afterQuoted? rest

/-- A text cut in three at an assignment. -/
structure Located where
  before : List Char
  assignment : List Char
  after : List Char

/-- The text cut at the first assignment of a key; `lineStart` says that it begins with a line. -/
def Located.findFrom? (key : List Char) (lineStart : Bool) : List Char → Option Located
  | [] => none
  | c :: rest =>
    let here := if lineStart then afterAssignment? key (c :: rest) else none
    match here with
    | some after => some ⟨[], (c :: rest).take (rest.length + 1 - after.length), after⟩
    | none =>
      (findFrom? key (c == '\n') rest).map fun located =>
        { located with before := c :: located.before }

/-- The text cut at the first assignment of a key. -/
def Located.find? (key cs : List Char) : Option Located := findFrom? key true cs

/-- The text with other characters in place of the assignment. -/
def Located.replace (located : Located) (cs : List Char) : List Char :=
  located.before ++ cs ++ located.after

/-- The assignment of a value to a key as it is written. -/
def written (key value : List Char) : List Char := key ++ [' ', '=', ' ', '"'] ++ value ++ ['"']

end Launcher.Release
