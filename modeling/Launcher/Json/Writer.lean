import Launcher.Value
import Launcher.Decimal.Reading
import Launcher.Decimal.Shortest
import Launcher.Text.Quoted

/-!
# Writing documents

A value is written as JSON either on one line, with a space after each comma and colon, or indented
by two spaces a level, an item to a line. Text keeps its codes, halves of pairs included: only the
quote, the backslash and control characters are escaped. What is not finite is written by name.
Whole numbers of more than 4300 digits are refused, as they are when they are read; `isWritable`
tells whether there is none.
-/

namespace Launcher.Json

open Launcher.Decimal Launcher.Text

/-- A code of a text in a document. -/
def writtenCode (c : Code) : Text :=
  if c = doubleQuote || c = backslash then [↑backslash, c]
  else if c = '\n' then ofChars [backslash, 'n']
  else if c = '\r' then ofChars [backslash, 'r']
  else if c = '\t' then ofChars [backslash, 't']
  else if c.toNat = 8 then ofChars [backslash, 'b']
  else if c.toNat = 12 then ofChars [backslash, 'f']
  else if c.toNat < 0x20 then numbered 'u' 4 c.toNat
  else [c]

/-- A text in a document. -/
def writtenText (t : Text) : Text :=
  .char doubleQuote :: t.flatMap writtenCode ++ [.char doubleQuote]

/-- What stands between the parts of a list or an object. -/
structure Layout where
  /-- After the opening bracket of something that is not empty, by level. -/
  opening : Nat → Text
  /-- Between two items, by level. -/
  between : Nat → Text
  /-- Before the closing bracket of something that is not empty, by level. -/
  closing : Nat → Text

/-- A new line with two spaces for each level. -/
def newLine (level : Nat) : Text := ofChars ('\n' :: List.replicate (2 * level) ' ')

/-- Everything on one line. -/
def Layout.oneLine : Layout := ⟨fun _ => "", fun _ => ", ", fun _ => ""⟩

/-- An item to a line, two spaces a level. -/
def Layout.indented : Layout :=
  ⟨fun level => newLine (level + 1), fun level => "," ++ newLine (level + 1), newLine⟩

mutual

/-- A value at a level of nesting. -/
def writeAt (layout : Layout) (level : Nat) : Value → Text
  | .null => "null"
  | .bool b => if b then "true" else "false"
  | .int n => toString n
  | .float x => documentStyle.write x
  | .text t => writtenText t
  | .list [] => "[]"
  | .list items =>
    "[" ++ layout.opening level ++
      List.intercalate (layout.between level) (writeItems layout (level + 1) items) ++
      layout.closing level ++ "]"
  | .object [] => "\x7b\x7d"
  | .object fields =>
    "\x7b" ++ layout.opening level ++
      List.intercalate (layout.between level) (writeFields layout (level + 1) fields) ++
      layout.closing level ++ "\x7d"

/-- The items of a list. -/
def writeItems (layout : Layout) (level : Nat) : List Value → List Text
  | [] => []
  | v :: rest => writeAt layout level v :: writeItems layout level rest

/-- The fields of an object. -/
def writeFields (layout : Layout) (level : Nat) : List (Text × Value) → List Text
  | [] => []
  | (k, v) :: rest =>
    (writtenText k ++ ": " ++ writeAt layout level v) :: writeFields layout level rest

end

mutual

/-- Every whole number in the value is short enough to be written. -/
def isWritable : Value → Bool
  | .int n => (digitChars n.natAbs).length ≤ maxDigits
  | .list items => areWritable items
  | .object fields => haveWritableValues fields
  | _ => true

/-- Every whole number in the values is short enough to be written. -/
def areWritable : List Value → Bool
  | [] => true
  | v :: rest => isWritable v && areWritable rest

/-- Every whole number in the values of the fields is short enough to be written. -/
def haveWritableValues : List (Text × Value) → Bool
  | [] => true
  | (_, v) :: rest => isWritable v && haveWritableValues rest

end

/-- A value as a document. -/
def write (layout : Layout) (v : Value) : Text := writeAt layout 0 v

end Launcher.Json
