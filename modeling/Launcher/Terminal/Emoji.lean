import Launcher.Terminal.EmojiTable
import Launcher.Text.Blank
import Launcher.Text.Lowercase
import Launcher.Text.Split

/-!
# Emoji by name

In a text an emoji may be written as its name between colons, in any case: `:heart:`. The name may
end in `-emoji` or `-text`, which asks for a picture or for a plain character. A name that no emoji
has stays as it is, together with its colons.
-/

namespace Launcher.Terminal

open Launcher.Text

/-- The value of a hexadecimal digit, a capital one if it is a letter. -/
def hexValue (c : Code) : Nat := if c.toNat < 65 then c.toNat - 48 else c.toNat - 55

/-- The character whose number is written in hexadecimal. -/
def charOfHex (t : Text) : Char := Char.ofNat (t.foldl (fun n c => 16 * n + hexValue c) 0)

/-- An emoji in a row: its name and its characters. -/
def readEmoji (field : Text) : Text × Text :=
  let name := field.takeWhile (· != .char '=')
  (name, ofChars ((splitAt (.char '+') (field.drop (name.length + 1))).map charOfHex))

/-- Every emoji with its name. -/
def emojis : List (Text × Text) :=
  emojiRows.flatMap fun row => (splitAt (.char ' ') (ofString row)).map readEmoji

/-- The characters of an emoji. -/
def emojiNamed? (name : Text) : Option Text := emojis.lookup name

/-- A name without the words for its form, and the selector of that form. -/
def splitForm (name : Text) : Text × Text :=
  match dropStart? (ofString "-emoji").reverse name.reverse with
  | some start => (start.reverse, [Char.ofNat 0xFE0F])
  | none =>
    match dropStart? (ofString "-text").reverse name.reverse with
    | some start => (start.reverse, [Char.ofNat 0xFE0E])
    | none => (name, [])

/-- What is shown for a name between colons. -/
def shownEmoji (named : Text) : Text :=
  let (name, selector) := splitForm named
  match emojiNamed? (lower name) with
  | some signs => signs ++ selector
  | none => ":" ++ named ++ ":"

/-- A name and what follows the colon at its end, if the characters begin with one. -/
def nextName? (t : Text) : Option (Text × Text) :=
  let name := t.takeWhile fun c => c != .char ':' && !isBlank c
  match t.drop name.length with
  | .char ':' :: rest => some (name, rest)
  | _ => none

/-- The text with emoji for their names; `fuel` is at least its length. -/
def withEmojiFrom : Nat → Text → Text
  | 0, t => t
  | _, [] => []
  | fuel + 1, c :: rest =>
    match if c = ':' then nextName? rest else none with
    | some (name, after) => shownEmoji name ++ withEmojiFrom fuel after
    | none => c :: withEmojiFrom fuel rest

/-- The text with emoji for their names. -/
def withEmoji (t : Text) : Text := withEmojiFrom t.length t

end Launcher.Terminal
