import Launcher.Terminal.ColourTable
import Launcher.Text.Blank
import Launcher.Text.Lowercase
import Launcher.Text.Split
import Launcher.Text.Words
import Launcher.Value.Conversion

/-!
# Styles

A style is written in words: effects such as `bold` or `not dim`, a colour, `on` with a colour of
the background, and `link` with an address. Effects have short names as well, colours are names,
numbers or mixtures, and a word that is given twice counts as given last.

Two texts name the same style when `Style.normalName` gives the same for both: the words of the
style in a fixed order, or the text itself in lowercase where it names none.
-/

namespace Launcher.Terminal

open Launcher.Text

/-- What a style switches on or off, in the order in which it is written. -/
inductive Effect where
  | bold
  | dim
  | italic
  | underline
  | blink
  | blink2
  | reverse
  | conceal
  | strike
  | underline2
  | frame
  | encircle
  | overline
deriving DecidableEq, Repr

namespace Effect

/-- Every effect, in the order in which they are written. -/
def all : List Effect :=
  [bold, dim, italic, underline, blink, blink2, reverse, conceal, strike, underline2, frame,
    encircle, overline]

/-- The word for an effect. -/
def name : Effect → Text
  | bold => "bold"
  | dim => "dim"
  | italic => "italic"
  | underline => "underline"
  | blink => "blink"
  | blink2 => "blink2"
  | reverse => "reverse"
  | conceal => "conceal"
  | strike => "strike"
  | underline2 => "underline2"
  | frame => "frame"
  | encircle => "encircle"
  | overline => "overline"

/-- The short word for an effect that has one. -/
def shortName? : Effect → Option Text
  | bold => some "b"
  | dim => some "d"
  | italic => some "i"
  | underline => some "u"
  | reverse => some "r"
  | conceal => some "c"
  | strike => some "s"
  | underline2 => some "uu"
  | overline => some "o"
  | _ => none

/-- The effect that a word stands for. -/
def read? (word : Text) : Option Effect :=
  all.find? fun effect => effect.name == word || effect.shortName? == some word

end Effect

/-- A style: the effects that it switches on or off, the last one first, its colours, and the
address that it links to. -/
structure Style where
  switches : List (Effect × Bool)
  colour : Option Text
  background : Option Text
  link : Option Text

/-- The part of a word between a beginning and a closing bracket. -/
def inBrackets? (start : String) (word : List Char) : Option (List Char) :=
  match (dropStart? start.toList word).map List.reverse with
  | some (')' :: inside) => some inside.reverse
  | _ => none

/-- The character is a hexadecimal digit, a small one if it is a letter. -/
def isHexDigit (c : Char) : Bool := ('0' ≤ c && c ≤ '9') || ('a' ≤ c && c ≤ 'f')

/-- Three parts of a mixture are a colour when each is at most 255; each must be a number. -/
def isMixture (parts : List (List Char)) : Except Fault Bool :=
  match parts with
  | [_, _, _] => do
    let values ← parts.mapM fun part => (Value.text (ofChars part)).toInt
    .ok (values.all (· ≤ 255))
  | _ => .ok false

/-- Characters in lowercase are a colour. -/
def charsAreColour (word : List Char) : Except Fault Bool :=
  if word = "default".toList || colourNames.contains (String.ofList word) then .ok true
  else
    match word, inBrackets? "color(" word, inBrackets? "rgb(" word with
    | '#' :: digits, _, _ => .ok (digits.length == 6 && digits.all isHexDigit)
    | _, some digits, _ =>
      .ok (!digits.isEmpty && digits.length ≤ 3 && digits.all Decimal.isAsciiDigit &&
        Decimal.digitsValue digits ≤ 255)
    | _, _, some parts =>
      if !parts.isEmpty && parts.all fun c => c == ',' || (Decimal.digitValue? c).isSome then
        isMixture (splitAt ',' parts)
      else .ok false
    | _, _, _ => .ok false

/-- A word in lowercase is a colour; none holds half of a pair. -/
def isColour (word : Text) : Except Fault Bool :=
  match charsFrom 0 word with
  | .ok cs => charsAreColour cs
  | .error _ => .ok false

namespace Style

/-- The style without any effect. -/
def plain : Style := ⟨[], none, none, none⟩

/-- The style that a text names in words, beginning with what `style` has; none if a word has no
meaning in its place. -/
def ofWords (style : Style) : List Text → Except Fault (Option Style)
  | [] => .ok (some style)
  | given :: rest =>
    let word := lower given
    if word = "on" then
      match rest with
      | [] => .ok none
      | next :: rest => do
        let colour := lower next
        if ← isColour colour then ofWords { style with background := some colour } rest
        else .ok none
    else if word = "not" then
      match rest with
      | [] => .ok none
      | next :: rest =>
        match Effect.read? next with
        | some effect =>
          ofWords { style with switches := (effect, false) :: style.switches } rest
        | none => .ok none
    else if word = "link" then
      match rest with
      | [] => .ok none
      | next :: rest => ofWords { style with link := some next } rest
    else
      match Effect.read? word with
      | some effect =>
        ofWords { style with switches := (effect, true) :: style.switches } rest
      | none => do
        if ← isColour word then ofWords { style with colour := some word } rest else .ok none

/-- The style that a text names, if it names one. -/
def read? (cs : Text) : Except Fault (Option Style) :=
  if trim cs = "none" then .ok (some plain) else ofWords plain (wordsOf cs)

/-- The words for an effect that a style switches. -/
def switchWords (style : Style) (effect : Effect) : List Text :=
  match style.switches.lookup effect with
  | some true => [effect.name]
  | some false => ["not", effect.name]
  | none => []

/-- The words of a style in their fixed order. -/
def words (style : Style) : List Text :=
  Effect.all.flatMap style.switchWords ++ style.colour.toList ++
    (style.background.map fun colour => [ofString "on", colour]).getD [] ++
    (style.link.map fun address => [ofString "link", address]).getD []

/-- A style in words. -/
def text (style : Style) : Text :=
  if style.words.isEmpty then "none" else joinWith (.char ' ') style.words

/-- The name that all texts for the same style have in common. -/
def normalName (cs : Text) : Except Fault Text := do
  match ← read? cs with
  | some style => .ok style.text
  | none => .ok (lower (trim cs))

end Style

end Launcher.Terminal
