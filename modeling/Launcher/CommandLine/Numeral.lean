import Launcher.Decimal.Reading
import Launcher.Text.Blank

/-!
# Numbers as values of options

Numbers on a command line are written with ASCII digits, and space around them does not count.

A whole number (`readWhole?`) may end in a point and one or more zeros. Zeros in front of it do not
count and may have any number of underscores among them; a minus sign stands before or behind these
zeros. Behind them single underscores between digits do not count, and there are at most `maxDigits`
digits, of which a minus sign takes one.

Numbers in general (`readNumber?`) may have a point and an exponent, or be names. They may have
single underscores inside, but then admit no space around them.

The launcher leaves this to its option parser, too. It is kept apart from the numbers in documents
and payloads (`Decimal.readInt`, `Decimal.readFloat?`), which take more forms.
-/

namespace Launcher.CommandLine

open Launcher.Decimal Launcher.Text

/-- The character is white space: blank, and none of the four control characters that separate
information. -/
def isWhiteSpace (c : Char) : Bool := isBlank c && !(28 ≤ c.toNat && c.toNat ≤ 31)

/-- The characters without white space at either end. -/
def withoutSpace (cs : List Char) : List Char :=
  ((cs.dropWhile isWhiteSpace).reverse.dropWhile isWhiteSpace).reverse

/-- A number without its point and places, if these are zeros; a point without places stays. -/
def withoutZeroPlaces : List Char → List Char
  | [] => []
  | c :: rest =>
    if c == '.' && !rest.isEmpty && rest.all (· == '0') then [] else c :: withoutZeroPlaces rest

/-- A number without the zeros and underscores in front; the last character always stays. -/
def withoutFrontZeros : List Char → List Char
  | [] => []
  | [c] => [c]
  | c :: d :: rest =>
    if c == '0' || c == '_' then withoutFrontZeros (d :: rest) else c :: d :: rest

/-- No underscore stands next to another one or at the end; `last` is the character before. -/
def underscoresApart : Char → List Char → Bool
  | last, [] => last != '_'
  | last, c :: rest => (last != '_' || c != '_') && underscoresApart c rest

/-- The characters without underscores, if each of these stands alone between two others. -/
def withoutUnderscores (cs : List Char) : List Char :=
  if underscoresApart '_' cs then cs.filter (· != '_') else cs

/-- The number that ASCII digits write behind its sign, zero being the only one that begins with
a zero. A minus sign counts as a digit. -/
def readDigits? (negative : Bool) (digits : List Char) : Option Int :=
  if digits.isEmpty || !digits.all isAsciiDigit then none
  else if digits.head? == some '0' && digits.length ≠ 1 then none
  else if maxDigits < digits.length + (if negative then 1 else 0) then none
  else
    let n : Nat := digitsValue digits
    some (if negative then -(n : Int) else n)

/-- The whole number that characters write. -/
def wholeOf? (cs : List Char) : Option Int :=
  let (negative, given) := splitSign (withoutSpace cs)
  if !given.head?.any isAsciiDigit then none
  else match negative, withoutUnderscores (withoutFrontZeros (withoutZeroPlaces given)) with
    | false, '-' :: digits => readDigits? true digits
    | sign, digits => readDigits? sign digits

/-- The whole number that a text writes; none holds half of a pair. -/
def readWhole? (t : Text) : Option Int :=
  match charsFrom 0 t with
  | .ok cs => wholeOf? cs
  | .error _ => none

/-- The number that a text writes, rounded to the nearest double; none holds half of a pair. -/
def readNumber? (t : Text) : Option Float :=
  match charsFrom 0 t with
  | .ok cs => (readPlainFloat? (withoutSpace cs)).or (readPlainFloat? (withoutUnderscores cs))
  | .error _ => none

end Launcher.CommandLine
