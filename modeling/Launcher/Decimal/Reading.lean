import Launcher.Decimal.Binary64
import Launcher.Text.Blank

/-!
# Numbers in texts

A number may be written with the decimal digits of any script, with spaces around it, with a sign
and with single underscores between digits. `readInt` reads whole numbers and refuses texts of more
than 4300 digits; `readFloat?` reads numbers with a point, an exponent, or the names of infinity and
of what is not a number, rounded to the nearest double.
-/

namespace Launcher.Decimal

open Launcher.Text

/-! ## Digits

Each script with decimal digits has its ten digits in a row, so the list of the first ones, the
digits of value 0, is enough. -/

/-- The digits of value 0 in Unicode 14, in ascending order. -/
def digitRows : List Nat := [
  48, 1632, 1776, 1984, 2406, 2534, 2662, 2790, 2918, 3046, 3174, 3302, 3430, 3558, 3664, 3792,
  3872, 4160, 4240, 6112, 6160, 6470, 6608, 6784, 6800, 6992, 7088, 7232, 7248, 42528, 43216,
  43264, 43472, 43504, 43600, 44016, 65296, 66720, 68912, 69734, 69872, 69942, 70096, 70384,
  70736, 70864, 71248, 71360, 71472, 71904, 72016, 72784, 73040, 73120, 92768, 92864, 93008,
  120782, 120792, 120802, 120812, 120822, 123200, 123632, 125264, 130032]

/-- The value of a decimal digit of any script. -/
def digitValue? (c : Char) : Option Nat :=
  (digitRows.find? fun row => row ≤ c.toNat && c.toNat < row + 10).map (c.toNat - ·)

/-- The value of an ASCII digit. -/
def asciiDigit? (c : Char) : Option Nat :=
  if '0' ≤ c && c ≤ '9' then some (c.toNat - 48) else none

/-- The character is an ASCII digit. -/
def isAsciiDigit (c : Char) : Bool := (asciiDigit? c).isSome

/-- The character is an ASCII space: tab to carriage return, or the space itself. -/
def isAsciiSpace (c : Char) : Bool := (9 ≤ c.toNat && c.toNat ≤ 13) || c == ' '

/-- The number that a row of ASCII digits writes; other characters are passed over. -/
def digitsValue (cs : List Char) : Nat :=
  cs.foldl (fun n c => match asciiDigit? c with
    | some d => 10 * n + d
    | none => n) 0

/-! ## Numbers of every script -/

/-- One code of a number in ASCII: digits and spaces of other scripts have an ASCII form, any other
code beyond ASCII becomes a character that no number holds. -/
def asciiForm : Code → Char
  | .half _ => '?'
  | .char c =>
    if c.toNat < 127 then c
    else if isBlank c then ' '
    else match digitValue? c with
      | some d => Char.ofNat (48 + d)
      | none => '?'

/-- A number text in ASCII without the spaces around it. -/
def asciiNumber (t : Text) : List Char :=
  let cs := (t.map asciiForm).dropWhile isAsciiSpace
  (cs.reverse.dropWhile isAsciiSpace).reverse

/-- Underscores stand only between two digits. -/
def underscoresFit : Char → List Char → Bool
  | last, [] => last != '_'
  | last, c :: rest =>
    (if c == '_' then isAsciiDigit last else last != '_' || isAsciiDigit c) &&
      underscoresFit c rest

/-- A sign in front of a number, if there is one, and the rest. -/
def splitSign : List Char → Bool × List Char
  | '-' :: rest => (true, rest)
  | '+' :: rest => (false, rest)
  | cs => (false, cs)

/-- Why a text is not read as a whole number. -/
inductive IntFault where
  | malformed
  | tooManyDigits (count : Nat)
deriving DecidableEq, Repr

/-- The most digits that a whole number in a text may have. -/
def maxDigits : Nat := 4300

/-- The whole number that a text writes. -/
def readInt (t : Text) : Except IntFault Int :=
  let (negative, cs) := splitSign (asciiNumber t)
  let body := cs.takeWhile fun c => isAsciiDigit c || c == '_'
  let count := (body.filter isAsciiDigit).length
  if !underscoresFit ' ' body then .error .malformed
  else if maxDigits < count then .error (.tooManyDigits count)
  else if body.isEmpty || body.length ≠ cs.length then .error .malformed
  else
    let n : Nat := digitsValue body
    .ok (if negative then -(n : Int) else n)

/-- A number with point and exponent before rounding: `digits * 10 ^ exponent`. -/
structure Scaled where
  digits : Nat
  exponent : Int
deriving DecidableEq, Repr

/-- An exponent with its sign, if the characters are one to their end. -/
def readExponent? : List Char → Option Int
  | [] => some 0
  | e :: rest =>
    let (negative, ds) := splitSign rest
    if (e == 'e' || e == 'E') && !ds.isEmpty && ds.all isAsciiDigit then
      let n : Nat := digitsValue ds
      some (if negative then -(n : Int) else n)
    else none

/-- A number without sign, if the characters are one to their end. -/
def readScaled? (cs : List Char) : Option Scaled :=
  let (before, rest) := cs.span isAsciiDigit
  let (after, tail) := match rest with
    | '.' :: more => more.span isAsciiDigit
    | other => ([], other)
  if before.isEmpty && after.isEmpty then none
  else (readExponent? tail).map fun e => ⟨digitsValue (before ++ after), e - after.length⟩

/-- An ASCII capital as its small letter. -/
def asciiLower (c : Char) : Char :=
  if 'A' ≤ c && c ≤ 'Z' then Char.ofNat (c.toNat + 32) else c

/-- The double that is not a number. -/
def notANumber : Float := Float.ofBits 0x7ff8000000000000

/-- Positive or negative infinity. -/
def infinite (negative : Bool) : Float := nearest negative (twoPow 1024) 1

/-- A double by name. -/
def readNamed? (negative : Bool) (cs : List Char) : Option Float :=
  let name := String.ofList (cs.map asciiLower)
  if name = "inf" || name = "infinity" then some (infinite negative)
  else if name = "nan" then some notANumber
  else none

/-- The double that characters write with ASCII digits alone, by a number or by name. -/
def readPlainFloat? (cs : List Char) : Option Float :=
  let (negative, body) := splitSign cs
  match readScaled? body with
  | some v => some (nearestDecimal negative v.digits v.exponent)
  | none => readNamed? negative body

/-- The double that a text writes. -/
def readFloat? (t : Text) : Option Float :=
  let cs := asciiNumber t
  if !underscoresFit ' ' cs then none else readPlainFloat? (cs.filter (· != '_'))

end Launcher.Decimal
