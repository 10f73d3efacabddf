import Launcher.Value
import Launcher.Decimal.Reading

/-!
# Reading documents

`readDocument` reads one JSON value from a text and refuses anything that follows it. Beyond the
standard it takes the names `NaN`, `Infinity` and `-Infinity` for numbers. A number without point
and exponent is whole and keeps its size; of a key that occurs again the last value counts, in the
place of the first. A character may be given by number; half of a pair that stands alone is kept as
such. A fault tells what was expected and where: the place in the whole text, and the line and
column of it.

Each reading function takes the place of the next code and the codes that are left, and gives back
both after what it has read.
-/

namespace Launcher.Json

open Launcher.Decimal

/-- What a document was refused for. -/
inductive Complaint where
  | byteOrderMark
  | value
  | extraData
  | propertyName
  | colon
  | comma
  | unterminatedText
  | controlCharacter
  | escape
  | numberedEscape
deriving DecidableEq, Repr

/-- The wording of a complaint. -/
def Complaint.message : Complaint → String
  | .byteOrderMark => "Unexpected UTF-8 BOM (decode using utf-8-sig)"
  | .value => "Expecting value"
  | .extraData => "Extra data"
  | .propertyName => "Expecting property name enclosed in double quotes"
  | .colon => "Expecting ':' delimiter"
  | .comma => "Expecting ',' delimiter"
  | .unterminatedText => "Unterminated string starting at"
  | .controlCharacter => "Invalid control character at"
  | .escape => "Invalid \\escape"
  | .numberedEscape => "Invalid \\uXXXX escape"

/-- Why a text is not read as a document. -/
inductive Fault where
  | malformed (complaint : Complaint) (line column place : Nat)
  | tooManyDigits (count : Nat)
deriving DecidableEq, Repr

/-- A fault before its place is turned into line and column. -/
inductive Stop where
  | at (complaint : Complaint) (place : Nat)
  | tooManyDigits (count : Nat)

/-- What has been read, the place after it and the codes left. -/
abbrev Read (α : Type) := α × Nat × Text

/-- The code may stand between the parts of a document. -/
def isSpace (c : Code) : Bool := c == ' ' || c == '\t' || c == '\n' || c == '\r'

/-- Passes over spaces. -/
def skipSpaces (place : Nat) : Text → Nat × Text
  | [] => (place, [])
  | c :: rest => if isSpace c then skipSpaces (place + 1) rest else (place, c :: rest)

/-- The value of a hexadecimal digit. -/
def hexDigit? : Code → Option Nat
  | .half _ => none
  | .char c =>
    if '0' ≤ c && c ≤ '9' then some (c.toNat - 48)
    else if 'a' ≤ c && c ≤ 'f' then some (c.toNat - 87)
    else if 'A' ≤ c && c ≤ 'F' then some (c.toNat - 55)
    else none

/-- The number that exactly four hexadecimal digits write. -/
def hexNumber? (cs : Text) : Option Nat :=
  if cs.length = 4 then
    cs.foldlM (fun n c => (hexDigit? c).map (16 * n + ·)) 0
  else none

/-- The character that a letter after a backslash stands for. -/
def escapedChar? (c : Code) : Option Code :=
  if c = '"' || c = '\\' || c = '/' then some c
  else if c = 'b' then some ↑(Char.ofNat 8)
  else if c = 'f' then some ↑(Char.ofNat 12)
  else if c = 'n' then some (.char '\n')
  else if c = 'r' then some (.char '\r')
  else if c = 't' then some (.char '\t')
  else none

/-- A character number between 0xD800 and 0xDBFF, the first half of a pair. -/
def isHighHalf (n : Nat) : Bool := 0xD800 ≤ n && n < 0xDC00

/-- A character number between 0xDC00 and 0xDFFF, the second half of a pair. -/
def isLowHalf (n : Nat) : Bool := 0xDC00 ≤ n && n < 0xE000

/-- A code given by number after a backslash and a `u` at `place`, and how many codes after the `u`
it takes: four digits, or ten when the two halves of a pair follow each other and make up a
character. Something must follow the digits. -/
def readNumbered (place : Nat) (cs : Text) : Except Stop (Code × Nat) :=
  if cs.length ≤ 4 then .error (.at .numberedEscape place)
  else match hexNumber? (cs.take 4) with
    | none => .error (.at .numberedEscape place)
    | some n =>
      let next := cs.drop 4
      if isHighHalf n && next.take 2 == "\\u" && 6 < next.length then
        match hexNumber? ((next.drop 2).take 4) with
        | none => .error (.at .numberedEscape (place + 6))
        | some m =>
          if isLowHalf m then
            .ok (Char.ofNat (0x10000 + (n - 0xD800) * 0x400 + (m - 0xDC00)), 10)
          else .ok (Code.ofNat n, 4)
      else .ok (Code.ofNat n, 4)

/-- The rest of a text whose opening quote stands at `start`; `done` holds what has been read,
backwards. `fuel` is more than the number of codes left. -/
def readCodes (start : Nat) : Nat → Text → Nat → Text → Except Stop (Read Text)
  | 0, _, _, _ => .error (.at .unterminatedText start)
  | _, _, _, [] => .error (.at .unterminatedText start)
  | fuel + 1, done, place, c :: rest =>
    if c = '"' then .ok (done.reverse, place + 1, rest)
    else if c = '\\' then
      match rest with
      | [] => .error (.at .unterminatedText start)
      | e :: more =>
        if e = 'u' then
          match readNumbered (place + 1) more with
          | .error stop => .error stop
          | .ok (d, taken) =>
            readCodes start fuel (d :: done) (place + 2 + taken) (more.drop taken)
        else match escapedChar? e with
          | some d => readCodes start fuel (d :: done) (place + 2) more
          | none => .error (.at .escape place)
    else if c.toNat < 0x20 then .error (.at .controlCharacter place)
    else readCodes start fuel (c :: done) (place + 1) rest

/-- A text from its opening quote at `place` on. -/
def readText (place : Nat) (afterQuote : Text) : Except Stop (Read Text) :=
  readCodes place (afterQuote.length + 1) [] (place + 1) afterQuote

/-- The characters of the whole part of a number. -/
def wholePart : List Char → List Char
  | '0' :: _ => ['0']
  | cs => cs.takeWhile isAsciiDigit

/-- The point and the digits behind it, if both are there. -/
def fractionPart : List Char → List Char
  | '.' :: rest =>
    let ds := rest.takeWhile isAsciiDigit
    if ds.isEmpty then [] else '.' :: ds
  | _ => []

/-- The exponent letter, a sign if there is one, and the digits, if there are any. -/
def exponentPart : List Char → List Char
  | e :: rest =>
    if e = 'e' || e = 'E' then
      let sign := match rest with
        | '+' :: _ => ['+']
        | '-' :: _ => ['-']
        | _ => []
      let ds := (rest.drop sign.length).takeWhile isAsciiDigit
      if ds.isEmpty then [] else e :: sign ++ ds
    else []
  | [] => []

/-- The character can stand in a number. -/
def isNumberChar (c : Char) : Bool :=
  isAsciiDigit c || c == '+' || c == '-' || c == '.' || c == 'e' || c == 'E'

/-- The characters at the start that can stand in a number. -/
def numberChars : Text → List Char
  | .char c :: rest => if isNumberChar c then c :: numberChars rest else []
  | _ => []

/-- A number; `place` is where it begins, its sign included. -/
def readNumber (place : Nat) (t : Text) : Except Stop (Read Value) :=
  let cs := numberChars t
  let sign := if cs.head? = some '-' then ['-'] else []
  let afterSign := cs.drop sign.length
  let whole := wholePart afterSign
  let fraction := fractionPart (afterSign.drop whole.length)
  let exponent := exponentPart (afterSign.drop (whole.length + fraction.length))
  let size := sign.length + whole.length + fraction.length + exponent.length
  let digits := whole ++ fraction.drop 1
  if whole.isEmpty then .error (.at .value place)
  else if fraction.isEmpty && exponent.isEmpty then
    if maxDigits < whole.length then .error (.tooManyDigits whole.length)
    else
      let n : Nat := digitsValue whole
      .ok (.int (if sign.isEmpty then n else -(n : Int)), place + size, t.drop size)
  else
    let e := (readExponent? exponent).getD 0 - (fraction.drop 1).length
    .ok (.float (nearestDecimal (!sign.isEmpty) (digitsValue digits) e), place + size,
      t.drop size)

/-- The values that are written as names. -/
def names : List (Text × Value) :=
  [("null", .null), ("true", .bool true), ("false", .bool false), ("NaN", .float notANumber),
    ("Infinity", .float (infinite false)), ("-Infinity", .float (infinite true))]

/-- A value written as a name, if one begins here. -/
def readName? (place : Nat) (cs : Text) : Option (Read Value) :=
  (names.find? fun (name, _) => name.isPrefixOf cs).map fun (name, v) =>
    (v, place + name.length, cs.drop name.length)

mutual

/-- A value that begins at `place`; `fuel` is more than the number of codes left. -/
def readValue : Nat → Nat → Text → Except Stop (Read Value)
  | 0, place, _ => .error (.at .value place)
  | fuel + 1, place, cs =>
    match cs with
    | .char '"' :: rest => do
      let (t, next, left) ← readText place rest
      .ok (.text t, next, left)
    | .char '\x7b' :: rest =>
      let (next, left) := skipSpaces (place + 1) rest
      if left.head? = some (.char '\x7d') then .ok (.object [], next + 1, left.drop 1)
      else readFields fuel [] next left
    | .char '[' :: rest =>
      let (next, left) := skipSpaces (place + 1) rest
      if left.head? = some (.char ']') then .ok (.list [], next + 1, left.drop 1)
      else readItems fuel [] next left
    | _ =>
      match readName? place cs with
      | some found => .ok found
      | none => readNumber place cs

/-- The items of a list from its first one on; `done` holds those already read, backwards. -/
def readItems : Nat → List Value → Nat → Text → Except Stop (Read Value)
  | 0, _, place, _ => .error (.at .value place)
  | fuel + 1, done, place, cs => do
    let (v, next, left) ← readValue fuel place cs
    let (next, left) := skipSpaces next left
    match left with
    | .char ']' :: rest => .ok (.list (v :: done).reverse, next + 1, rest)
    | .char ',' :: rest =>
      let (next, left) := skipSpaces (next + 1) rest
      readItems fuel (v :: done) next left
    | _ => .error (.at .comma next)

/-- The fields of an object from its first one on; `done` holds those already read. -/
def readFields : Nat → Fields → Nat → Text → Except Stop (Read Value)
  | 0, _, place, _ => .error (.at .propertyName place)
  | fuel + 1, done, place, cs =>
    match cs with
    | .char '"' :: rest => do
      let (key, next, left) ← readText place rest
      let (next, left) := skipSpaces next left
      match left with
      | .char ':' :: more =>
        let (next, left) := skipSpaces (next + 1) more
        let (v, next, left) ← readValue fuel next left
        let (next, left) := skipSpaces next left
        let fields := done.put key v
        match left with
        | .char '\x7d' :: rest => .ok (.object fields, next + 1, rest)
        | .char ',' :: rest =>
          let (next, left) := skipSpaces (next + 1) rest
          readFields fuel fields next left
        | _ => .error (.at .comma next)
      | _ => .error (.at .colon next)
    | _ => .error (.at .propertyName place)

end

/-- A whole document, with faults by place. -/
def readWhole (cs : Text) : Except Stop Value :=
  if cs.head? = some ↑(Char.ofNat 0xFEFF) then .error (.at .byteOrderMark 0)
  else do
    let (place, left) := skipSpaces 0 cs
    let (v, next, left) ← readValue (2 * cs.length + 2) place left
    let (next, left) := skipSpaces next left
    if left.isEmpty then .ok v else .error (.at .extraData next)

/-- The fault at a place of a text, with line and column. -/
def Stop.toFault (cs : Text) : Stop → Fault
  | .tooManyDigits n => .tooManyDigits n
  | .at complaint place =>
    let before := cs.take place
    let lines := before.count (.char '\n')
    let column := (before.reverse.takeWhile fun c : Code => c != '\n').length
    .malformed complaint (lines + 1) (column + 1) place

/-- The value that a document holds. -/
def readDocument (t : Text) : Except Fault Value :=
  match readWhole t with
  | .ok v => .ok v
  | .error stop => .error (stop.toFault t)

/-- The text of a fault. -/
def Fault.message : Fault → String
  | .malformed complaint line column place =>
    complaint.message ++ ": line " ++ toString line ++ " column " ++ toString column ++
      " (char " ++ toString place ++ ")"
  | .tooManyDigits count =>
    "Exceeds the limit (" ++ toString maxDigits ++ " digits) for integer string conversion: " ++
      "value has " ++ toString count ++ " digits; use sys.set_int_max_str_digits() to increase " ++
      "the limit"

end Launcher.Json
