import Launcher.Text.Quoted

/-!
# Characters and octets

`decodeUtf8` reads octets as UTF-8 and stops at the first octet that does not fit, telling where the
unfit sequence begins, where it ends and what is wrong with it: an octet that starts nothing, a
sequence that breaks off inside, or one that the end of the data cuts short.

The other way, a text without halves has octets, and the name of a file may hold those halves that
stand for octets which are no UTF-8.
-/

namespace Launcher.Text

/-- What is wrong with a sequence of octets. -/
inductive OctetFault where
  | badStart
  | badContinuation
  | cutShort
deriving DecidableEq, Repr

/-- The octets from `start` up to `stop` are not UTF-8; `octet` is the first of them. -/
structure Utf8Fault where
  fault : OctetFault
  octet : UInt8
  start : Nat
  stop : Nat
deriving DecidableEq, Repr

/-- The octet continues a sequence. -/
def isContinuation (b : UInt8) : Bool := 0x80 ≤ b && b < 0xC0

/-- The least and greatest second octet after a first octet. -/
def secondBounds (first : UInt8) : UInt8 × UInt8 :=
  if first = 0xE0 then (0xA0, 0xBF)
  else if first = 0xED then (0x80, 0x9F)
  else if first = 0xF0 then (0x90, 0xBF)
  else if first = 0xF4 then (0x80, 0x8F)
  else (0x80, 0xBF)

/-- The number of octets in a sequence by its first octet, 0 if it starts none. -/
def sequenceLength (first : UInt8) : Nat :=
  if first < 0x80 then 1
  else if first < 0xC2 then 0
  else if first < 0xE0 then 2
  else if first < 0xF0 then 3
  else if first < 0xF5 then 4
  else 0

/-- How many of the octets after `first` fit behind it, at most `want`. -/
def fittingTail (first : UInt8) (want : Nat) (rest : List UInt8) : Nat :=
  let (low, high) := secondBounds first
  match rest.take want with
  | [] => 0
  | second :: more =>
    if low ≤ second && second ≤ high then 1 + (more.takeWhile isContinuation).length else 0

/-- The character number of a whole sequence. -/
def sequenceValue (first : UInt8) (tail : List UInt8) : Nat :=
  let lead := match tail.length with
    | 0 => first.toNat
    | 1 => first.toNat % 0x20
    | 2 => first.toNat % 0x10
    | _ => first.toNat % 0x08
  tail.foldl (fun n b => n * 64 + b.toNat % 64) lead

/-- The characters that octets write from place `start` on; `fuel` is at least their number. -/
def decodeFrom : Nat → Nat → List UInt8 → Except Utf8Fault (List Char)
  | _, _, [] => .ok []
  | 0, _, _ => .ok []
  | fuel + 1, start, first :: rest =>
    let size := sequenceLength first
    if size = 0 then .error ⟨.badStart, first, start, start + 1⟩
    else
      let fit := fittingTail first (size - 1) rest
      if fit = size - 1 then
        let c := Char.ofNat (sequenceValue first (rest.take fit))
        (decodeFrom fuel (start + size) (rest.drop fit)).map (c :: ·)
      else if rest.length = fit then
        .error ⟨.cutShort, first, start, start + 1 + fit⟩
      else .error ⟨.badContinuation, first, start, start + 1 + fit⟩

/-- The characters that octets write in UTF-8. -/
def decodeUtf8 (octets : List UInt8) : Except Utf8Fault (List Char) :=
  decodeFrom octets.length 0 octets

/-- The text of the fault. -/
def OctetFault.message : OctetFault → String
  | .badStart => "invalid start byte"
  | .badContinuation => "invalid continuation byte"
  | .cutShort => "unexpected end of data"

/-- The text of the fault with its place. -/
def Utf8Fault.message (f : Utf8Fault) : String :=
  if f.stop = f.start + 1 then
    "'utf-8' codec can't decode byte 0x" ++ String.ofList (hexChars 2 f.octet.toNat) ++
      " in position " ++ toString f.start ++ ": " ++ f.fault.message
  else
    "'utf-8' codec can't decode bytes in position " ++ toString f.start ++ "-" ++
      toString (f.stop - 1) ++ ": " ++ f.fault.message

/-- The text of the fault of halves that cannot be written. -/
def Halves.message (halves : Halves) : String :=
  if halves.stop = halves.start + 1 then
    "'utf-8' codec can't encode character '\\u" ++
      String.ofList (hexChars 4 (0xD800 + halves.first)) ++ "' in position " ++
      toString halves.start ++ ": surrogates not allowed"
  else
    "'utf-8' codec can't encode characters in position " ++ toString halves.start ++ "-" ++
      toString (halves.stop - 1) ++ ": surrogates not allowed"

/-- The octets of a code in the name of a file: those of a character in UTF-8, and for a half
between 0xDC80 and 0xDCFF the octet that was held as this half. Other halves have none. -/
def nameOctets? : Code → Option (List UInt8)
  | .char c => some (String.utf8EncodeChar c)
  | .half n => if 0x480 ≤ n.val ∧ n.val < 0x500 then some [UInt8.ofNat (n.val - 0x400)] else none

/-- Characters with every kind of line end written as a line feed. -/
def unifyLineEnds : List Char → List Char
  | [] => []
  | '\r' :: '\n' :: rest => '\n' :: unifyLineEnds rest
  | '\r' :: rest => '\n' :: unifyLineEnds rest
  | c :: rest => c :: unifyLineEnds rest

end Launcher.Text
