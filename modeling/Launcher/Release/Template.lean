import Launcher.Fault
import Launcher.Decimal.Reading
import Launcher.Text.Identifier
import Launcher.Text.Split
import Launcher.Value.Conversion

/-!
# Replacement templates

A replacement may refer to what it replaces: `\g<0>` stands for all of it. Other backslashes write
control characters by letter, and characters by three octal digits; before a character that is
neither letter nor digit a backslash stands for itself. A template without backslashes stands for
itself.
-/

namespace Launcher.Release

open Launcher.Decimal Launcher.Text

/-- The character that a letter or a backslash after a backslash stands for. -/
def controlChar? (c : Char) : Option Char :=
  match c with
  | 'a' => some (Char.ofNat 7)
  | 'b' => some (Char.ofNat 8)
  | 'f' => some (Char.ofNat 12)
  | 'n' => some '\n'
  | 'r' => some '\r'
  | 't' => some '\t'
  | 'v' => some (Char.ofNat 11)
  | '\\' => some '\\'
  | _ => none

/-- The character is an ASCII letter. -/
def isAsciiLetter (c : Char) : Bool := ('a' ≤ c && c ≤ 'z') || ('A' ≤ c && c ≤ 'Z')

/-- The character is an octal digit. -/
def isOctal (c : Char) : Bool := '0' ≤ c && c ≤ '7'

/-- The number that octal digits write. -/
def octalValue (cs : List Char) : Nat := cs.foldl (fun n c => 8 * n + (c.toNat - 48)) 0

/-- What a reference to a group by name or number stands for; there is only the whole, number 0. -/
def groupText (whole name : List Char) : Except Fault (List Char) :=
  if isIdentifier name then .error .outOfRange
  else match readInt (String.ofList name) with
    | .ok 0 => .ok whole
    | _ => .error .template

/-- What digits after a backslash stand for, and how many of them are used: `d` is the first. -/
def numbered (d : Char) (rest : List Char) : Except Fault (Char × Nat) :=
  let three := d :: rest.take 2
  if d = '0' then
    let ds := d :: (rest.take 2).takeWhile isOctal
    .ok (Char.ofNat (octalValue ds % 256), ds.length - 1)
  else if three.length = 3 && three.all isOctal && octalValue three ≤ 255 then
    .ok (Char.ofNat (octalValue three), 2)
  else .error .template

/-- What a template stands for where `whole` is replaced; `fuel` is at least its length. -/
def expandFrom (whole : List Char) : Nat → List Char → Except Fault (List Char)
  | _, [] => .ok []
  | 0, _ => .ok []
  | fuel + 1, c :: rest =>
    if c ≠ '\\' then (expandFrom whole fuel rest).map (c :: ·)
    else match rest with
      | [] => .error .template
      | d :: more =>
        if d = 'g' then
          match more with
          | '<' :: inner =>
            let name := inner.takeWhile (· != '>')
            if name.length = inner.length then .error .template
            else do
              let text ← groupText whole name
              (expandFrom whole fuel (inner.drop (name.length + 1))).map (text ++ ·)
          | _ => .error .template
        else if isAsciiDigit d then do
          let (e, used) ← numbered d more
          (expandFrom whole fuel (more.drop used)).map (e :: ·)
        else match controlChar? d with
          | some e => (expandFrom whole fuel more).map (e :: ·)
          | none =>
            if isAsciiLetter d then .error .template
            else (expandFrom whole fuel more).map fun cs => c :: d :: cs

/-- What a template stands for where `whole` is replaced. -/
def expand (whole template : List Char) : Except Fault (List Char) :=
  expandFrom whole template.length template

end Launcher.Release
