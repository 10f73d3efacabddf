import Launcher.Fault
import Launcher.Text.Blank

/-!
# Versions

A version is three numbers with points between them; after the third, letters, digits, points, plus
and minus signs may follow. `normalize` takes spaces off both ends and a `v` off the front.

Modelled is `_normalize_version` with its pattern.
-/

namespace Launcher.Release

open Launcher.Decimal Launcher.Text

/-- The character may follow the third number of a version. -/
def isSuffixChar (c : Char) : Bool :=
  isAsciiDigit c || ('A' ≤ c && c ≤ 'Z') || ('a' ≤ c && c ≤ 'z') || c == '.' || c == '+' || c == '-'

/-- What follows a number with at least one digit and a point. -/
def afterNumber? (cs : List Char) : Option (List Char) :=
  match cs.span isAsciiDigit with
  | (_ :: _, '.' :: rest) => some rest
  | _ => none

/-- The characters are a version. -/
def isVersion (cs : List Char) : Bool :=
  match (afterNumber? cs).bind afterNumber? with
  | some (c :: rest) => isAsciiDigit c && rest.all isSuffixChar
  | _ => false

/-- A text without a `v` at its start. -/
def withoutMark : List Char → List Char
  | 'v' :: rest => rest
  | cs => cs

/-- The version that a text gives; none holds half of a pair. -/
def normalize (given : Text) : Except Fault String :=
  match charsFrom 0 (trim given) with
  | .error _ => .error (.invalidVersion given)
  | .ok trimmed =>
    let cs := withoutMark trimmed
    if isVersion cs then .ok (String.ofList cs) else .error (.invalidVersion given)

end Launcher.Release
