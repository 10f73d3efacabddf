import Launcher.Text.Lowercase
import Launcher.Value.Conversion

/-!
# Encodings of an output

Marks beyond ASCII can be shown when the encoding of the output holds them. An encoding is known by
names; in a name only letters, digits and points count, in any case, and whatever else stands
between them is a single gap. A point may stand for the gap in one of the further names.

Modelled is `supports_unicode_output`, with the names of the encodings that hold both marks.
-/

namespace Launcher.Terminal

open Launcher.Text

/-- The names of the encodings that hold the marks, a gap written as an underscore. -/
def holdingNames : List String := [
    "cp949", "euc_jis_2004", "euc_jisx0213", "euc_kr", "gb18030", "idna", "iso2022_jp_2",
    "iso2022_jp_2004", "iso2022_jp_3", "iso2022_kr", "johab", "punycode", "raw_unicode_escape",
    "shift_jis_2004", "shift_jisx0213", "unicode_escape", "utf_16", "utf_16_be", "utf_16_le",
    "utf_32", "utf_32_be", "utf_32_le", "utf_7", "utf_8", "utf_8_sig"]

/-- Further names of the same encodings. -/
def furtherNames : List String := [
    "949", "cp1361", "cp65001", "csiso2022kr", "euc_jis2004", "eucjis2004", "eucjisx0213",
    "euckr", "gb18030_2000", "iso2022jp_2", "iso2022jp_2004", "iso2022jp_3", "iso2022kr",
    "iso_2022_jp_2", "iso_2022_jp_2004", "iso_2022_jp_3", "iso_2022_kr", "jisx0213", "korean",
    "ks_c_5601", "ks_c_5601_1987", "ks_x_1001", "ksc5601", "ksx1001", "ms1361", "ms949",
    "s_jis_2004", "s_jisx0213", "shiftjis2004", "shiftjisx0213", "sjis_2004", "sjisx0213", "u16",
    "u32", "u7", "u8", "uhc", "unicode_1_1_utf_7", "unicodebigunmarked", "unicodelittleunmarked",
    "utf", "utf16", "utf32", "utf7", "utf8", "utf8_ucs2", "utf8_ucs4", "utf_16be", "utf_16le",
    "utf_32be", "utf_32le", "x_mac_korean"]

/-- The character counts in the name of an encoding. -/
def isNameChar (c : Char) : Bool :=
  ('a' ≤ c && c ≤ 'z') || ('A' ≤ c && c ≤ 'Z') || ('0' ≤ c && c ≤ '9') || c == '.'

/-- The name of an encoding with its gaps as underscores; `gap` says that one comes before, and
`started` that something does. -/
def nameFrom (started gap : Bool) : List Char → List Char
  | [] => []
  | c :: rest =>
    if isNameChar c then
      (if started && gap then ['_'] else []) ++ Decimal.asciiLower c :: nameFrom true false rest
    else nameFrom started true rest

/-- An encoding holds the marks; none has a name with half of a pair. -/
def holdsMarks (name : Text) : Bool :=
  match charsFrom 0 name with
  | .error _ => false
  | .ok cs =>
    let known := nameFrom false false cs
    let undotted := known.map fun c => if c = '.' then '_' else c
    holdingNames.contains (String.ofList known) || furtherNames.contains (String.ofList known) ||
      furtherNames.contains (String.ofList undotted)

/-- The encoding that a value names holds the marks; whatever counts as false names none. -/
def givenHoldsMarks (given : Value) : Except Fault Bool :=
  if !given.isTrue then .ok false
  else match given with
    | .text name => .ok (holdsMarks name)
    | _ => .error .wrongType

/-- The encoding of a console, which is UTF-8 unless its stream names one. -/
def consoleHoldsMarks (given : Value) : Except Fault Bool :=
  if !given.isTrue then .ok true
  else match given with
    | .text name => .ok (holdsMarks (lower name))
    | _ => .error .noSuchMember

/-- The marks can be shown on a console, or else on the standard output. -/
def showsMarks (console : Option Value) (output : Value) : Except Fault Bool := do
  let onConsole ← match console with
    | some given => consoleHoldsMarks given
    | none => .ok false
  if onConsole then .ok true else givenHoldsMarks output

end Launcher.Terminal
