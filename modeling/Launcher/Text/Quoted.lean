import Launcher.Text.Printable

/-!
# Quoted text

A text quoted in a message stands between apostrophes, or between double quotes when it holds an
apostrophe and no double quote. The quote and the backslash are written after a backslash, line ends
and tabs as letters after a backslash, and characters that do not print by their number.
-/

namespace Launcher.Text

/-- The apostrophe. -/
def apostrophe : Char := Char.ofNat 39

/-- The double quote. -/
def doubleQuote : Char := Char.ofNat 34

/-- The backslash. -/
def backslash : Char := Char.ofNat 92

/-- The hexadecimal digits of a number, padded at the start to a width. -/
def hexChars (width n : Nat) : List Char :=
  let ds := Nat.toDigits 16 n
  List.replicate (width - ds.length) '0' ++ ds

/-- A code by its number: a backslash, a letter and hexadecimal digits. -/
def numbered (letter : Char) (width n : Nat) : Text :=
  ofChars (backslash :: letter :: hexChars width n)

/-- The quote that a text is put between. -/
def quoteFor (t : Text) : Code :=
  if t.contains ↑apostrophe && !t.contains ↑doubleQuote then doubleQuote else apostrophe

/-- A code as it stands between quotes. -/
def quotedCode (quote c : Code) : Text :=
  if c = quote || c = backslash then [backslash, c]
  else if c = '\n' then [backslash, 'n']
  else if c = '\r' then [backslash, 'r']
  else if c = '\t' then [backslash, 't']
  else if isPrintable c then [c]
  else if c.toNat < 0x100 then numbered 'x' 2 c.toNat
  else if c.toNat < 0x10000 then numbered 'u' 4 c.toNat
  else numbered 'U' 8 c.toNat

/-- The text between quotes. -/
def quoted (t : Text) : Text :=
  let quote := quoteFor t
  quote :: t.flatMap (quotedCode quote) ++ [quote]

end Launcher.Text
