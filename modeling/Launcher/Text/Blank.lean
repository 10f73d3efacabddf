import Launcher.Text

/-!
# Blank characters

A character is blank when it separates words in any script: the ASCII controls tab to carriage
return and file to unit separator, the space, the next-line control, and the spaces, line and
paragraph separators of Unicode. Zero-width characters (U+200B, U+FEFF, U+180E) are not blank.

`trim` takes blank characters off both ends of a text, `trimEnd` off its end only.
-/

namespace Launcher.Text

/-- The character separates words. -/
def isBlank (c : Code) : Bool :=
  let n := c.toNat
  (9 ≤ n && n ≤ 13) || (28 ≤ n && n ≤ 32) || n == 0x85 || n == 0xA0 || n == 0x1680 ||
    (0x2000 ≤ n && n ≤ 0x200A) || n == 0x2028 || n == 0x2029 || n == 0x202F || n == 0x205F ||
    n == 0x3000

/-- The text without the blank characters at its end. -/
def trimEnd (t : Text) : Text := (t.reverse.dropWhile isBlank).reverse

/-- The text without the blank characters at either end. -/
def trim (t : Text) : Text := trimEnd (t.dropWhile isBlank)

/-- The text holds nothing but blank characters; the empty text is blank. -/
def isBlankText (t : Text) : Bool := t.all isBlank

end Launcher.Text
