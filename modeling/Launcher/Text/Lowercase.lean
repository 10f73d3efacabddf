import Launcher.Text.CaseTable
import Launcher.Text

/-!
# Lowercase text

The full lowercase form of a text in any script. Two characters depart from the one-to-one table:
the dotted capital I becomes an i followed by a combining dot, and the capital sigma becomes a final
sigma where it ends a word, that is where a letter stands before it and none after it, with
apostrophes, accents and other ignorable characters skipped on both sides.

Because of the final sigma the lowercase form of a beginning is not always a beginning of the
lowercase form. Halves of pairs have no case and are no part of a word.
-/

namespace Launcher.Text

/-- The number of the lowercase form of a character that has one of one character. -/
def lowerNumber (n : Nat) : List CaseRun → Nat
  | [] => n
  | run :: rest =>
    if n < run.first then n
    else if n ≤ run.last then
      if (n - run.first) % run.step == 0 then (n + run.shift).toNat else n
    else lowerNumber n rest

/-- The lowercase form of a code that stands alone. -/
def lowerCode : Code → Text
  | .half n => [.half n]
  | .char c =>
    if c = 'İ' then ofChars ['i', Char.ofNat 0x307]
    else [.char (Char.ofNat (lowerNumber c.toNat lowercaseRuns))]

/-- The character may stand inside a word without ending it. -/
def isCaseIgnorable (c : Code) : Bool := inRanges c.toNat ignorableRanges

/-- The character is a letter with a case. -/
def isCased (c : Code) : Bool := inRanges c.toNat casedRanges

/-- The first character that is not ignorable is a letter with a case. -/
def startsWithLetter (cs : Text) : Bool :=
  match cs.dropWhile isCaseIgnorable with
  | c :: _ => isCased c
  | [] => false

/-- A word ends between `before`, read backwards, and `after`. -/
def isWordEnd (before after : Text) : Bool :=
  startsWithLetter before && !startsWithLetter after

/-- The lowercase form of a code between what stands before it, read backwards, and after. -/
def lowerBetween (before : Text) (c : Code) (after : Text) : Text :=
  if c = 'Σ' then [.char (if isWordEnd before after then 'ς' else 'σ')] else lowerCode c

/-- The lowercase form of a text after the codes `before`, which are read backwards. -/
def lowerAfter (before : Text) : Text → Text
  | [] => []
  | c :: rest => lowerBetween before c rest ++ lowerAfter (c :: before) rest

/-- The lowercase form of a text. -/
def lower (t : Text) : Text := lowerAfter [] t

end Launcher.Text
