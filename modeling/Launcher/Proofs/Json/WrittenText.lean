import Mathlib
import Launcher.Json.Reader
import Launcher.Json.Writer

/-!
# Written texts read back

A text is written between quotes, code by code, and each written code is read back as the one it
was, whether it stands there itself or behind a backslash. This holds of halves of pairs like any
other code: they stand there themselves.
-/

namespace Launcher.Json

open Launcher.Text

/-- The four hexadecimal digits of a control character in a document. -/
def controlDigits (n : Nat) : Text := (numbered 'u' 4 n).drop 2

/-- A control character comes back from its four hexadecimal digits. -/
theorem hexNumber?_controlDigits : ∀ n < 32,
    numbered 'u' 4 n = .char '\\' :: .char 'u' :: controlDigits n ∧
      (controlDigits n).length = 4 ∧ hexNumber? (controlDigits n) = some n ∧
        .char '\r' ∉ controlDigits n := by
  decide

/-- The four digits of a control character are read as that character. -/
theorem readNumbered_controlDigits {n : Nat} (hn : n < 32) {rest : Text} (hrest : rest ≠ [])
    (place : Nat) : readNumbered place (controlDigits n ++ rest) = .ok (Code.ofNat n, 4) := by
  obtain ⟨-, hlength, hnumber, -⟩ := hexNumber?_controlDigits n hn
  have htake : (controlDigits n ++ rest).take 4 = controlDigits n := List.take_left' hlength
  have hhigh : isHighHalf n = false := by
    unfold isHighHalf
    rw [decide_eq_false (by omega), Bool.false_and]
  unfold readNumbered
  rw [if_neg, htake, hnumber]
  · simp only [hhigh, Bool.false_and, Bool.false_eq_true, if_false]
  · have := List.length_pos_of_ne_nil hrest
    rw [List.length_append]
    omega

/-- A code below the halves is the one with its number. -/
theorem ofNat_toNat_of_lt {c : Code} (h : c.toNat < 0xD800) : Code.ofNat c.toNat = c := by
  cases c with
  | half n => exact absurd h (by simp [Code.toNat])
  | char c =>
    have h : c.toNat < 0xD800 := h
    rw [Code.ofNat, Code.toNat, dif_neg (by omega), c.ofNat_toNat]

/-- A written code is read as the code that it was. -/
theorem readCodes_writtenCode (start fuel : Nat) (done : Text) (place : Nat) (c : Code)
    (rest : Text) (hrest : rest ≠ []) :
    ∃ next, readCodes start (fuel + 1) done place (writtenCode c ++ rest)
      = readCodes start fuel (c :: done) next rest := by
  -- a backslash and a letter stand for one character
  have hletter : ∀ {e : Code}, e ≠ 'u' → escapedChar? e = some c →
      ∃ next, readCodes start (fuel + 1) done place ([.char backslash, e] ++ rest)
        = readCodes start fuel (c :: done) next rest := by
    intro e he hc
    refine ⟨place + 2, ?_⟩
    show readCodes start (fuel + 1) done place (.char '\\' :: e :: rest) = _
    rw [readCodes]
    simp [he, hc]
  unfold writtenCode
  split_ifs with hself hline hreturn htab hback hfeed hcontrol
  · simp only [Bool.or_eq_true, decide_eq_true_eq] at hself
    rcases hself with rfl | rfl
    · exact hletter (by decide) rfl
    · exact hletter (by decide) rfl
  · exact hletter (by decide) (hline ▸ rfl)
  · exact hletter (by decide) (hreturn ▸ rfl)
  · exact hletter (by decide) (htab ▸ rfl)
  · exact hletter (by decide) (by rw [← ofNat_toNat_of_lt (c := c) (by omega), hback]; rfl)
  · exact hletter (by decide) (by rw [← ofNat_toNat_of_lt (c := c) (by omega), hfeed]; rfl)
  · -- a control character without a letter of its own is written by number
    obtain ⟨hwritten, hlength, -⟩ := hexNumber?_controlDigits _ hcontrol
    refine ⟨place + 6, ?_⟩
    rw [hwritten, List.cons_append, List.cons_append, readCodes]
    simp only [readNumbered_controlDigits hcontrol hrest, ofNat_toNat_of_lt (c := c) (by omega)]
    simp [List.drop_left' hlength]
  · refine ⟨place + 1, ?_⟩
    simp only [Bool.or_eq_true, decide_eq_true_eq, not_or] at hself
    have hquote : c ≠ '"' := hself.1
    have hslash : c ≠ '\\' := hself.2
    rw [List.singleton_append, readCodes.eq_def]
    simp only
    rw [if_neg hquote, if_neg hslash, if_neg hcontrol]

/-- The codes of a text, as they are written, are read back as that text; by induction on it. -/
theorem readCodes_flatMap_writtenCode (start : Nat) (rest : Text) :
    ∀ (t : Text) (fuel : Nat) (done : Text) (place : Nat), t.length < fuel →
      ∃ next, readCodes start fuel done place (t.flatMap writtenCode ++ .char '"' :: rest)
        = .ok (done.reverse ++ t, next, rest) := by
  intro t
  induction t with
  | nil =>
    intro fuel done place hfuel
    obtain ⟨fuel, rfl⟩ := Nat.exists_eq_succ_of_ne_zero (Nat.ne_of_gt hfuel)
    exact ⟨place + 1, by rw [List.append_nil]; rfl⟩
  | cons c t ih =>
    intro fuel done place hfuel
    obtain ⟨fuel, rfl⟩ := Nat.exists_eq_succ_of_ne_zero (Nat.ne_of_gt (Nat.zero_lt_of_lt hfuel))
    rw [List.flatMap_cons, List.append_assoc]
    obtain ⟨next, hnext⟩ := readCodes_writtenCode start fuel done place c
      (t.flatMap writtenCode ++ .char '"' :: rest) (by simp)
    obtain ⟨last, hlast⟩ := ih fuel (c :: done) next (Nat.lt_of_succ_lt_succ hfuel)
    refine ⟨last, ?_⟩
    rw [hnext, hlast, List.reverse_cons, List.append_assoc, List.singleton_append]

theorem writtenCode_ne_nil (c : Code) : writtenCode c ≠ [] := by
  unfold writtenCode
  split_ifs
  all_goals exact List.cons_ne_nil _ _

/-- Every code takes at least one place, so that the fuel of a reading suffices. -/
theorem length_le_flatMap_writtenCode (t : Text) :
    t.length ≤ (t.flatMap writtenCode).length := by
  induction t with
  | nil => exact Nat.zero_le _
  | cons c t ih =>
    have := List.length_pos_of_ne_nil (writtenCode_ne_nil c)
    rw [List.flatMap_cons, List.length_cons, List.length_append]
    omega

/-- What follows the opening quote of a written text. -/
def afterQuote (t : Text) : Text := t.flatMap writtenCode ++ [.char '"']

/-- No carriage return is written as it is. -/
theorem return_not_mem_writtenCode (c : Code) : .char '\r' ∉ writtenCode c := by
  unfold writtenCode
  split_ifs with hself hline hreturn htab hback hfeed hcontrol
  · simp only [Bool.or_eq_true, decide_eq_true_eq] at hself
    rcases hself with rfl | rfl
    · decide
    · decide
  · decide
  · decide
  · decide
  · decide
  · decide
  · obtain ⟨hwritten, -, -, hdigits⟩ := hexNumber?_controlDigits _ hcontrol
    rw [hwritten]
    simp [hdigits]
  · simp [Ne.symm hreturn]

theorem writtenText_eq (t : Text) : writtenText t = .char '"' :: afterQuote t := rfl

/-- No carriage return is written as such. -/
theorem return_not_mem_afterQuote (t : Text) : .char '\r' ∉ afterQuote t := by
  simp [afterQuote, return_not_mem_writtenCode]

/-- **A written text is read as the text it was.** -/
theorem readText_afterQuote (t : Text) (place : Nat) (rest : Text) :
    ∃ next, readText place (afterQuote t ++ rest) = .ok (t, next, rest) := by
  unfold readText afterQuote
  rw [List.append_assoc, List.singleton_append]
  have hfuel : t.length < (t.flatMap writtenCode ++ .char '"' :: rest).length + 1 := by
    have := length_le_flatMap_writtenCode t
    rw [List.length_append, List.length_cons]
    omega
  exact readCodes_flatMap_writtenCode place rest t _ [] (place + 1) hfuel

end Launcher.Json
