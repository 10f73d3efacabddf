import Mathlib
import Launcher.Decimal.Reading
import Launcher.Decimal.Shortest

/-!
# Written digits

The digits of a whole number are ASCII digits, there is at least one of them, the first is no zero
unless the number is, and together they are worth the number.
-/

namespace Launcher.Decimal

theorem isAsciiDigit_eq (c : Char) : isAsciiDigit c = c.isDigit := by
  unfold isAsciiDigit asciiDigit? Char.isDigit
  split
  · next h => exact h.symm
  · next h => exact (Bool.eq_false_of_not_eq_true h).symm

/-- Every character is an ASCII digit. -/
def AllDigits (cs : List Char) : Prop := ∀ c ∈ cs, isAsciiDigit c = true

theorem AllDigits.append {cs ds : List Char} (hc : AllDigits cs) (hd : AllDigits ds) :
    AllDigits (cs ++ ds) := fun c h => (List.mem_append.mp h).elim (hc c) (hd c)

theorem allDigits_replicate (n : Nat) : AllDigits (List.replicate n '0') := by
  intro c h
  rw [List.eq_of_mem_replicate h]
  rfl

/-- Zeros in front of digits are digits. -/
theorem allDigits_padStart {cs : List Char} (h : AllDigits cs) (width : Nat) :
    AllDigits (padStart width '0' cs) := (allDigits_replicate _).append h

/-- Digits stand behind the blank. -/
theorem AllDigits.lt_toNat {cs : List Char} (h : AllDigits cs) : ∀ c ∈ cs, 32 < c.toNat := by
  intro c hc
  have hdigit := h c hc
  have hzero : '0'.toNat = 48 := rfl
  rw [isAsciiDigit_eq, Char.isDigit_iff_toNat] at hdigit
  omega

/-- A number is written in digits. -/
theorem allDigits_digitChars (n : Nat) : AllDigits (digitChars n) := by
  intro c h
  rw [isAsciiDigit_eq]
  exact Nat.isDigit_of_mem_toDigits (by decide) (by decide) h

theorem digitChars_ne_nil (n : Nat) : digitChars n ≠ [] := Nat.toDigits_ne_nil

/-- The digits of a number above zero do not begin with a zero. -/
theorem head?_digitChars : ∀ {n : Nat}, 0 < n → (digitChars n).head? ≠ some '0' := by
  intro n
  induction n using Nat.strongRecOn with
  | ind n ih =>
    intro hn
    unfold digitChars
    rcases Nat.lt_or_ge n 10 with hlt | hge
    · rw [Nat.toDigits_of_lt_base hlt]
      simpa using fun h => hn.ne' h
    · rw [Nat.toDigits_of_base_le (by decide) hge,
        List.head?_append_of_ne_nil _ Nat.toDigits_ne_nil]
      exact ih (n / 10) (by omega) (by omega)

theorem asciiDigit?_of_isAsciiDigit {c : Char} (h : isAsciiDigit c = true) :
    asciiDigit? c = some (c.toNat - 48) := by
  unfold isAsciiDigit asciiDigit? at h
  unfold asciiDigit?
  split at h
  · next hc => rw [if_pos hc]
  · cases h

/-- What digits are worth. -/
theorem digitsValue_eq {cs : List Char} (h : AllDigits cs) :
    digitsValue cs = Nat.ofDigitChars 10 cs 0 := by
  -- both add one digit after the other at the end
  induction cs using List.reverseRecOn with
  | nil => rfl
  | append_singleton cs c ih =>
    have hcs : AllDigits cs := fun d hd => h d (List.mem_append_left _ hd)
    have hc := h c (List.mem_append_right _ List.mem_cons_self)
    have hlast : digitsValue (cs ++ [c]) = 10 * digitsValue cs + (c.toNat - 48) := by
      unfold digitsValue
      rw [List.foldl_append, List.foldl_cons, List.foldl_nil, asciiDigit?_of_isAsciiDigit hc]
    rw [hlast, ih hcs, Nat.ofDigitChars_append]
    rfl

/-- The digits of a number are read back as it. -/
theorem digitsValue_digitChars (n : Nat) : digitsValue (digitChars n) = n := by
  rw [digitsValue_eq (allDigits_digitChars n)]
  exact Nat.ofDigitChars_toDigits (by decide) (by decide)

/-- Zeros in front are worth nothing. -/
theorem digitsValue_zeros_append {cs : List Char} (h : AllDigits cs) (n : Nat) :
    digitsValue (List.replicate n '0' ++ cs) = digitsValue cs := by
  rw [digitsValue_eq ((allDigits_replicate n).append h), digitsValue_eq h,
    Nat.ofDigitChars_append, Nat.ofDigitChars_replicate_zero, Nat.mul_zero]

/-- Every zero behind counts ten times. -/
theorem digitsValue_append_zeros {cs : List Char} (h : AllDigits cs) (n : Nat) :
    digitsValue (cs ++ List.replicate n '0') = digitsValue cs * 10 ^ n := by
  rw [digitsValue_eq (h.append (allDigits_replicate n)), digitsValue_eq h,
    Nat.ofDigitChars_append, Nat.ofDigitChars_replicate_zero, Nat.mul_comm]

/-- What is read up to a character that is no digit. -/
theorem takeWhile_digits {cs rest : List Char} (h : AllDigits cs)
    (hrest : ∀ c ∈ rest.head?, isAsciiDigit c = false) :
    (cs ++ rest).takeWhile isAsciiDigit = cs := by
  rw [List.takeWhile_append_of_pos h]
  cases rest with
  | nil => rw [List.takeWhile_nil, List.append_nil]
  | cons c rest =>
    rw [List.takeWhile_cons_of_neg (by rw [hrest c rfl]; exact Bool.false_ne_true), List.append_nil]

end Launcher.Decimal
