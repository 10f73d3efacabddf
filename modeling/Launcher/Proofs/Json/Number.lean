import Launcher.Json.Reader
import Launcher.Proofs.Decimal.Digits

/-!
# Reading a written number

`Spelling` is a number as a document writes it: a sign, a whole part without needless zeros, the
places behind the point and an exponent, the last two only if there are any. Whatever follows it and
does not go on with it, the number is read up to its end, as a whole number if it has neither places
nor exponent and as a double otherwise.
-/

namespace Launcher.Json

open Launcher.Decimal

/-- A number as documents write it. -/
structure Spelling where
  negative : Bool
  whole : List Char
  places : List Char
  exponent : Option (Bool × List Char)

namespace Spelling

variable (n : Spelling)

/-- The sign. -/
def signChars : List Char := if n.negative then ['-'] else []

/-- The point and the places behind it. -/
def placeChars : List Char := if n.places = [] then [] else '.' :: n.places

/-- The exponent with its letter and its sign. -/
def exponentChars : List Char :=
  match n.exponent with
  | none => []
  | some (negative, digits) => 'e' :: (if negative then '-' else '+') :: digits

/-- The number in a document. -/
def chars : List Char := n.signChars ++ n.whole ++ n.placeChars ++ n.exponentChars

/-- The whole number that the exponent writes. -/
def exponentValue : Int :=
  match n.exponent with
  | none => 0
  | some (negative, digits) =>
    if negative then -(digitsValue digits : Int) else digitsValue digits

/-- The parts are digits, and those that must be there are. -/
structure WellFormed : Prop where
  whole : AllDigits n.whole
  whole_ne_nil : n.whole ≠ []
  no_zero : n.whole = ['0'] ∨ n.whole.head? ≠ some '0'
  places : AllDigits n.places
  exponent : ∀ negative digits, n.exponent = some (negative, digits) →
    AllDigits digits ∧ digits ≠ []

end Spelling

/-- The characters do not go on with a number that stands before them. -/
def EndsNumber (rest : List Char) : Prop :=
  ∀ c ∈ rest.head?, isAsciiDigit c = false ∧ c ≠ '.' ∧ c ≠ 'e' ∧ c ≠ 'E'

variable {n : Spelling} {rest : List Char}

/-- The whole part is read up to what is no digit. -/
theorem wholePart_append (h : n.WellFormed) (hrest : ∀ c ∈ rest.head?, isAsciiDigit c = false) :
    wholePart (n.whole ++ rest) = n.whole := by
  rcases h.no_zero with hzero | hzero
  · rw [hzero]
    rfl
  · unfold wholePart
    split
    · next after heq =>
      have hhead : (n.whole ++ rest).head? = some '0' := by rw [heq]; rfl
      rw [List.head?_append_of_ne_nil _ h.whole_ne_nil] at hhead
      exact absurd hhead hzero
    · exact takeWhile_digits h.whole hrest

/-- The places are read up to what is neither a digit nor a point. -/
theorem fractionPart_append (h : n.WellFormed)
    (hrest : ∀ c ∈ rest.head?, isAsciiDigit c = false ∧ c ≠ '.') :
    fractionPart (n.placeChars ++ rest) = n.placeChars := by
  unfold Spelling.placeChars
  split
  · cases rest with
    | nil => rfl
    | cons c rest =>
      rw [List.nil_append]
      unfold fractionPart
      split
      · next heq =>
        cases heq
        exact absurd rfl (hrest '.' rfl).2
      · rfl
  · next hne =>
    have htake := takeWhile_digits h.places fun c hc => (hrest c hc).1
    simp [fractionPart, htake, hne]

/-- The exponent is read up to what does not go on with it. -/
theorem exponentPart_append (h : n.WellFormed) (hrest : EndsNumber rest) :
    exponentPart (n.exponentChars ++ rest) = n.exponentChars := by
  unfold Spelling.exponentChars
  split
  · cases rest with
    | nil => rfl
    | cons c rest =>
      obtain ⟨-, -, he, hE⟩ := hrest c rfl
      unfold exponentPart
      rw [List.nil_append]
      exact if_neg (by simp [he, hE])
  · next negative digits hexp =>
    obtain ⟨hdigits, hne⟩ := h.exponent negative digits hexp
    have htake := takeWhile_digits hdigits fun c hc => (hrest c hc).1
    cases negative with
    | true => simp [exponentPart, htake, hne]
    | false => simp [exponentPart, htake, hne]

/-- A written exponent is read as the number that it writes. -/
theorem readExponent?_exponentChars (h : n.WellFormed) :
    readExponent? n.exponentChars = some n.exponentValue := by
  unfold Spelling.exponentChars Spelling.exponentValue
  split
  · rfl
  · next negative digits hexp =>
    obtain ⟨hdigits, hne⟩ := h.exponent negative digits hexp
    have hall : digits.all isAsciiDigit = true := List.all_eq_true.mpr hdigits
    cases negative with
    | true => simp [readExponent?, splitSign, hall, hne]
    | false => simp [readExponent?, splitSign, hall, hne]

/-- The number that a spelling stands for. -/
def Spelling.value (n : Spelling) : Value :=
  if n.places = [] ∧ n.exponent = none then
    .int (if n.negative then -(digitsValue n.whole : Int) else digitsValue n.whole)
  else .float (nearestDecimal n.negative (digitsValue (n.whole ++ n.places))
    (n.exponentValue - n.places.length))

/-- Neither an exponent nor what follows it goes on with the places. -/
theorem EndsNumber.exponentChars_append (hrest : EndsNumber rest) :
    ∀ c ∈ (n.exponentChars ++ rest).head?, isAsciiDigit c = false ∧ c ≠ '.' := by
  unfold Spelling.exponentChars
  split
  · exact fun c hc => ⟨(hrest c hc).1, (hrest c hc).2.1⟩
  · intro c hc
    obtain rfl : 'e' = c := Option.some.inj hc
    exact ⟨rfl, by decide⟩

/-- Neither places nor what follows them goes on with the whole part. -/
theorem EndsNumber.placeChars_append (hrest : EndsNumber rest) :
    ∀ c ∈ (n.placeChars ++ (n.exponentChars ++ rest)).head?, isAsciiDigit c = false := by
  unfold Spelling.placeChars
  split
  · exact fun c hc => (hrest.exponentChars_append c hc).1
  · intro c hc
    obtain rfl : '.' = c := Option.some.inj hc
    rfl

/-- The whole part begins with a digit. -/
theorem Spelling.WellFormed.isAsciiDigit_head {c : Char} (h : n.WellFormed) {behind : List Char}
    (hc : (n.whole ++ behind).head? = some c) : isAsciiDigit c = true := by
  rw [List.head?_append_of_ne_nil _ h.whole_ne_nil] at hc
  exact h.whole c (List.mem_of_mem_head? hc)

/-- The places stand behind the point. -/
theorem Spelling.places_eq (n : Spelling) : n.placeChars.drop 1 = n.places := by
  unfold placeChars
  split
  · next hnil => rw [hnil]; rfl
  · rfl

theorem Spelling.isEmpty_signChars (n : Spelling) : n.signChars.isEmpty = !n.negative := by
  unfold signChars
  cases n.negative with
  | true => rfl
  | false => rfl

theorem Spelling.isEmpty_placeChars (n : Spelling) :
    n.placeChars.isEmpty = decide (n.places = []) := by
  unfold placeChars
  split
  · next hnil => simp [hnil]
  · next hne => simp [hne]

theorem Spelling.isEmpty_exponentChars (n : Spelling) :
    n.exponentChars.isEmpty = decide (n.exponent = none) := by
  unfold exponentChars
  split
  · next hnone => simp [hnone]
  · next hsome => simp [hsome]

/-- Every character of a number can stand in one. -/
theorem Spelling.WellFormed.isNumberChar_of_mem (h : n.WellFormed) :
    ∀ c ∈ n.chars, isNumberChar c = true := by
  have hdigits : ∀ {ds : List Char}, AllDigits ds → ∀ c ∈ ds, isNumberChar c = true := by
    intro ds hds c hc
    simp [isNumberChar, hds c hc]
  intro c hc
  simp only [chars, List.mem_append] at hc
  rcases hc with ((hc | hc) | hc) | hc
  · unfold signChars at hc
    split at hc
    · rw [List.mem_singleton.mp hc]; rfl
    · cases hc
  · exact hdigits h.whole c hc
  · unfold placeChars at hc
    split at hc
    · cases hc
    · rcases List.mem_cons.mp hc with rfl | hc
      · rfl
      · exact hdigits h.places c hc
  · unfold exponentChars at hc
    split at hc
    · cases hc
    · next negative digits heq =>
      simp only [List.mem_cons] at hc
      rcases hc with rfl | rfl | hc
      · rfl
      · cases negative with
        | true => rfl
        | false => rfl
      · exact hdigits (h.exponent _ _ heq).1 c hc

/-- No carriage return stands in a number. -/
theorem Spelling.WellFormed.return_not_mem (h : n.WellFormed) : '\r' ∉ n.chars := fun hmem =>
  absurd (h.isNumberChar_of_mem _ hmem) (by decide)

/-- Characters that can stand in a number are all taken. -/
theorem numberChars_ofChars_append {cs : List Char} (h : ∀ c ∈ cs, isNumberChar c = true)
    (t : Text) : numberChars (Text.ofChars cs ++ t) = cs ++ numberChars t := by
  induction cs with
  | nil => rfl
  | cons c cs ih =>
    rw [Text.ofChars_cons, List.cons_append, numberChars, if_pos (h c List.mem_cons_self),
      ih fun d hd => h d (List.mem_cons_of_mem _ hd), List.cons_append]

/-- **A number is read to its end**, as the number that its spelling stands for. -/
theorem readNumber_chars_append (h : n.WellFormed) {t : Text} (ht : EndsNumber (numberChars t))
    (hshort : n.places = [] → n.exponent = none → n.whole.length ≤ maxDigits) (place : Nat) :
    readNumber place (Text.ofChars n.chars ++ t) = .ok (n.value, place + n.chars.length, t) := by
  unfold readNumber
  rw [numberChars_ofChars_append h.isNumberChar_of_mem]
  generalize numberChars t = rest at ht
  -- the characters fall into the parts that the reader takes off one after the other
  have hcs : n.chars ++ rest
      = n.signChars ++ (n.whole ++ (n.placeChars ++ (n.exponentChars ++ rest))) := by
    simp only [Spelling.chars, List.append_assoc]
  have hsign : (if (n.chars ++ rest).head? = some '-' then ['-'] else []) = n.signChars := by
    rw [hcs]
    unfold Spelling.signChars
    split
    · rfl
    · refine if_neg fun hminus => ?_
      exact absurd (h.isAsciiDigit_head hminus) (by decide)
  have hlength : n.signChars.length + n.whole.length + n.placeChars.length
      + n.exponentChars.length = n.chars.length := by
    simp only [Spelling.chars, List.length_append]
  have hsize : (Text.ofChars n.chars ++ t).drop n.chars.length = t :=
    List.drop_left' (Text.length_ofChars _)
  have hafter : (n.chars ++ rest).drop n.signChars.length
      = n.whole ++ (n.placeChars ++ (n.exponentChars ++ rest)) := by
    rw [hcs, List.drop_left]
  have hbehind : (n.whole ++ (n.placeChars ++ (n.exponentChars ++ rest))).drop
      (n.whole.length + n.placeChars.length) = n.exponentChars ++ rest := by
    rw [← List.drop_drop, List.drop_left, List.drop_left]
  simp only [hsign, hafter, wholePart_append h ht.placeChars_append, List.drop_left,
    fractionPart_append h ht.exponentChars_append, hbehind, exponentPart_append h ht,
    readExponent?_exponentChars h, n.places_eq, n.isEmpty_signChars, n.isEmpty_placeChars,
    n.isEmpty_exponentChars, hlength, hsize]
  rw [if_neg (by simpa using h.whole_ne_nil)]
  unfold Spelling.value
  by_cases hint : n.places = [] ∧ n.exponent = none
  · rw [if_pos (by simpa using hint), if_pos hint, if_neg (Nat.not_lt.mpr (hshort hint.1 hint.2))]
    cases n.negative with
    | true => rfl
    | false => rfl
  · rw [if_neg (by simpa using hint), if_neg hint, Bool.not_not]
    rfl

end Launcher.Json
