import Launcher.Json.Writer
import Launcher.Proofs.Decimal.Shortest
import Launcher.Proofs.Json.Number

/-!
# Written numbers read back

A whole number is written by its digits, a double by its shortest decimal, placed with a point or
with an exponent. Either way what is written is a spelling that stands for the number.

> `spellingOfInt` the spelling of a whole number
> **`exists_spelling_float`** a finite double has one too, whichever notation is chosen
-/

namespace Launcher.Json

open Launcher.Decimal

/-- The spelling of a whole number. -/
def spellingOfInt (n : Int) : Spelling := ⟨decide (n < 0), digitChars n.natAbs, [], none⟩

/-- The spelling of a whole number has the form of numbers in documents. -/
theorem wellFormed_spellingOfInt (n : Int) : (spellingOfInt n).WellFormed where
  whole := allDigits_digitChars _
  whole_ne_nil := digitChars_ne_nil _
  no_zero := by
    rcases Nat.eq_zero_or_pos n.natAbs with h | h
    · left
      show digitChars n.natAbs = ['0']
      rw [h]
      rfl
    · exact Or.inr (head?_digitChars h)
  places := nofun
  exponent := nofun

/-- The spelling of a whole number stands for it. -/
theorem value_spellingOfInt (n : Int) : (spellingOfInt n).value = .int n := by
  unfold Spelling.value spellingOfInt
  rw [if_pos ⟨rfl, rfl⟩, digitsValue_digitChars]
  simp only [decide_eq_true_eq]
  congr 1
  split
  · omega
  · omega

theorem toList_toString_int (n : Int) :
    (toString n).toList = (if n < 0 then ['-'] else []) ++ digitChars n.natAbs := by
  cases n with
  | ofNat m =>
    show (Nat.repr m).toList = _
    rw [Nat.repr_eq_ofList_toDigits, String.toList_ofList, if_neg (by simp)]
    rfl
  | negSucc m =>
    show ("-" ++ Nat.repr m.succ).toList = _
    rw [String.toList_append, Nat.repr_eq_ofList_toDigits,
      String.toList_ofList (l := Nat.toDigits 10 m.succ), if_pos (Int.negSucc_lt_zero m),
      Int.natAbs_negSucc]
    rfl

/-- The spelling of a whole number is its digits with the sign. -/
theorem chars_spellingOfInt (n : Int) : (spellingOfInt n).chars = (toString n).toList := by
  rw [toList_toString_int]
  simp [Spelling.chars, Spelling.signChars, Spelling.placeChars, Spelling.exponentChars,
    spellingOfInt]

/-! ## Doubles -/

variable {digits : Nat} {place : Int}

/-- The spelling stands for the decimal. -/
structure Spelling.Spells (n : Spelling) (negative : Bool) (digits : Nat) (place : Int) : Prop where
  wellFormed : n.WellFormed
  negative : n.negative = negative
  real : ¬ (n.places = [] ∧ n.exponent = none)
  size : (digitsValue (n.whole ++ n.places) : ℚ) * 10 ^ (n.exponentValue - n.places.length)
    = digits * 10 ^ place

/-- Digits with a point between them, read as the number of units of their last place. -/
theorem exists_spelling_of_places (negative : Bool) {whole places : List Char}
    (hwhole : AllDigits whole) (hne : whole ≠ [])
    (hzero : whole = ['0'] ∨ whole.head? ≠ some '0') (hplaces : AllDigits places)
    (hsome : places ≠ [])
    (hsize : (digitsValue (whole ++ places) : ℚ) * 10 ^ (-(places.length : Int))
      = digits * 10 ^ place) :
    ∃ n : Spelling, n.Spells negative digits place ∧
      n.chars = n.signChars ++ (whole ++ '.' :: places) := by
  refine ⟨⟨negative, whole, places, none⟩, ⟨⟨hwhole, hne, hzero, hplaces, nofun⟩, rfl, ?_, ?_⟩, ?_⟩
  · simp [hsome]
  · rw [← zero_sub] at hsize
    exact hsize
  · simp [Spelling.chars, Spelling.placeChars, Spelling.exponentChars, hsome]

section Positional

variable {ds : List Char} (hall : AllDigits ds) (hne : ds ≠ []) (hhead : ds.head? ≠ some '0')
  (hvalue : digitsValue ds = digits)
include hall hne hvalue

/-- Zeros stand between the point and the digits. -/
theorem exists_spelling_of_point_nonpos (negative : Bool) (hpoint : ds.length + place ≤ 0) :
    ∃ n : Spelling, n.Spells negative digits place ∧
      n.chars = n.signChars ++
        (['0'] ++ '.' :: (List.replicate (-(ds.length + place)).toNat '0' ++ ds)) := by
  refine exists_spelling_of_places negative (allDigits_replicate 1) (List.cons_ne_nil _ _)
    (Or.inl rfl) ((allDigits_replicate _).append hall) (by simp [hne]) ?_
  have hlength : -((List.replicate (-(ds.length + place)).toNat '0' ++ ds).length : Int)
      = place := by
    rw [List.length_append, List.length_replicate]
    omega
  rw [hlength, ← List.append_assoc, List.singleton_append, ← List.replicate_succ,
    digitsValue_zeros_append hall, hvalue]

include hhead

/-- A whole number keeps one place. -/
theorem exists_spelling_of_place_nonneg (negative : Bool) (hplace : 0 ≤ place) :
    ∃ n : Spelling, n.Spells negative digits place ∧
      n.chars = n.signChars ++ ((ds ++ List.replicate place.toNat '0') ++ '.' :: ['0']) := by
  have hhead : (ds ++ List.replicate place.toNat '0').head? ≠ some '0' := by
    rwa [List.head?_append_of_ne_nil _ hne]
  refine exists_spelling_of_places negative (hall.append (allDigits_replicate _)) (by simp [hne])
    (Or.inr hhead) (allDigits_replicate 1) (List.cons_ne_nil _ _) ?_
  have hzeros : ds ++ List.replicate place.toNat '0' ++ ['0']
      = ds ++ List.replicate (place.toNat + 1) '0' := by
    rw [List.append_assoc, List.replicate_succ']
  have hten : (10 : ℚ) ^ (place.toNat + 1) * 10 ^ (-1 : Int) = 10 ^ place := by
    rw [pow_succ, zpow_toNat hplace, zpow_neg_one]
    exact mul_inv_cancel_right₀ (by norm_num) _
  rw [hzeros, digitsValue_append_zeros hall, hvalue, Nat.cast_mul, mul_assoc, ← hten]
  push_cast
  rfl

omit hne in
/-- The point stands between two digits. -/
theorem exists_spelling_of_point_pos (negative : Bool) (hplace : place < 0)
    (hpoint : 0 < ds.length + place) :
    ∃ n : Spelling, n.Spells negative digits place ∧
      n.chars = n.signChars
        ++ (ds.take (ds.length + place).toNat ++ '.' :: ds.drop (ds.length + place).toNat) := by
  have hpieces : ds.take (ds.length + place).toNat ++ ds.drop (ds.length + place).toNat = ds :=
    List.take_append_drop _ _
  have hwhole : ds.take (ds.length + place).toNat ≠ [] := fun h => by
    have hlength := congrArg List.length h
    rw [List.length_take, List.length_nil] at hlength
    omega
  have hlength : ((ds.drop (ds.length + place).toNat).length : Int) = -place := by
    rw [List.length_drop]
    omega
  have hsome : ds.drop (ds.length + place).toNat ≠ [] := fun h => by
    rw [h, List.length_nil] at hlength
    omega
  refine exists_spelling_of_places negative (fun c hc => hall c (List.mem_of_mem_take hc)) hwhole
    (Or.inr ?_) (fun c hc => hall c (List.mem_of_mem_drop hc)) hsome ?_
  · rwa [← List.head?_append_of_ne_nil _ hwhole, hpieces]
  · rw [hpieces, hvalue, hlength, neg_neg]

end Positional

/-- Digits with a point among them or behind zeros spell their number. -/
theorem exists_spelling_positional (negative : Bool) (hdigits : 0 < digits) (place : Int) :
    ∃ n : Spelling, n.Spells negative digits place ∧
      n.chars = n.signChars ++ positional (digitChars digits) place := by
  have hall := allDigits_digitChars digits
  have hne := digitChars_ne_nil digits
  have hhead := head?_digitChars hdigits
  have hvalue := digitsValue_digitChars digits
  unfold positional
  simp only
  split
  · next hplace =>
    exact exists_spelling_of_place_nonneg hall hne hhead hvalue negative hplace
  · next hplace =>
    split
    · next hpoint =>
      obtain ⟨n, hn, hchars⟩ := exists_spelling_of_point_nonpos hall hne hvalue negative hpoint
      exact ⟨n, hn, by simpa using hchars⟩
    · next hpoint =>
      obtain ⟨n, hn, hchars⟩ := exists_spelling_of_point_pos hall hhead hvalue negative
        (Int.not_le.mp hplace) (Int.not_le.mp hpoint)
      exact ⟨n, hn, by simpa using hchars⟩

/-- One digit before the point, and an exponent with its sign and at least `width` digits. -/
def scientificSpelling (negative : Bool) (width : Nat) (ds : List Char) (exponent : Int) :
    Spelling :=
  ⟨negative, ds.take 1, ds.drop 1,
    some (decide (exponent < 0), padStart width '0' (digitChars exponent.natAbs))⟩

theorem exponentValue_scientificSpelling (negative : Bool) (width : Nat) (ds : List Char)
    (exponent : Int) :
    (scientificSpelling negative width ds exponent).exponentValue = exponent := by
  have hsize :
      digitsValue (padStart width '0' (digitChars exponent.natAbs)) = exponent.natAbs := by
    rw [padStart, digitsValue_zeros_append (allDigits_digitChars _), digitsValue_digitChars]
  simp only [scientificSpelling, Spelling.exponentValue, hsize, decide_eq_true_eq]
  split
  · omega
  · omega

/-- Digits with an exponent spell their number. -/
theorem exists_spelling_scientific (negative : Bool) (width : Nat) (hdigits : 0 < digits)
    (place : Int) :
    ∃ n : Spelling, n.Spells negative digits place ∧
      n.chars = n.signChars ++ scientific width (digitChars digits) place := by
  have hall := allDigits_digitChars digits
  have hne := digitChars_ne_nil digits
  have hhead := head?_digitChars hdigits
  have hvalue := digitsValue_digitChars digits
  generalize digitChars digits = ds at *
  unfold scientific
  simp only
  generalize hexponent : (ds.length : Int) + place - 1 = exponent
  have hpieces : ds.take 1 ++ ds.drop 1 = ds := List.take_append_drop _ _
  have hwhole : ds.take 1 ≠ [] := by simp [hne]
  have hlength : exponent - ((ds.drop 1).length : Int) = place := by
    have := List.length_pos_of_ne_nil hne
    rw [List.length_drop]
    omega
  refine ⟨scientificSpelling negative width ds exponent, ⟨⟨?_, hwhole, Or.inr ?_, ?_, ?_⟩, rfl,
    by simp [scientificSpelling], ?_⟩, ?_⟩
  · exact fun c hc => hall c (List.mem_of_mem_take hc)
  · show (ds.take 1).head? ≠ some '0'
    rwa [← List.head?_append_of_ne_nil _ hwhole, hpieces]
  · exact fun c hc => hall c (List.mem_of_mem_drop hc)
  · rintro _ _ ⟨⟩
    exact ⟨allDigits_padStart (allDigits_digitChars _) width, by simp [padStart, digitChars_ne_nil]⟩
  · rw [exponentValue_scientificSpelling]
    show (digitsValue (ds.take 1 ++ ds.drop 1) : ℚ) * 10 ^ (exponent - ((ds.drop 1).length : Int))
      = digits * 10 ^ place
    rw [hpieces, hvalue, hlength]
  · simp [scientificSpelling, Spelling.chars, Spelling.placeChars, Spelling.exponentChars]

/-- **A finite double is written by a spelling that stands for it.** -/
theorem exists_spelling_float {x : Float} {negative : Bool} {significand : Nat} {exponent : Int}
    (h : Double.ofFloat x = .finite negative significand exponent) (style : NumberStyle) :
    ∃ n : Spelling, n.WellFormed ∧ ¬ (n.places = [] ∧ n.exponent = none) ∧ n.value = .float x ∧
      n.chars = style.chars x := by
  obtain ⟨hx, hdouble⟩ := ofFloat_finite h
  unfold NumberStyle.chars
  rw [h]
  simp only
  split
  · next hzero =>
    refine ⟨⟨negative, ['0'], ['0'], none⟩, ?_, by simp, ?_, ?_⟩
    · exact ⟨allDigits_replicate 1, List.cons_ne_nil _ _, Or.inl rfl, allDigits_replicate 1, nofun⟩
    · have hdigits : digitsValue (['0'] ++ ['0']) = 0 := rfl
      have hexponent : exponent = -1074 := exponent_of_zero (hzero ▸ h)
      unfold Spelling.value
      rw [if_neg (by simp), hdigits, hx, hzero, hexponent]
      cases negative with
      | true => rfl
      | false => rfl
    · cases negative with
      | true => rfl
      | false => rfl
  · next hzero =>
    have hd := hdouble hzero
    have hstands := shortest_standsFor hd
    generalize shortest significand exponent = decimal at hstands ⊢
    obtain ⟨digits, place⟩ := decimal
    have hdigits : 0 < digits := hstands.digits_pos hd
    obtain ⟨n, hn, hchars⟩ : ∃ n : Spelling, n.Spells negative digits place ∧
        n.chars = n.signChars ++
          if style.smallestPlace ≤ ((digitChars digits).length : Int) + place - 1 ∧
              ((digitChars digits).length : Int) + place - 1 < style.largestPlace
          then positional (digitChars digits) place
          else scientific style.exponentWidth (digitChars digits) place := by
      split
      · exact exists_spelling_positional negative hdigits place
      · exact exists_spelling_scientific negative style.exponentWidth hdigits place
    refine ⟨n, hn.wellFormed, hn.real, ?_, ?_⟩
    · unfold Spelling.value
      rw [if_neg hn.real, hn.negative, nearestDecimal_of_standsFor hd (hn.size ▸ hstands), hx]
    · rw [hchars, Spelling.signChars, hn.negative]

end Launcher.Json
