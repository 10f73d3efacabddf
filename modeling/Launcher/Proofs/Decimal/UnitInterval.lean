import Launcher.Proofs.Decimal.Nearest
import Launcher.Proofs.Decimal.Order

/-!
# Doubles between zero and one

A weight may be given as a whole number, and it is the double nearest to it that has to lie between
zero and one. Rounding moves no whole number across a bound: what is below zero stays below, and
from two on the double is at least two.

> `between_iff` the doubles between zero and one by their keys
> `rankKey_nearest` the key of a rounded quotient
> **`between_ofInt?_iff`** a whole number lies between zero and one exactly if its double does
-/

namespace Launcher.Decimal

variable {x : Float} {n : Int} {negative : Bool} {unit : Int} {units : Nat} {q : ℚ}

/-- A double between zero and one is a number, and its key lies between theirs. -/
theorem between_iff :
    (0.0 ≤ x ∧ x ≤ 1.0) ↔ ∃ k, rankKey x = some k ∧ 0 ≤ k ∧ k ≤ 1023 * 2 ^ 52 := by
  have hzero : rankKey 0.0 = some 0 := by decide
  have hone : rankKey 1.0 = some (1023 * 2 ^ 52) := by decide
  rw [le_iff_rankKey, le_iff_rankKey, hzero, hone]
  constructor
  · rintro ⟨⟨_, k, hk, hx, hlow⟩, ⟨l, _, hx', hl, hhigh⟩⟩
    cases hk
    cases hl
    cases hx.symm.trans hx'
    exact ⟨k, hx, hlow, hhigh⟩
  · rintro ⟨k, hx, hlow, hhigh⟩
    exact ⟨⟨0, k, rfl, hx, hlow⟩, ⟨k, _, hx, rfl, hhigh⟩⟩

theorem isNaN_of_between (h : 0.0 ≤ x ∧ x ≤ 1.0) : x.isNaN = false := by
  obtain ⟨k, hk, -⟩ := between_iff.mp h
  rw [← Bool.not_eq_true, isNaN_iff_rankKey, hk]
  exact Option.some_ne_none k

/-! ## Rounded quotients -/

/-- The key of a double put together from its sign and the bits below it. -/
theorem rankKey_ofBits {size : Nat} (hsize : size ≤ 2047 * twoPow 52) :
    rankKey (Float.ofBits (UInt64.ofNat (signBit negative + size)))
      = some (if negative then -(size : Int) else size) := by
  unfold rankKey
  rw [toNat_toBits_signed hsize]
  simp only
  rw [signBit_add_mod hsize, if_neg (Nat.not_lt.mpr hsize)]
  simp only [twoPow_le_signBit_add_iff hsize]
  split <;> rfl

/-- The key of a rounded quotient is made of its unit and its units. -/
theorem rankKey_nearest {num den : Nat} (hnum : 0 < num) (hden : 0 < den) (negative : Bool) :
    ∃ unit units, IsUnit ((num : ℚ) / den) unit ∧ RoundsTo ((num : ℚ) / den / 2 ^ unit) units ∧
      rankKey (nearest negative num den)
        = some (if negative then -(packedBits unit units : Int) else packedBits unit units) := by
  have hunit := isUnit_unitExponent hnum hden
  obtain ⟨hd, hscaled⟩ := scaleDown_spec num hden (unitExponent num den)
  have hround := hscaled ▸ roundsTo_roundDiv hd
  refine ⟨_, _, hunit, hround, ?_⟩
  rw [nearest_eq hnum hden negative hunit hround]
  exact rankKey_ofBits (Nat.min_le_right _ _)

/-- The unit goes up with the size of the quotient. -/
theorem IsUnit.lt_of_le {k : Int} (h : IsUnit q unit) (hq : 2 ^ k ≤ q) : k < 53 + unit :=
  (zpow_lt_zpow_iff_right₀ (one_lt_two (α := ℚ))).mp (hq.trans_lt h.lt)

/-- What is at least one does not round to zero. -/
theorem packedBits_pos (units : Nat) (hunit : IsUnit q unit) (hq : 1 ≤ q) :
    0 < packedBits unit units := by
  have hlarge := hunit.lt_of_le (k := 0) (by rwa [zpow_zero])
  unfold packedBits
  simp only [twoPow, Nat.pow_eq]
  omega

/-- What is at least two rounds to more than one. -/
theorem packedBits_of_two_le (hunit : IsUnit q unit) (hround : RoundsTo (q / 2 ^ unit) units)
    (hq : 2 ≤ q) : 1023 * 2 ^ 52 < packedBits unit units := by
  have hlarge := hunit.lt_of_le (k := 1) (by rwa [zpow_one])
  have hunits : twoPow 52 ≤ units := hunit.full_units hround (by omega)
  unfold packedBits
  simp only [twoPow, Nat.pow_eq] at *
  omega

/-! ## Whole numbers -/

/-- **A whole number lies between zero and one exactly if the double nearest to it does.** -/
theorem between_ofInt?_iff (h : ofInt? n = some x) :
    (0.0 ≤ x ∧ x ≤ 1.0) ↔ 0 ≤ n ∧ n ≤ 1 := by
  have hx : x = nearest (n < 0) n.natAbs 1 := by
    unfold ofInt? at h
    simp only at h
    split at h
    · cases h
    · exact (Option.some.inj h).symm
  rw [between_iff, hx]
  -- zero and one have doubles of their own; the others stay on their side when they are rounded
  rcases lt_trichotomy n 0 with hneg | rfl | hpos
  · have hnum : 0 < n.natAbs := by omega
    obtain ⟨unit, units, hunit, -, hkey⟩ := rankKey_nearest hnum one_pos (decide (n < 0))
    have hone : (1 : ℚ) ≤ (n.natAbs : ℚ) / (1 : Nat) := by
      rw [Nat.cast_one, div_one]
      exact_mod_cast (by omega : 1 ≤ n.natAbs)
    have hbits := packedBits_pos units hunit hone
    rw [hkey, if_pos (by simpa using hneg)]
    refine iff_of_false ?_ (by omega)
    rintro ⟨k, hk, hlow, -⟩
    cases hk
    omega
  · exact iff_of_true ⟨0, by decide, le_refl _, by decide⟩ (by decide)
  · have hnum : 0 < n.natAbs := by omega
    obtain ⟨unit, units, hunit, hround, hkey⟩ := rankKey_nearest hnum one_pos (decide (n < 0))
    by_cases hone : n = 1
    · subst hone
      exact iff_of_true ⟨1023 * 2 ^ 52, by decide, by decide, le_refl _⟩ (by decide)
    · have htwo : (2 : ℚ) ≤ (n.natAbs : ℚ) / (1 : Nat) := by
        rw [Nat.cast_one, div_one]
        exact_mod_cast (by omega : 2 ≤ n.natAbs)
      have hbits := packedBits_of_two_le hunit hround htwo
      rw [hkey, if_neg (by simpa using hpos.le)]
      refine iff_of_false ?_ (by omega)
      rintro ⟨k, hk, -, hhigh⟩
      cases hk
      omega

end Launcher.Decimal
