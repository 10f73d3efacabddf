import Launcher.Proofs.Decimal.Nearest

/-!
# The numbers that round to a double

Around every double above zero lie the numbers that are nearer to it than to any other double. They
end half way to its neighbours, and the ends belong to it if its significand is even. The neighbour
below a power of two is twice as near as the one above.

> `nearest_of_standsFor` a quotient in that range rounds to the double
-/

namespace Launcher.Decimal

/-- Half of the distance to the double below, in units of the double itself. -/
def halfBelow (significand : Nat) (exponent : Int) : ℚ :=
  if significand = twoPow 52 ∧ exponent ≠ -1074 then 1 / 4 else 1 / 2

/-- The number lies between the middles to the neighbours of the double; the middles themselves
belong to an even significand. -/
def StandsFor (q : ℚ) (significand : Nat) (exponent : Int) : Prop :=
  ((significand - halfBelow significand exponent) * 2 ^ exponent < q ∧
      q < (significand + 1 / 2) * 2 ^ exponent) ∨
    significand % 2 = 0 ∧ (significand - halfBelow significand exponent) * 2 ^ exponent ≤ q ∧
      q ≤ (significand + 1 / 2) * 2 ^ exponent

variable {q : ℚ} {significand : Nat} {exponent : Int}

theorem halfBelow_le : halfBelow significand exponent ≤ 1 / 2 := by
  unfold halfBelow
  split
  · norm_num
  · exact le_refl _

/-- What stands for a double is at most half a unit below it. -/
theorem StandsFor.ge (h : StandsFor q significand exponent) :
    (significand - halfBelow significand exponent) * 2 ^ exponent ≤ q := by
  rcases h with ⟨h, -⟩ | ⟨-, h, -⟩
  · exact h.le
  · exact h

/-- What stands for a double is at most half a unit above it. -/
theorem StandsFor.le (h : StandsFor q significand exponent) :
    q ≤ (significand + 1 / 2) * 2 ^ exponent := by
  rcases h with ⟨-, h⟩ | ⟨-, -, h⟩
  · exact h.le
  · exact h

/-- In the unit of the double the number has at most 53 bits. -/
theorem StandsFor.lt_unit (h : StandsFor q significand exponent)
    (hd : IsDouble significand exponent) : q < 2 ^ (53 + exponent) := by
  have hsig : (significand : ℚ) + 1 ≤ 2 ^ 53 := by
    rw [← cast_twoPow]
    exact_mod_cast hd.lt
  rw [zpow_add₀ two_ne_zero]
  have hpos : (0 : ℚ) < 2 ^ exponent := by positivity
  calc q ≤ (significand + 1 / 2) * 2 ^ exponent := h.le
    _ < 2 ^ (53 : Int) * 2 ^ exponent := by
      gcongr
      rw [zpow_ofNat]
      linarith

/-- Above the least number of 53 bits the number rounds in the unit of the double. -/
theorem StandsFor.roundsTo (h : StandsFor q significand exponent)
    (hhalf : halfBelow significand exponent = 1 / 2 ∨ (significand : ℚ) * 2 ^ exponent ≤ q) :
    RoundsTo (q / 2 ^ exponent) significand := by
  have hpos : (0 : ℚ) < 2 ^ exponent := by positivity
  unfold RoundsTo
  rw [lt_div_iff₀ hpos, div_lt_iff₀ hpos, le_div_iff₀ hpos, div_le_iff₀ hpos]
  rcases hhalf with hhalf | hge
  · rw [StandsFor, hhalf] at h
    exact h
  · have hlow : ((significand : ℚ) - 1 / 2) * 2 ^ exponent < q := by
      refine lt_of_lt_of_le ?_ hge
      gcongr
      linarith
    rcases h with ⟨-, hhigh⟩ | ⟨heven, -, hhigh⟩
    · exact Or.inl ⟨hlow, hhigh⟩
    · exact Or.inr ⟨heven, hlow.le, hhigh⟩

/-- Below the least number of 53 bits stand only numbers that round up to a power of two, in the
next smaller unit. -/
theorem StandsFor.of_lt (h : StandsFor q significand exponent) (hd : IsDouble significand exponent)
    (hlt : q < 2 ^ (52 + exponent)) (hexp : exponent ≠ -1074) :
    significand = twoPow 52 ∧ RoundsTo (q / 2 ^ (exponent - 1)) (twoPow 53) ∧
      2 ^ (51 + exponent) ≤ q := by
  have hpos : (0 : ℚ) < 2 ^ exponent := by positivity
  rw [zpow_add₀ two_ne_zero, zpow_ofNat] at hlt
  have hsig : significand = twoPow 52 := by
    refine le_antisymm (Nat.not_lt.mp fun hbig => ?_) (hd.full.resolve_left hexp)
    have hone : (2 : ℚ) ^ 52 + 1 ≤ significand := by
      rw [← cast_twoPow]
      exact_mod_cast hbig
    have hge : (2 : ℚ) ^ 52 * 2 ^ exponent
        ≤ (significand - halfBelow significand exponent) * 2 ^ exponent := by
      gcongr
      linarith [@halfBelow_le significand exponent]
    exact absurd (hge.trans h.ge) (not_le.mpr hlt)
  have hquarter : halfBelow significand exponent = 1 / 4 := by
    unfold halfBelow
    rw [if_pos ⟨hsig, hexp⟩]
  have hlow := h.ge
  rw [hquarter, hsig, cast_twoPow] at hlow
  have hunit : (2 : ℚ) ^ (exponent - 1) = 2 ^ exponent / 2 := by
    rw [zpow_sub₀ two_ne_zero, zpow_one]
  refine ⟨hsig, Or.inr ⟨by decide, ?_, ?_⟩, ?_⟩
  · rw [hunit, le_div_iff₀ (by positivity), cast_twoPow]
    linarith
  · rw [hunit, div_le_iff₀ (by positivity), cast_twoPow]
    linarith
  · rw [zpow_add₀ two_ne_zero, zpow_ofNat]
    refine le_trans ?_ hlow
    gcongr
    norm_num

/-- A quotient in the range of a double rounds to that double. -/
theorem nearest_of_standsFor {num den : Nat} (hnum : 0 < num) (hden : 0 < den)
    (hd : IsDouble significand exponent) (h : StandsFor ((num : ℚ) / den) significand exponent)
    (negative : Bool) :
    nearest negative num den
      = Float.ofBits (UInt64.ofNat
          (signBit negative + ((exponent + 1074).toNat * twoPow 52 + significand))) := by
  have hleast := hd.least
  have hmost := hd.most
  have hlt := hd.lt
  by_cases hge : exponent = -1074 ∨ (2 : ℚ) ^ (52 + exponent) ≤ num / den
  · -- the number is rounded in the unit of the double
    have hhalf : halfBelow significand exponent = 1 / 2 ∨
        (significand : ℚ) * 2 ^ exponent ≤ num / den := by
      unfold halfBelow
      split
      · next hpower =>
        right
        rw [hpower.1, cast_twoPow, ← zpow_natCast, ← zpow_add₀ two_ne_zero]
        exact hge.resolve_left hpower.2
      · exact Or.inl rfl
    rw [nearest_eq hnum hden negative ⟨hleast, h.lt_unit hd, hge⟩ (h.roundsTo hhalf)]
    have hpacked : packedBits exponent significand
        = (exponent + 1074).toNat * twoPow 52 + significand := by
      unfold packedBits
      simp only [twoPow, Nat.pow_eq] at *
      omega
    rw [hpacked]
  · -- the number is rounded in the next smaller unit
    rw [not_or, not_le] at hge
    obtain ⟨rfl, hround, hlow⟩ := h.of_lt hd hge.2 hge.1
    have hunit : IsUnit ((num : ℚ) / den) (exponent - 1) := by
      refine ⟨by omega, ?_, Or.inr ?_⟩
      · rw [show 53 + (exponent - 1) = 52 + exponent by ring]
        exact hge.2
      · rw [show 52 + (exponent - 1) = 51 + exponent by ring]
        exact hlow
    rw [nearest_eq hnum hden negative hunit hround]
    have hpacked : packedBits (exponent - 1) (twoPow 53)
        = (exponent + 1074).toNat * twoPow 52 + twoPow 52 := by
      unfold packedBits
      simp only [twoPow, Nat.pow_eq] at *
      omega
    rw [hpacked]

end Launcher.Decimal
