import Launcher.Decimal.Shortest
import Launcher.Proofs.Decimal.Interval

/-!
# The shortest decimal reads back

`shortest` looks on finer and finer grids for a decimal in the range of a double. What it finds on a
grid lies in the range by the test made there; what it takes on the last grid, of 17 digits, lies in
the range because that grid is finer than the doubles are.

> `ten_zpow_le_two_zpow` comparing powers of ten with powers of two
> `Quotient.ten_zpow_leadingPlace_le` the first digit of a double is not placed too high
> **`shortest_standsFor`** the shortest decimal lies in the range of its double
> **`nearestDecimal_of_standsFor`** a decimal in the range of a double is read as that double
-/

namespace Launcher.Decimal

/-! ## Quotients -/

theorem cast_tenPow (n : Nat) : ((tenPow n : Nat) : ℚ) = 10 ^ n := by
  show ((10 ^ n : Nat) : ℚ) = 10 ^ n
  push_cast
  rfl

/-- The number that a quotient is. -/
def Quotient.value (v : Quotient) : ℚ := v.num / v.den

theorem Quotient.ofScaled_den_pos (n : Nat) (e : Int) : 0 < (Quotient.ofScaled n e).den := by
  unfold ofScaled
  split
  · exact one_pos
  · exact Nat.pow_pos two_pos

/-- The quotient of a scaled number is that number. -/
theorem Quotient.value_ofScaled (n : Nat) (e : Int) :
    (Quotient.ofScaled n e).value = n * 2 ^ e := by
  unfold ofScaled value
  split
  · next h =>
    push_cast
    rw [cast_twoPow, zpow_toNat h, div_one]
  · next h =>
    push_cast
    rw [cast_twoPow, zpow_toNat (by omega), zpow_neg, div_inv_eq_mul]

theorem Quotient.inUnits_den_pos {v : Quotient} (hv : 0 < v.den) (e : Int) :
    0 < (v.inUnits e).den := by
  unfold inUnits
  split
  · exact Nat.mul_pos hv (Nat.pow_pos (by decide))
  · exact hv

/-- In other units a quotient is divided by them. -/
theorem Quotient.value_inUnits (v : Quotient) (e : Int) :
    (v.inUnits e).value = v.value / 10 ^ e := by
  unfold inUnits value
  split
  · next h =>
    push_cast
    rw [cast_tenPow, zpow_toNat h, div_div]
  · next h =>
    push_cast
    rw [cast_tenPow, zpow_toNat (by omega), zpow_neg]
    ring

/-- Reaching a power of ten is being at least it. -/
theorem Quotient.reaches_iff {v : Quotient} (hv : 0 < v.den) (e : Int) :
    v.reaches e = true ↔ (10 : ℚ) ^ e ≤ v.value := by
  have hpos : (0 : ℚ) < (v.inUnits e).den := by exact_mod_cast inUnits_den_pos hv e
  have hten : (0 : ℚ) < 10 ^ e := by positivity
  rw [← one_le_div hten, ← value_inUnits, value, one_le_div hpos, Nat.cast_le]
  exact decide_eq_true_iff

/-! ## The first digit -/

/-- Powers of ten against powers of two: `10 ^ 3 < 2 ^ 10` settles the exponents that are not
negative, `2 ^ 93 < 10 ^ 28` the others. -/
theorem ten_zpow_le_two_zpow {a b : Int} (hup : 10 * a ≤ 3 * b) (hdown : 93 * a ≤ 28 * b) :
    (10 : ℚ) ^ a ≤ 2 ^ b := by
  have hswap : ∀ (x : ℚ) (e : Int) (n : Nat), (x ^ e) ^ n = (x ^ n) ^ e := fun x e n => by
    rw [← zpow_natCast, ← zpow_natCast, ← zpow_mul, ← zpow_mul, mul_comm]
  have hpow : ∀ (e : Int) (n : Nat), ((2 : ℚ) ^ n) ^ e = 2 ^ (n * e) := fun e n => by
    rw [← zpow_natCast, ← zpow_mul]
  rcases le_total 0 a with ha | ha
  · refine (pow_le_pow_iff_left₀ (by positivity) (by positivity) three_ne_zero).mp ?_
    calc ((10 : ℚ) ^ a) ^ 3 = (10 ^ 3) ^ a := hswap _ _ _
      _ ≤ (2 ^ 10) ^ a := zpow_le_zpow_left₀ ha (by norm_num) (by norm_num)
      _ = 2 ^ (10 * a) := hpow a 10
      _ ≤ 2 ^ (3 * b) := zpow_le_zpow_right₀ one_le_two hup
      _ = (2 ^ 3) ^ b := (hpow b 3).symm
      _ = (2 ^ b) ^ 3 := (hswap _ _ _).symm
  · have hinv : ((10 : ℚ) ^ 28) ^ a ≤ (2 ^ 93) ^ a := by
      obtain ⟨n, rfl⟩ : ∃ n, a = -n := ⟨-a, (neg_neg a).symm⟩
      rw [zpow_neg, zpow_neg]
      refine inv_anti₀ (by positivity) (zpow_le_zpow_left₀ (by omega) (by norm_num) (by norm_num))
    refine (pow_le_pow_iff_left₀ (by positivity) (by positivity) (show 28 ≠ 0 by decide)).mp ?_
    calc ((10 : ℚ) ^ a) ^ 28 = (10 ^ 28) ^ a := hswap _ _ _
      _ ≤ (2 ^ 93) ^ a := hinv
      _ = 2 ^ (93 * a) := hpow a 93
      _ ≤ 2 ^ (28 * b) := zpow_le_zpow_right₀ one_le_two hdown
      _ = (2 ^ 28) ^ b := (hpow b 28).symm
      _ = (2 ^ b) ^ 28 := (hswap _ _ _).symm

/-- The place of the first digit is not too high, as long as the number is not out of all range. -/
theorem Quotient.ten_zpow_leadingPlace_le {v : Quotient} (hden : 0 < v.den)
    (hlow : 2 ^ (-2000 : Int) ≤ v.value) (hhigh : v.value ≤ 2 ^ (1500 : Int)) :
    (10 : ℚ) ^ v.leadingPlace ≤ v.value := by
  have hpos : 0 < v.value := lt_of_lt_of_le (by positivity) hlow
  have hnum : 0 < v.num := by
    by_contra h0
    rw [value, Nat.eq_zero_of_not_pos h0] at hpos
    simp at hpos
  obtain ⟨hbelow, habove⟩ := log2_bounds hnum hden
  rw [← value] at hbelow habove
  unfold leadingPlace
  simp only
  generalize (v.num.log2 : Int) - v.den.log2 = k at *
  have hk : k ≤ 1500 := by
    have := (zpow_lt_zpow_iff_right₀ (one_lt_two (α := ℚ))).mp (hbelow.trans_le hhigh)
    omega
  have hk' : -2000 ≤ k := by
    have := (zpow_lt_zpow_iff_right₀ (one_lt_two (α := ℚ))).mp (hlow.trans_lt habove)
    omega
  split
  · next h => exact (reaches_iff hden _).mp h
  split
  · next h => exact (reaches_iff hden _).mp h
  split
  · next h => exact (reaches_iff hden _).mp h
  · -- two places below the guess the number is reached without a test
    refine le_trans (ten_zpow_le_two_zpow ?_ ?_) hbelow.le
    · omega
    · omega

/-! ## The range -/

variable {significand digits : Nat} {exponent place : Int}

theorem Quotient.num_le_iff {v : Quotient} (hv : 0 < v.den) :
    v.num ≤ digits * v.den ↔ v.value ≤ digits := by
  have hpos : (0 : ℚ) < v.den := by exact_mod_cast hv
  rw [value, div_le_iff₀ hpos]
  exact_mod_cast Iff.rfl

theorem Quotient.le_num_iff {v : Quotient} (hv : 0 < v.den) :
    digits * v.den ≤ v.num ↔ digits ≤ v.value := by
  have hpos : (0 : ℚ) < v.den := by exact_mod_cast hv
  rw [value, le_div_iff₀ hpos]
  exact_mod_cast Iff.rfl

theorem zpow_sub_two (e : Int) : (2 : ℚ) ^ (e - 2) = 2 ^ e / 4 := by
  rw [zpow_sub₀ two_ne_zero]
  norm_num

/-- The lower end of an interval is half a unit below the double, a quarter where units halve. -/
theorem Interval.value_low (hd : IsDouble significand exponent) :
    (Quotient.ofScaled (Interval.ofDouble significand exponent).low (exponent - 2)).value
      = (significand - halfBelow significand exponent) * 2 ^ exponent := by
  have hpos := hd.pos
  rw [Quotient.value_ofScaled, zpow_sub_two]
  unfold ofDouble halfBelow
  simp only
  split
  · rw [Nat.cast_sub (by omega)]
    push_cast
    ring
  · rw [Nat.cast_sub (by omega)]
    push_cast
    ring

/-- The upper end is half a unit above. -/
theorem Interval.value_high :
    (Quotient.ofScaled (Interval.ofDouble significand exponent).high (exponent - 2)).value
      = (significand + 1 / 2) * 2 ^ exponent := by
  rw [Quotient.value_ofScaled, zpow_sub_two]
  unfold ofDouble
  push_cast
  ring

/-- Between them is the double. -/
theorem Interval.value_value :
    (Quotient.ofScaled (Interval.ofDouble significand exponent).value (exponent - 2)).value
      = significand * 2 ^ exponent := by
  rw [Quotient.value_ofScaled, zpow_sub_two]
  unfold ofDouble
  push_cast
  ring

/-- The test of a decimal against the interval of a double is whether it lies in the range. -/
theorem Interval.holds_iff (hd : IsDouble significand exponent) :
    (Interval.ofDouble significand exponent).holds digits place = true ↔
      StandsFor (digits * 10 ^ place) significand exponent := by
  have hten : (0 : ℚ) < 10 ^ place := by positivity
  have hlow := Quotient.inUnits_den_pos (Quotient.ofScaled_den_pos
    (Interval.ofDouble significand exponent).low (exponent - 2)) place
  have hhigh := Quotient.inUnits_den_pos (Quotient.ofScaled_den_pos
    (Interval.ofDouble significand exponent).high (exponent - 2)) place
  have hclosed : (Interval.ofDouble significand exponent).closed = (significand % 2 == 0) := rfl
  have hexp : (Interval.ofDouble significand exponent).exponent = exponent - 2 := rfl
  unfold holds StandsFor
  simp only [hclosed, hexp]
  rw [← value_low hd, ← value_high, ← div_lt_iff₀ hten, ← lt_div_iff₀ hten, ← div_le_iff₀ hten,
    ← le_div_iff₀ hten, ← Quotient.value_inUnits, ← Quotient.value_inUnits]
  by_cases heven : significand % 2 = 0
  · rw [if_pos (beq_iff_eq.mpr heven), Bool.and_eq_true, decide_eq_true_iff, decide_eq_true_iff,
      Quotient.num_le_iff hlow, Quotient.le_num_iff hhigh]
    constructor
    · exact fun h => Or.inr ⟨heven, h⟩
    · rintro (⟨h, h'⟩ | ⟨-, h⟩)
      · exact ⟨h.le, h'.le⟩
      · exact h
  · rw [if_neg (fun h => heven (beq_iff_eq.mp h)), Bool.and_eq_true, decide_eq_true_iff,
      decide_eq_true_iff, ← Nat.not_le, ← Nat.not_le, Quotient.num_le_iff hhigh,
      Quotient.le_num_iff hlow, not_le, not_le]
    constructor
    · exact fun h => Or.inl h
    · rintro (h | ⟨h, -⟩)
      · exact h
      · exact absurd h heven

/-! ## The search -/

theorem Interval.holds_of_onGrid? {i : Interval} (h : i.onGrid? place = some digits) :
    i.holds digits place = true := by
  unfold onGrid? at h
  extract_lets v below near far at h
  split at h
  · next hnear => exact Option.some.inj h ▸ hnear
  · split at h
    · next hfar => exact Option.some.inj h ▸ hfar
    · cases h

/-- The search ends with a decimal that has passed the test, or on the last grid. -/
theorem Interval.search_cases (i : Interval) : ∀ (more : Nat) (place : Int),
    i.holds (i.search more place).1 (i.search more place).2 = true ∨
      ((i.search more place).2 = place - more ∧
        RoundsTo ((Quotient.ofScaled i.value i.exponent).value / 10 ^ (place - more))
          (i.search more place).1) := by
  intro more
  induction more with
  | zero =>
    intro place
    right
    have hden := Quotient.inUnits_den_pos (Quotient.ofScaled_den_pos i.value i.exponent) place
    rw [Nat.cast_zero, sub_zero, ← Quotient.value_inUnits]
    exact ⟨rfl, roundsTo_roundDiv hden⟩
  | succ more ih =>
    intro place
    rw [search]
    split
    · next d hgrid => exact Or.inl (holds_of_onGrid? hgrid)
    · rw [show place - (more + 1 : Nat) = place - 1 - more by push_cast; ring]
      exact ih (place - 1)

/-- A rounded number is at most a half away. -/
theorem RoundsTo.near {q : ℚ} {k : Nat} (h : RoundsTo q k) :
    q - 1 / 2 ≤ k ∧ (k : ℚ) ≤ q + 1 / 2 := by
  rcases h with ⟨h, h'⟩ | ⟨-, h, h'⟩
  · exact ⟨by linarith, by linarith⟩
  · exact ⟨by linarith, by linarith⟩

/-- On a grid of 17 digits the nearest decimal to a double lies in its range. -/
theorem standsFor_of_fine (hd : IsDouble significand exponent)
    (hfine : (10 : ℚ) ^ (place + 16) ≤ significand * 2 ^ exponent)
    (hround : RoundsTo (significand * 2 ^ exponent / 10 ^ place) digits) :
    StandsFor (digits * 10 ^ place) significand exponent := by
  obtain ⟨hbelow, habove⟩ := hround.near
  have hten : (0 : ℚ) < 10 ^ place := by positivity
  have htwo : (0 : ℚ) < 2 ^ exponent := by positivity
  have hlt : (significand : ℚ) < 2 ^ 53 := by
    rw [← cast_twoPow]
    exact_mod_cast hd.lt
  have hsplit : (10 : ℚ) ^ (place + 16) = 10 ^ place * 10 ^ 16 := by
    rw [zpow_add₀ (by norm_num)]
    rfl
  rw [hsplit] at hfine
  rw [sub_le_iff_le_add, div_le_iff₀ hten] at hbelow
  rw [← sub_le_iff_le_add, le_div_iff₀ hten] at habove
  have hless : (significand : ℚ) * 2 ^ exponent < 2 ^ 53 * 2 ^ exponent := by gcongr
  -- half a step of the grid is shorter than the range to either side
  have hdown : (10 : ℚ) ^ place / 2 < halfBelow significand exponent * 2 ^ exponent := by
    unfold halfBelow
    split
    · next hpower =>
      rw [hpower.1, cast_twoPow] at hfine
      generalize (2 : ℚ) ^ exponent = unit at *
      linarith
    · generalize (2 : ℚ) ^ exponent = unit at *
      linarith
  left
  constructor
  · linarith
  · linarith

/-- Stripping zeros leaves the number as it is. -/
theorem stripZeros_value : ∀ (fuel digits : Nat) (place : Int),
    ((stripZeros fuel digits place).1 : ℚ) * 10 ^ (stripZeros fuel digits place).2
      = digits * 10 ^ place := by
  intro fuel
  induction fuel with
  | zero => exact fun _ _ => rfl
  | succ fuel ih =>
    intro digits place
    rw [stripZeros]
    split
    · next h =>
      rw [ih, zpow_add_one₀ (by norm_num)]
      have hten : (digits : ℚ) = (digits / 10 : Nat) * 10 := by
        exact_mod_cast (Nat.div_mul_cancel (Nat.dvd_of_mod_eq_zero h.1)).symm
      rw [hten]
      ring
    · rfl

/-- **The shortest decimal of a double lies in the range of the double.** -/
theorem shortest_standsFor (hd : IsDouble significand exponent) :
    StandsFor ((shortest significand exponent).1 * 10 ^ (shortest significand exponent).2)
      significand exponent := by
  unfold shortest
  simp only
  have hexponent : (Interval.ofDouble significand exponent).exponent = exponent - 2 := rfl
  rw [stripZeros_value, hexponent]
  have hvalue := @Interval.value_value significand exponent
  have hden :=
    Quotient.ofScaled_den_pos (Interval.ofDouble significand exponent).value (exponent - 2)
  have hone : (1 : ℚ) ≤ significand := by exact_mod_cast hd.pos
  have hlow : (2 : ℚ) ^ (-2000 : Int) ≤ significand * 2 ^ exponent :=
    calc (2 : ℚ) ^ (-2000 : Int) ≤ 2 ^ exponent :=
          zpow_le_zpow_right₀ one_le_two (by have := hd.least; omega)
      _ ≤ significand * 2 ^ exponent := le_mul_of_one_le_left (by positivity) hone
  have hhigh : (significand : ℚ) * 2 ^ exponent ≤ 2 ^ (1500 : Int) :=
    calc (significand : ℚ) * 2 ^ exponent ≤ 2 ^ (53 : Int) * 2 ^ exponent := by
          gcongr
          rw [zpow_ofNat, ← cast_twoPow]
          exact_mod_cast hd.lt.le
      _ = 2 ^ (53 + exponent) := (zpow_add₀ two_ne_zero _ _).symm
      _ ≤ 2 ^ (1500 : Int) := zpow_le_zpow_right₀ one_le_two (by have := hd.most; omega)
  have hfirst := Quotient.ten_zpow_leadingPlace_le hden (hvalue ▸ hlow) (hvalue ▸ hhigh)
  generalize (Quotient.ofScaled (Interval.ofDouble significand exponent).value
    (exponent - 2)).leadingPlace = first at *
  rcases (Interval.ofDouble significand exponent).search_cases 16 first with h | ⟨hlast, hround⟩
  · exact (Interval.holds_iff hd).mp h
  · rw [hlast]
    refine standsFor_of_fine hd ?_ ?_
    · rw [← hvalue]
      push_cast
      rw [sub_add_cancel]
      exact hfirst
    · rw [← hvalue]
      exact hround

/-! ## Reading back -/

/-- What stands for a positive double is not below half the least double. -/
theorem StandsFor.ge_half {q : ℚ} (h : StandsFor q significand exponent)
    (hd : IsDouble significand exponent) : (2 : ℚ) ^ (-1075 : Int) ≤ q := by
  have hone : (1 : ℚ) ≤ significand := by exact_mod_cast hd.pos
  calc (2 : ℚ) ^ (-1075 : Int) ≤ 2 ^ (exponent - 1) :=
        zpow_le_zpow_right₀ one_le_two (by have := hd.least; omega)
    _ = 1 / 2 * 2 ^ exponent := by
      rw [zpow_sub₀ two_ne_zero, zpow_one]
      ring
    _ ≤ (significand - halfBelow significand exponent) * 2 ^ exponent := by
      gcongr
      linarith [@halfBelow_le significand exponent]
    _ ≤ q := h.ge

/-- What has `n` binary digits has at most `n / 3 + 1` decimal ones. -/
theorem lt_ten_pow_log2 (n : Nat) : n < 10 ^ (n.log2 / 3 + 1) :=
  calc n < 2 ^ (n.log2 + 1) := Nat.lt_log2_self
    _ ≤ 2 ^ (3 * (n.log2 / 3 + 1)) := Nat.pow_le_pow_right two_pos (by omega)
    _ = 8 ^ (n.log2 / 3 + 1) := Nat.pow_mul 2 3 _
    _ ≤ 10 ^ (n.log2 / 3 + 1) := Nat.pow_le_pow_left (by decide) _

section Reading

variable (hd : IsDouble significand exponent)
  (h : StandsFor (digits * 10 ^ place) significand exponent)
include hd h

/-- A decimal that stands for a positive double is not zero. -/
theorem StandsFor.digits_pos : 0 < digits := by
  have hpos : (0 : ℚ) < digits * 10 ^ place := lt_of_lt_of_le (by positivity) (h.ge_half hd)
  refine Nat.pos_of_ne_zero fun h0 => ?_
  rw [h0] at hpos
  simp at hpos

/-- A decimal that stands for a double is not beyond all doubles. -/
theorem StandsFor.place_le : place ≤ 400 := by
  by_contra hlt
  have hten : (0 : ℚ) < 10 ^ place := by positivity
  have hone : (1 : ℚ) ≤ digits := by exact_mod_cast h.digits_pos hd
  have h1 : (10 : ℚ) ^ (342 : Int) ≤ digits * 10 ^ place :=
    calc (10 : ℚ) ^ (342 : Int) ≤ 10 ^ place := zpow_le_zpow_right₀ (by norm_num) (by omega)
      _ ≤ digits * 10 ^ place := le_mul_of_one_le_left hten.le hone
  have h2 : (digits : ℚ) * 10 ^ place < 2 ^ (3 * 342 : Int) :=
    (h.lt_unit hd).trans_le (zpow_le_zpow_right₀ one_le_two (by have := hd.most; omega))
  have h3 : (2 : ℚ) ^ (3 * 342 : Int) ≤ 10 ^ (342 : Int) := by
    rw [zpow_mul]
    exact zpow_le_zpow_left₀ (by decide) (by positivity) (by norm_num)
  exact absurd (h1.trans_lt h2) (not_lt.mpr h3)

/-- Nor is it below them all. -/
theorem StandsFor.place_ge : -330 ≤ (digits.log2 : Int) / 3 + 2 + place := by
  by_contra hlt
  have h1 : (digits : ℚ) * 10 ^ place < 2 ^ (-1075 : Int) :=
    calc (digits : ℚ) * 10 ^ place < 10 ^ (digits.log2 / 3 + 1) * 10 ^ place := by
          gcongr
          exact_mod_cast lt_ten_pow_log2 digits
      _ = 10 ^ (((digits.log2 / 3 + 1 : Nat) : Int) + place) := by
        rw [zpow_add₀ (by norm_num), zpow_natCast]
      _ ≤ 10 ^ (-332 : Int) := zpow_le_zpow_right₀ (by norm_num) (by omega)
      _ ≤ 2 ^ (-1075 : Int) := ten_zpow_le_two_zpow (by norm_num) (by norm_num)
  exact absurd (h.ge_half hd) (not_le.mpr h1)

/-- **A decimal in the range of a double is read as that double.** -/
theorem nearestDecimal_of_standsFor (negative : Bool) :
    nearestDecimal negative digits place
      = Float.ofBits (UInt64.ofNat
          (signBit negative + ((exponent + 1074).toNat * twoPow 52 + significand))) := by
  have hdigits := h.digits_pos hd
  unfold nearestDecimal
  rw [if_neg hdigits.ne', if_neg (not_lt.mpr (h.place_le hd)), if_neg (not_lt.mpr (h.place_ge hd))]
  split
  · next hplace =>
    have hnum : 0 < digits * tenPow place.toNat :=
      Nat.mul_pos hdigits (Nat.pow_pos (by decide))
    refine nearest_of_standsFor hnum one_pos hd ?_ negative
    rw [Nat.cast_one, div_one, Nat.cast_mul, cast_tenPow, zpow_toNat hplace]
    exact h
  · next hplace =>
    have hden : 0 < tenPow (-place).toNat := Nat.pow_pos (by decide)
    refine nearest_of_standsFor hdigits hden hd ?_ negative
    rw [cast_tenPow, zpow_toNat (by omega), zpow_neg, div_inv_eq_mul]
    exact h

end Reading

end Launcher.Decimal
