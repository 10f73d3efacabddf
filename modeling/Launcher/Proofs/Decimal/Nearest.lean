import Mathlib.Algebra.Order.Field.Power
import Mathlib.Tactic.FieldSimp
import Mathlib.Tactic.Linarith
import Mathlib.Tactic.Positivity
import Mathlib.Tactic.Ring
import Launcher.Proofs.Decimal.Bits

/-!
# Rounding to the nearest double

What `nearest` computes, in exact numbers. A positive quotient has one unit, a power of two, in
which it has 53 significant bits (or the unit is the smallest there is), and rounding it means to
round the number of units to a whole number, a half to the even neighbour.

> `log2_bounds` how large a quotient is
> `RoundsTo.unique`, `IsUnit.unique` both are determined by the quotient
> `nearest_eq` the double is packed from the unit and the number of units
> **`isInf_nearest_iff`** it is infinite exactly from half a unit above the largest double on
> `ofInt?_eq_none_iff` the whole numbers that have no double
-/

namespace Launcher.Decimal

/-! ## Whole numbers -/

/-- `k` is the whole number nearest to `q`, of two the even one. -/
def RoundsTo (q : ℚ) (k : Nat) : Prop :=
  ((k : ℚ) - 1 / 2 < q ∧ q < k + 1 / 2) ∨
    k % 2 = 0 ∧ (k : ℚ) - 1 / 2 ≤ q ∧ q ≤ k + 1 / 2

/-- The quotient of whole numbers is rounded, a half to the even neighbour. -/
theorem roundsTo_roundDiv {num den : Nat} (hden : 0 < den) :
    RoundsTo ((num : ℚ) / den) (roundDiv num den) := by
  have hpos : (0 : ℚ) < den := by exact_mod_cast hden
  have hsplit : (num : ℚ) / den = (num / den : Nat) + ((num % den : Nat) : ℚ) / den := by
    have h : (num : ℚ) = den * (num / den : Nat) + (num % den : Nat) := by
      exact_mod_cast (Nat.div_add_mod num den).symm
    field_simp
    linarith
  have hrest : (0 : ℚ) ≤ ((num % den : Nat) : ℚ) / den := by positivity
  unfold RoundsTo roundDiv
  simp only
  rw [hsplit]
  -- the whole part stays or goes up by one as the rest is below or above a half
  generalize num / den = whole at *
  split
  · next h =>
    have : ((num % den : Nat) : ℚ) / den < 1 / 2 := by
      rw [div_lt_div_iff₀ hpos two_pos]
      have : ((2 * (num % den) : Nat) : ℚ) < den := by exact_mod_cast h
      push_cast at this
      linarith
    exact Or.inl ⟨by linarith, by linarith⟩
  · split
    · next h =>
      have hhalf : 1 / 2 < ((num % den : Nat) : ℚ) / den := by
        rw [div_lt_div_iff₀ two_pos hpos]
        have : (den : ℚ) < ((2 * (num % den) : Nat) : ℚ) := by exact_mod_cast h
        push_cast at this
        linarith
      have hone : ((num % den : Nat) : ℚ) / den < 1 := by
        rw [div_lt_one hpos]
        exact_mod_cast Nat.mod_lt num hden
      push_cast
      exact Or.inl ⟨by linarith, by linarith⟩
    · next hnot hnot' =>
      have hhalf : ((num % den : Nat) : ℚ) / den = 1 / 2 := by
        rw [div_eq_div_iff hpos.ne' two_ne_zero]
        have : ((2 * (num % den) : Nat) : ℚ) = den := by
          exact_mod_cast Nat.le_antisymm (Nat.not_lt.mp hnot') (Nat.not_lt.mp hnot)
        push_cast at this
        linarith
      rw [hhalf]
      split
      · next heven => exact Or.inr ⟨heven, by linarith, by linarith⟩
      · next hodd =>
        push_cast
        exact Or.inr ⟨by omega, by linarith, by linarith⟩

/-- Only one whole number is the nearest. -/
theorem RoundsTo.unique {q : ℚ} {k l : Nat} (hk : RoundsTo q k) (hl : RoundsTo q l) : k = l := by
  have hweak : ∀ {m : Nat}, RoundsTo q m → (m : ℚ) - 1 / 2 ≤ q ∧ q ≤ m + 1 / 2 := by
    rintro m (⟨h, h'⟩ | ⟨-, h, h'⟩)
    · exact ⟨h.le, h'.le⟩
    · exact ⟨h, h'⟩
  -- two different ones would be neighbours with `q` half way between them
  wlog hlt : k < l generalizing k l
  · rcases Nat.lt_trichotomy k l with h | h | h
    · exact absurd h hlt
    · exact h
    · exact (this hl hk h).symm
  have hstep : (k : ℚ) + 1 ≤ l := by exact_mod_cast hlt
  have h1 := hweak hk
  have h2 := hweak hl
  have hq : q = k + 1 / 2 := by linarith
  have hl' : (l : ℚ) = k + 1 := by linarith
  have hkeven : k % 2 = 0 := by
    rcases hk with ⟨-, h⟩ | ⟨h, -⟩
    · linarith
    · exact h
  have hleven : l % 2 = 0 := by
    rcases hl with ⟨h, -⟩ | ⟨h, -⟩
    · linarith
    · exact h
  have : l = k + 1 := by exact_mod_cast hl'
  omega

/-! ## The unit -/

/-- The power of two as an exact number. -/
theorem cast_twoPow (n : Nat) : ((twoPow n : Nat) : ℚ) = 2 ^ n := by
  show ((2 ^ n : Nat) : ℚ) = 2 ^ n
  push_cast
  rfl

theorem zpow_toNat {e : Int} (h : 0 ≤ e) (b : ℚ) : b ^ e.toNat = b ^ e := by
  rw [← zpow_natCast, Int.toNat_of_nonneg h]

/-- Scaling keeps the quotient, in units of a power of two. -/
theorem scaleDown_spec (num : Nat) {den : Nat} (hden : 0 < den) (e : Int) :
    0 < (scaleDown num den e).2 ∧
      ((scaleDown num den e).1 : ℚ) / (scaleDown num den e).2 = num / den / 2 ^ e := by
  have htwo : ∀ n, 0 < twoPow n := fun n => Nat.pow_pos two_pos
  unfold scaleDown
  split
  · next h =>
    refine ⟨Nat.mul_pos hden (htwo _), ?_⟩
    show (num : ℚ) / ((den * twoPow e.toNat : Nat) : ℚ) = _
    push_cast
    rw [cast_twoPow, zpow_toNat h, div_div]
  · next h =>
    refine ⟨hden, ?_⟩
    show ((num * twoPow (-e).toNat : Nat) : ℚ) / den = _
    push_cast
    rw [cast_twoPow, zpow_toNat (by omega), zpow_neg]
    ring

/-- In the unit `2 ^ unit` the number `q` has 53 significant bits, or the unit is the smallest. -/
structure IsUnit (q : ℚ) (unit : Int) : Prop where
  least : -1074 ≤ unit
  lt : q < 2 ^ (53 + unit)
  ge : unit = -1074 ∨ 2 ^ (52 + unit) ≤ q

/-- A number has one unit. -/
theorem IsUnit.unique {q : ℚ} {u v : Int} (hu : IsUnit q u) (hv : IsUnit q v) : u = v := by
  have hone : ∀ {a b : Int}, IsUnit q a → IsUnit q b → a ≤ b := by
    intro a b ha hb
    rcases ha.ge with h | h
    · exact h ▸ hb.least
    · have := (zpow_lt_zpow_iff_right₀ (one_lt_two (α := ℚ))).mp (h.trans_lt hb.lt)
      omega
  exact le_antisymm (hone hu hv) (hone hv hu)

/-- The binary logarithms of numerator and denominator tell how large a quotient is, up to a factor
of two to either side. -/
theorem log2_bounds {num den : Nat} (hnum : 0 < num) (hden : 0 < den) :
    (2 : ℚ) ^ ((num.log2 : Int) - den.log2 - 1) < num / den ∧
      (num : ℚ) / den < 2 ^ ((num.log2 : Int) - den.log2 + 1) := by
  have hpos : (0 : ℚ) < den := by exact_mod_cast hden
  constructor
  · have hn : ((2 ^ num.log2 : Nat) : ℚ) ≤ num := by exact_mod_cast Nat.log2_self_le hnum.ne'
    have hd : (den : ℚ) < ((2 ^ (den.log2 + 1) : Nat) : ℚ) := by exact_mod_cast Nat.lt_log2_self
    push_cast at hn hd
    rw [lt_div_iff₀ hpos, show (num.log2 : Int) - den.log2 - 1 = num.log2 - (den.log2 + 1 : Nat) by
      push_cast; ring, zpow_sub₀ two_ne_zero, zpow_natCast, zpow_natCast, div_mul_eq_mul_div,
      div_lt_iff₀ (by positivity)]
    calc (2 : ℚ) ^ num.log2 * den < 2 ^ num.log2 * 2 ^ (den.log2 + 1) := by gcongr
      _ ≤ num * 2 ^ (den.log2 + 1) := by gcongr
  · have hn : (num : ℚ) < ((2 ^ (num.log2 + 1) : Nat) : ℚ) := by exact_mod_cast Nat.lt_log2_self
    have hd : ((2 ^ den.log2 : Nat) : ℚ) ≤ den := by exact_mod_cast Nat.log2_self_le hden.ne'
    push_cast at hn hd
    rw [div_lt_iff₀ hpos, show (num.log2 : Int) - den.log2 + 1 = (num.log2 + 1 : Nat) - den.log2 by
      push_cast; ring, zpow_sub₀ two_ne_zero, zpow_natCast, zpow_natCast, div_mul_eq_mul_div,
      lt_div_iff₀ (by positivity)]
    calc (num : ℚ) * 2 ^ den.log2 < 2 ^ (num.log2 + 1) * 2 ^ den.log2 := by gcongr
      _ ≤ 2 ^ (num.log2 + 1) * den := by gcongr

/-- The unit that is found is the one. -/
theorem isUnit_unitExponent {num den : Nat} (hnum : 0 < num) (hden : 0 < den) :
    IsUnit ((num : ℚ) / den) (unitExponent num den) := by
  have h2 : (1 : ℚ) < 2 := one_lt_two
  obtain ⟨hlow, hhigh⟩ := log2_bounds hnum hden
  unfold unitExponent
  simp only
  generalize hk : (num.log2 : Int) - den.log2 = k at *
  generalize hl : max (k - 53) (-1074) = low
  obtain ⟨hd, hscaled⟩ := scaleDown_spec num hden low
  have hfloor : (scaleDown num den low).1 / (scaleDown num den low).2 < twoPow 53 ↔
      (num : ℚ) / den < 2 ^ (53 + low) := by
    rw [Nat.div_lt_iff_lt_mul hd, zpow_add₀ two_ne_zero, ← div_lt_iff₀ (by positivity), ← hscaled,
      div_lt_iff₀ (by exact_mod_cast hd), ← Nat.cast_lt (α := ℚ), Nat.cast_mul, cast_twoPow]
    norm_cast
  split
  · next h =>
    refine ⟨by omega, hfloor.mp h, ?_⟩
    by_cases hmin : low = -1074
    · exact Or.inl hmin
    · refine Or.inr (le_of_lt ?_)
      have : 52 + low = k - 1 := by omega
      rw [this]
      exact hlow
  · next h =>
    rw [hfloor, not_lt] at h
    refine ⟨by omega, hhigh.trans_le ?_, Or.inr ?_⟩
    · exact zpow_le_zpow_right₀ h2.le (by omega)
    · rw [show 52 + (low + 1) = 53 + low by ring]
      exact h

/-! ## The nearest double -/

/-- The bits of a number, counted in units and put together with its unit. -/
def packedBits (unit : Int) (units : Nat) : Nat :=
  min ((unit + 1074).toNat * twoPow 52 + units) (2047 * twoPow 52)

/-- Rounding finds the unit, and then the nearest number of units. -/
theorem nearest_eq {num den : Nat} (hnum : 0 < num) (hden : 0 < den) (negative : Bool) {unit : Int}
    {units : Nat} (hunit : IsUnit ((num : ℚ) / den) unit)
    (hround : RoundsTo ((num : ℚ) / den / 2 ^ unit) units) :
    nearest negative num den
      = Float.ofBits (UInt64.ofNat (signBit negative + packedBits unit units)) := by
  have hu : unitExponent num den = unit := (isUnit_unitExponent hnum hden).unique hunit
  obtain ⟨hd, hscaled⟩ := scaleDown_spec num hden unit
  have hr : roundDiv (scaleDown num den unit).1 (scaleDown num den unit).2 = units := by
    refine (roundsTo_roundDiv hd).unique ?_
    rw [hscaled]
    exact hround
  unfold nearest
  rw [if_neg hnum.ne', hu]
  simp only
  rw [hr]
  rfl

/-! ## The largest double -/

theorem isInf_ofBits_packed (negative : Bool) (unit : Int) (units : Nat) :
    (Float.ofBits (UInt64.ofNat (signBit negative + packedBits unit units))).isInf = true ↔
      2047 * twoPow 52 ≤ (unit + 1074).toNat * twoPow 52 + units := by
  have hle : packedBits unit units ≤ 2047 * twoPow 52 := Nat.min_le_right _ _
  rw [isInf_iff, toNat_toBits_signed hle, signBit_add_mod hle, packedBits]
  omega

/-- An even number is at most the rounded one as soon as it is at most half a unit beyond. -/
theorem RoundsTo.le_iff {q : ℚ} {k : Nat} (h : RoundsTo q k) (even : Nat) (heven : even % 2 = 0) :
    even ≤ k ↔ (even : ℚ) - 1 / 2 ≤ q := by
  constructor
  · intro hle
    have hcast : (even : ℚ) ≤ k := by exact_mod_cast hle
    rcases h with ⟨hlow, -⟩ | ⟨-, hlow, -⟩
    · linarith
    · linarith
  · intro hq
    by_contra hlt
    have hcast : (k : ℚ) + 1 ≤ even := by exact_mod_cast Nat.not_le.mp hlt
    rcases h with ⟨-, hhigh⟩ | ⟨hk, -, hhigh⟩
    · linarith
    · -- half way between two neighbours that are both even
      have : (even : ℚ) = k + 1 := by linarith
      have : even = k + 1 := by exact_mod_cast this
      omega

/-- Half a unit above the largest double, in units of 53 bits and one more. -/
theorem two_zpow_split : (2 : ℚ) ^ (1023 : Int) = 2 ^ 53 * 2 ^ (970 : Int) ∧
    (2 : ℚ) ^ (1024 : Int) = 2 ^ 54 * 2 ^ (970 : Int) := by
  constructor
  · rw [← zpow_natCast, ← zpow_add₀ two_ne_zero]
    rfl
  · rw [← zpow_natCast, ← zpow_add₀ two_ne_zero]
    rfl

section Bound

variable {q : ℚ} {unit : Int} {units : Nat}

/-- No number of at most 53 bits in a small unit comes near the bound. -/
theorem below_bound (hunit : IsUnit q unit) (hround : RoundsTo (q / 2 ^ unit) units)
    (hsmall : unit < 971) : (unit + 1074).toNat * twoPow 52 + units < 2047 * twoPow 52 ∧
      q < 2 ^ (1024 : Int) - 2 ^ (970 : Int) := by
  have hpos : (0 : ℚ) < 2 ^ unit := by positivity
  have hunits : units < twoPow 53 + 2 := by
    by_contra hge
    have hle := (hround.le_iff (twoPow 53 + 2) (by decide)).mp (Nat.not_lt.mp hge)
    have hlt : q / 2 ^ unit < 2 ^ (53 : Int) := by
      rw [div_lt_iff₀ hpos, ← zpow_add₀ two_ne_zero]
      exact hunit.lt
    rw [Nat.cast_add, cast_twoPow] at hle
    rw [zpow_ofNat] at hlt
    push_cast at hle
    linarith
  constructor
  · have : (unit + 1074).toNat ≤ 2044 := by omega
    simp only [twoPow, Nat.pow_eq] at *
    omega
  · have hq : q < 2 ^ (1023 : Int) :=
      hunit.lt.trans_le (zpow_le_zpow_right₀ one_le_two (by omega))
    have hhalf : (0 : ℚ) < 2 ^ (970 : Int) := by positivity
    rw [two_zpow_split.1] at hq
    rw [two_zpow_split.2]
    generalize (2 : ℚ) ^ (970 : Int) = half at *
    linarith only [hq, hhalf]

/-- In the unit of the largest double the bound is reached with the bits of the next unit. -/
theorem bound_iff (hround : RoundsTo (q / 2 ^ (971 : Int)) units) :
    2047 * twoPow 52 ≤ ((971 : Int) + 1074).toNat * twoPow 52 + units ↔
      (2 : ℚ) ^ (1024 : Int) - 2 ^ (970 : Int) ≤ q := by
  have hpos : (0 : ℚ) < 2 ^ (971 : Int) := by positivity
  have hbits : 2047 * twoPow 52 ≤ ((971 : Int) + 1074).toNat * twoPow 52 + units ↔
      twoPow 53 ≤ units := by
    simp only [twoPow, Nat.pow_eq]
    omega
  have hdouble : (2 : ℚ) ^ (971 : Int) = 2 * 2 ^ (970 : Int) := by
    rw [← zpow_one_add₀ two_ne_zero]
    rfl
  rw [hbits, hround.le_iff _ (by decide), le_div_iff₀ hpos, cast_twoPow, hdouble,
    two_zpow_split.2]
  generalize (2 : ℚ) ^ (970 : Int) = half at *
  constructor
  · intro h
    linarith
  · intro h
    linarith

/-- Unless the unit is the smallest, a number has at least 53 bits in it. -/
theorem IsUnit.full_units (hunit : IsUnit q unit) (hround : RoundsTo (q / 2 ^ unit) units)
    (hunit' : unit ≠ -1074) : twoPow 52 ≤ units := by
  have hpos : (0 : ℚ) < 2 ^ unit := by positivity
  have hfull : (2 : ℚ) ^ (52 + unit) ≤ q := hunit.ge.resolve_left hunit'
  rw [hround.le_iff _ (by decide), le_div_iff₀ hpos, cast_twoPow]
  rw [zpow_add₀ two_ne_zero, zpow_ofNat] at hfull
  generalize (2 : ℚ) ^ unit = one at *
  exact (mul_le_mul_of_nonneg_right (sub_le_self _ (by positivity)) hpos.le).trans hfull

/-- Every number of 53 bits in a larger unit is beyond the bound. -/
theorem beyond_bound (hunit : IsUnit q unit) (hround : RoundsTo (q / 2 ^ unit) units)
    (hlarge : 971 < unit) : 2047 * twoPow 52 ≤ (unit + 1074).toNat * twoPow 52 + units ∧
      (2 : ℚ) ^ (1024 : Int) - 2 ^ (970 : Int) ≤ q := by
  have hfull : (2 : ℚ) ^ (52 + unit) ≤ q := hunit.ge.resolve_left (by omega)
  constructor
  · have hunits : twoPow 52 ≤ units := hunit.full_units hround (by omega)
    have : 2046 ≤ (unit + 1074).toNat := by omega
    simp only [twoPow, Nat.pow_eq] at *
    omega
  · have hhalf : (0 : ℚ) < 2 ^ (970 : Int) := by positivity
    exact (sub_le_self _ hhalf.le).trans
      ((zpow_le_zpow_right₀ one_le_two (by omega)).trans hfull)

end Bound

/-- **Beyond the largest double.** A quotient has an infinite double exactly from half a unit above
the largest double on. -/
theorem isInf_nearest_iff {num den : Nat} (hnum : 0 < num) (hden : 0 < den) (negative : Bool) :
    (nearest negative num den).isInf = true ↔
      (2 : ℚ) ^ (1024 : Int) - 2 ^ (970 : Int) ≤ num / den := by
  have hunit := isUnit_unitExponent hnum hden
  generalize unitExponent num den = unit at hunit
  obtain ⟨hd, hscaled⟩ := scaleDown_spec num hden unit
  have hround : RoundsTo ((num : ℚ) / den / 2 ^ unit)
      (roundDiv (scaleDown num den unit).1 (scaleDown num den unit).2) :=
    hscaled ▸ roundsTo_roundDiv hd
  rw [nearest_eq hnum hden negative hunit hround, isInf_ofBits_packed]
  rcases Int.lt_trichotomy unit 971 with hsmall | rfl | hlarge
  · obtain ⟨hbits, hq⟩ := below_bound hunit hround hsmall
    exact iff_of_false (Nat.not_le.mpr hbits) (not_le.mpr hq)
  · exact bound_iff hround
  · obtain ⟨hbits, hq⟩ := beyond_bound hunit hround hlarge
    exact iff_of_true hbits hq

/-- A whole number has a double unless it is at least half a unit above the largest one. -/
theorem ofInt?_eq_none_iff (n : Int) : ofInt? n = none ↔ 2 ^ 1024 - 2 ^ 970 ≤ |n| := by
  have hinf : (nearest (n < 0) n.natAbs 1).isInf = true ↔ ofInt? n = none := by
    unfold ofInt?
    simp only
    split
    · next h => exact iff_of_true h rfl
    · next h => exact iff_of_false h nofun
  rw [← hinf]
  have hsize : (n.natAbs : ℚ) / (1 : Nat) = ((|n| : Int) : ℚ) := by
    rw [Nat.cast_one, div_one, Int.abs_eq_natAbs]
    rfl
  rcases Nat.eq_zero_or_pos n.natAbs with h0 | hpos
  · obtain rfl := Int.natAbs_eq_zero.mp h0
    refine iff_of_false (by decide) ?_
    have : (2 : Int) ^ 970 < 2 ^ 1024 := pow_lt_pow_right₀ one_lt_two (by decide)
    rw [abs_zero]
    exact not_le.mpr (sub_pos.mpr this)
  · rw [isInf_nearest_iff hpos one_pos, hsize, ← Int.cast_le (R := ℚ), Int.cast_sub, Int.cast_pow,
      Int.cast_pow]
    rfl

end Launcher.Decimal
