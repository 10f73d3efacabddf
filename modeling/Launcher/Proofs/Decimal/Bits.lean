import Mathlib
import Launcher.Decimal.Reading

/-!
# The bits of a double

A `Float` is given by its bits, and only one row of bits stands for what is not a number. A row of
bits comes back from the double made of it if, its sign aside, it is at most `2047 * 2 ^ 52`, the
row of infinity; the numbers stand below.

> `toBits_ofBits` the bits of a number or of an infinity come back
> `isInf_iff` the infinities by their bits
> `ofFloat_finite`, `ofFloat_infinite`, `ofFloat_notANumber` a double from its parts
-/

namespace Launcher.Decimal

open Float.Model Float.Model.UnpackedFloat

/-- Eleven bits are the exponent. -/
theorem toNat_unpackExponent (b : BitVec Format.binary64.numBits) :
    (unpackExponent b).toNat = b.toNat / 2 ^ 52 % 2 ^ 11 := by
  rw [unpackExponent_def, BitVec.extractLsb'_toNat, Nat.shiftRight_eq_div_pow]

/-- Fifty-two bits are the significand. -/
theorem toNat_unpackMantissa (b : BitVec Format.binary64.numBits) :
    (unpackMantissa b).toNat = b.toNat % 2 ^ 52 := by
  rw [unpackMantissa_def, BitVec.extractLsb'_toNat, Nat.shiftRight_zero]

theorem unpackExponent_eq_iff (b : BitVec Format.binary64.numBits) :
    unpackExponent b = -BitVec.ofNat Format.binary64.exponentBits 1 ↔
      b.toNat / 2 ^ 52 % 2 ^ 11 = 2047 := by
  rw [← toNat_unpackExponent, ← BitVec.toNat_inj]
  rfl

theorem unpackMantissa_eq_iff (b : BitVec Format.binary64.numBits) :
    unpackMantissa b = BitVec.ofNat Format.binary64.mantissaBitsWithoutImplicit 0 ↔
      b.toNat % 2 ^ 52 = 0 := by
  rw [← toNat_unpackMantissa, ← BitVec.toNat_inj]
  rfl

/-- The bits of what is a number or infinite come back from the double made of them. -/
theorem toBits_ofBits {b : UInt64} (h : b.toNat % twoPow 63 ≤ 2047 * twoPow 52) :
    (Float.ofBits b).toBits = b := by
  have hnan : @isNaNBits .binary64 b.toBitVec = false := by
    rw [isNaNBits, decide_eq_false_iff_not, unpackExponent_eq_iff, Ne, unpackMantissa_eq_iff]
    show ¬ (b.toNat / 2 ^ 52 % 2 ^ 11 = 2047 ∧ ¬ b.toNat % 2 ^ 52 = 0)
    simp only [twoPow, Nat.pow_eq] at h
    omega
  refine UInt64.toBitVec_inj.mp ?_
  show UnpackedFloat.pack .binary64 (UnpackedFloat.unpack .binary64 b.toBitVec) = b.toBitVec
  rw [@pack_unpack .binary64 b.toBitVec (by decide), hnan]
  rfl

/-- The infinities have the largest exponent and no significand. -/
theorem isInf_unpack {spec : Format} (b : BitVec spec.numBits) :
    (UnpackedFloat.unpack spec b).isInf = true ↔
      unpackExponent b = -BitVec.ofNat spec.exponentBits 1 ∧
        unpackMantissa b = BitVec.ofNat spec.mantissaBitsWithoutImplicit 0 := by
  unfold UnpackedFloat.unpack
  simp only
  split_ifs with hinf hman hzero hman
  · exact iff_of_true rfl ⟨hinf, hman⟩
  · exact iff_of_false Bool.false_ne_true fun h => hman h.2
  · exact iff_of_false Bool.false_ne_true fun h => hinf h.1
  · exact iff_of_false Bool.false_ne_true fun h => hinf h.1
  · exact iff_of_false Bool.false_ne_true fun h => hinf h.1

/-- The infinite doubles by their bits. -/
theorem isInf_iff (x : Float) : x.isInf = true ↔ x.toBits.toNat % twoPow 63 = 2047 * twoPow 52 := by
  refine (@isInf_unpack .binary64 x.toBits.toBitVec).trans ?_
  rw [unpackExponent_eq_iff, unpackMantissa_eq_iff, UInt64.toNat_toBitVec]
  simp only [twoPow, Nat.pow_eq]
  omega

/-! ## From the parts of a double back to it -/

/-- The bit of the sign. -/
def signBit (negative : Bool) : Nat := if negative then twoPow 63 else 0

section Signed

variable {size : Nat} (hsize : size ≤ 2047 * twoPow 52) (negative : Bool)
include hsize

theorem signBit_add_mod : (signBit negative + size) % twoPow 63 = size := by
  unfold signBit
  simp only [twoPow, Nat.pow_eq] at *
  split <;> omega

theorem twoPow_le_signBit_add_iff : twoPow 63 ≤ signBit negative + size ↔ negative = true := by
  unfold signBit
  simp only [twoPow, Nat.pow_eq] at *
  split
  · next h => exact iff_of_true (by omega) h
  · next h => exact iff_of_false (by omega) h

/-- The bits of the double put together from a sign and what stands below it. -/
theorem toNat_toBits_signed :
    (Float.ofBits (UInt64.ofNat (signBit negative + size))).toBits.toNat
      = signBit negative + size := by
  have hnat : (UInt64.ofNat (signBit negative + size)).toNat = signBit negative + size := by
    rw [UInt64.toNat_ofNat']
    unfold signBit
    simp only [twoPow, Nat.pow_eq] at *
    split <;> omega
  rw [toBits_ofBits (by rw [hnat, signBit_add_mod hsize]; exact hsize), hnat]

end Signed

/-- The significand and the exponent of a double above zero. -/
structure IsDouble (significand : Nat) (exponent : Int) : Prop where
  pos : 0 < significand
  lt : significand < twoPow 53
  least : -1074 ≤ exponent
  most : exponent ≤ 971
  full : exponent = -1074 ∨ twoPow 52 ≤ significand

/-- A double is known by its bits. -/
theorem ofBits_eq_of_toNat {x : Float} {n : Nat} (h : x.toBits.toNat = n) :
    x = Float.ofBits (UInt64.ofNat n) := by
  rw [← h, UInt64.ofNat_toNat, Float.ofBits_toBits]

variable {x : Float} {negative : Bool} {significand : Nat} {exponent : Int}

/-- A finite double from its significand and its exponent. -/
theorem ofFloat_finite (h : Double.ofFloat x = .finite negative significand exponent) :
    x = Float.ofBits (UInt64.ofNat
        (signBit negative + ((exponent + 1074).toNat * twoPow 52 + significand))) ∧
      (significand ≠ 0 → IsDouble significand exponent) := by
  have hlt : x.toBits.toNat < 2 ^ 64 := x.toBits.toNat_lt
  unfold Double.ofFloat at h
  simp only at h
  generalize hn : x.toBits.toNat = n at *
  -- what is left to show is how exponent and significand make up the bits below the sign
  have hsign : ∀ {rest}, n % twoPow 63 = rest → n = signBit (decide (twoPow 63 ≤ n)) + rest := by
    intro rest hrest
    unfold signBit
    simp only [twoPow, Nat.pow_eq, decide_eq_true_eq] at *
    split
    · omega
    · omega
  split at h
  · split at h
    · cases h
    · cases h
  · next hspecial =>
    split at h
    · next hfield =>
      -- no field of the exponent: the significand has no leading bit of its own
      cases h
      refine ⟨ofBits_eq_of_toNat (hn.trans (hsign ?_)), fun hne => ?_⟩
      · simp only [twoPow, Nat.pow_eq] at *
        omega
      · refine ⟨Nat.pos_of_ne_zero hne, ?_, le_refl _, by decide, Or.inl rfl⟩
        simp only [twoPow, Nat.pow_eq]
        omega
    · next hfield =>
      cases h
      refine ⟨ofBits_eq_of_toNat (hn.trans (hsign ?_)), fun hne => ?_⟩
      · simp only [twoPow, Nat.pow_eq] at *
        omega
      · refine ⟨Nat.pos_of_ne_zero hne, ?_, ?_, ?_, Or.inr (Nat.le_add_right _ _)⟩
        · simp only [twoPow, Nat.pow_eq]
          omega
        · simp only [twoPow, Nat.pow_eq] at *
          omega
        · simp only [twoPow, Nat.pow_eq] at *
          omega

/-- Zero is counted in the smallest unit. -/
theorem exponent_of_zero (h : Double.ofFloat x = .finite negative 0 exponent) :
    exponent = -1074 := by
  unfold Double.ofFloat at h
  simp only at h
  split at h
  · split at h
    · cases h
    · cases h
  · split at h
    · exact (Double.finite.inj h).2.2.symm
    · have hzero := (Double.finite.inj h).2.1
      simp only [twoPow, Nat.pow_eq] at hzero
      omega

/-- An infinite double from its sign. -/
theorem ofFloat_infinite (h : Double.ofFloat x = .infinite negative) :
    x = Float.ofBits (UInt64.ofNat (signBit negative + 2047 * twoPow 52)) := by
  have hlt : x.toBits.toNat < 2 ^ 64 := x.toBits.toNat_lt
  refine ofBits_eq_of_toNat ?_
  unfold Double.ofFloat at h
  simp only at h
  generalize hn : x.toBits.toNat = n at *
  split at h
  · split at h
    · cases h
      unfold signBit
      simp only [twoPow, Nat.pow_eq, decide_eq_true_eq] at *
      split
      · omega
      · omega
    · cases h
  · split at h
    · cases h
    · cases h

/-- What is not a number is one double only. -/
theorem ofFloat_notANumber (h : Double.ofFloat x = .notANumber) : x = notANumber := by
  have hfields : x.toBits.toNat / twoPow 52 % twoPow 11 = 2047 ∧
      x.toBits.toNat % twoPow 52 ≠ 0 := by
    unfold Double.ofFloat at h
    simp only at h
    split at h
    · next hfield =>
      split at h
      · cases h
      · next hfraction => exact ⟨hfield, hfraction⟩
    · split at h
      · cases h
      · cases h
  have hbits : x.toBits.toBitVec = packedNaN .binary64 := by
    refine x.toModel.valid.eq_packedNaN ((unpackExponent_eq_iff _).mpr hfields.1) fun hzero => ?_
    exact hfields.2 ((unpackMantissa_eq_iff _).mp hzero)
  have hsame : x.toBits = 0x7ff8000000000000 := by
    refine UInt64.toBitVec_inj.mp (hbits.trans ?_)
    decide
  rw [← Float.ofBits_toBits x, hsame]
  rfl

/-- The infinities by their bits. -/
theorem infinite_eq (negative : Bool) : infinite negative
    = Float.ofBits (UInt64.ofNat (signBit negative + 2047 * twoPow 52)) := by
  cases negative
  · decide +kernel
  · decide +kernel

end Launcher.Decimal
