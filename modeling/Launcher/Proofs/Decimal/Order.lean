import Launcher.Proofs.Decimal.Bits

/-!
# The order of the doubles

Doubles are compared by sign, exponent and significand. The bits of a double below its sign count
its exponent and significand together, so with the sign put on them they are a whole number that
compares as the double does; that number is `rankKey`. Both zeros have the number zero, and what is
not a number has none.

> `compare_eq` two doubles taken apart compare as their numbers
> **`lt_iff_rankKey`** a double is below another exactly if its key is
> `le_iff_rankKey` and at most another
-/

namespace Launcher.Decimal

open Float.Model Float.Model.UnpackedFloat

/-- The place of a double taken apart among the doubles in ascending order. -/
def placeOf : UnpackedFloat → Option Int
  | .notANumber => none
  | .infinity sign => some (sign.apply (2047 * 2 ^ 52))
  | .zero _ => some 0
  | .finite sign significand exponent _ =>
    some (sign.apply ((exponent + 1074) * 2 ^ 52 + significand))

/-- Exponent and significand are those of a double. -/
def HasDoubleParts : UnpackedFloat → Prop
  | .finite _ significand exponent _ => IsDouble significand exponent
  | _ => True

/-- The places of two doubles compare, if they have any. -/
def comparePlaces : Option Int → Option Int → Option Ordering
  | some k, some l => some (compare k l)
  | _, _ => none

/-! ## Comparing -/

variable {significand significand' : Nat} {exponent exponent' : Int}

theorem IsDouble.place_pos (h : IsDouble significand exponent) :
    0 < (exponent + 1074) * 2 ^ 52 + significand := by
  have hpos := h.pos
  have hleast := h.least
  omega

theorem IsDouble.place_lt (h : IsDouble significand exponent) :
    (exponent + 1074) * 2 ^ 52 + significand < 2047 * 2 ^ 52 := by
  have hlt := h.lt
  have hmost := h.most
  simp only [twoPow, Nat.pow_eq] at hlt
  omega

/-- A larger exponent means a larger place: the significand has its leading bit there. -/
theorem IsDouble.place_lt_of_lt (h : IsDouble significand exponent)
    (h' : IsDouble significand' exponent') (hlt : exponent < exponent') :
    (exponent + 1074) * 2 ^ 52 + significand < (exponent' + 1074) * 2 ^ 52 + significand' := by
  have hbelow := h.lt
  have hleast := h.least
  have hfull := h'.full
  simp only [twoPow, Nat.pow_eq] at hbelow hfull
  omega

/-- The exponent counts first, then the significand. -/
theorem compare_place (h : IsDouble significand exponent) (h' : IsDouble significand' exponent') :
    (compare exponent exponent').then (compare significand significand')
      = compare ((exponent + 1074) * 2 ^ 52 + (significand : Int))
          ((exponent' + 1074) * 2 ^ 52 + (significand' : Int)) := by
  rcases lt_trichotomy exponent exponent' with hlt | rfl | hgt
  · rw [compare_lt_iff_lt.mpr hlt, compare_lt_iff_lt.mpr (h.place_lt_of_lt h' hlt)]
    rfl
  · rw [compare_eq_iff_eq.mpr rfl, Ordering.eq_then]
    rcases lt_trichotomy significand significand' with hlt | rfl | hgt
    · rw [compare_lt_iff_lt.mpr hlt, compare_lt_iff_lt.mpr (by omega)]
    · rw [compare_eq_iff_eq.mpr rfl, compare_eq_iff_eq.mpr rfl]
    · rw [compare_gt_iff_gt.mpr hgt, compare_gt_iff_gt.mpr (by omega)]
  · rw [compare_gt_iff_gt.mpr hgt, compare_gt_iff_gt.mpr (h'.place_lt_of_lt h hgt)]
    rfl

theorem compare_neg (k l : Int) : compare (-k) (-l) = (compare k l).swap := by
  rcases lt_trichotomy k l with hlt | rfl | hgt
  · rw [compare_lt_iff_lt.mpr hlt, compare_gt_iff_gt.mpr (neg_lt_neg hlt)]
    rfl
  · rw [compare_eq_iff_eq.mpr rfl, compare_eq_iff_eq.mpr rfl]
    rfl
  · rw [compare_gt_iff_gt.mpr hgt, compare_lt_iff_lt.mpr (neg_lt_neg hgt)]
    rfl

/-- **Doubles taken apart compare as their places.** -/
theorem compare_eq {x y : UnpackedFloat} (hx : HasDoubleParts x) (hy : HasDoubleParts y) :
    x.compare y = comparePlaces (placeOf x) (placeOf y) := by
  have hbelow : ∀ {k l : Int}, k < l → some .lt = some (compare k l) := fun hlt =>
    congrArg some (compare_lt_iff_lt.mpr hlt).symm
  have habove : ∀ {k l : Int}, l < k → some .gt = some (compare k l) := fun hgt =>
    congrArg some (compare_gt_iff_gt.mpr hgt).symm
  -- what is finite lies between zero and the infinity of its sign
  cases x with
  | notANumber => rfl
  | infinity s =>
    cases y with
    | notANumber => cases s <;> rfl
    | infinity t => cases s <;> cases t <;> decide
    | zero t => cases s <;> rfl
    | finite t significand exponent _ =>
      have hpos := IsDouble.place_pos hy
      have hlt := IsDouble.place_lt hy
      cases s with
      | negative => cases t <;> exact hbelow (by simp only [Sign.apply]; omega)
      | positive => cases t <;> exact habove (by simp only [Sign.apply]; omega)
  | zero s =>
    cases y with
    | notANumber => rfl
    | infinity t => cases t <;> rfl
    | zero t => rfl
    | finite t significand exponent _ =>
      have hpos := IsDouble.place_pos hy
      cases t with
      | negative => exact habove (by simp only [Sign.apply]; omega)
      | positive => exact hbelow (by simp only [Sign.apply]; omega)
  | finite s significand exponent _ =>
    have hpos := IsDouble.place_pos hx
    have hlt := IsDouble.place_lt hx
    cases y with
    | notANumber => cases s <;> rfl
    | infinity t =>
      cases t with
      | negative => cases s <;> exact habove (by simp only [Sign.apply]; omega)
      | positive => cases s <;> exact hbelow (by simp only [Sign.apply]; omega)
    | zero t =>
      cases s with
      | negative => exact hbelow (by simp only [Sign.apply]; omega)
      | positive => exact habove (by simp only [Sign.apply]; omega)
    | finite t significand' exponent' _ =>
      have hpos' := IsDouble.place_pos hy
      cases s with
      | negative =>
        cases t with
        | negative =>
          refine congrArg some ?_
          rw [compare_place hx hy]
          exact (compare_neg _ _).symm
        | positive => exact hbelow (by simp only [Sign.apply]; omega)
      | positive =>
        cases t with
        | negative => exact habove (by simp only [Sign.apply]; omega)
        | positive => exact congrArg some (compare_place hx hy)

/-! ## Taking apart -/

theorem unpackSign_eq_zero_iff (b : BitVec Format.binary64.numBits) :
    unpackSign b = 0#1 ↔ b.toNat < 2 ^ 63 := by
  have hlt : b.toNat < 2 ^ 64 := b.isLt
  have hsign : (unpackSign b).toNat = b.toNat / 2 ^ 63 % 2 := by
    rw [unpackSign_def, BitVec.extractLsb'_toNat, Nat.shiftRight_eq_div_pow]
    rfl
  rw [← BitVec.toNat_inj, hsign]
  show b.toNat / 2 ^ 63 % 2 = 0 ↔ b.toNat < 2 ^ 63
  omega

theorem unpackExponent_eq_zero_iff (b : BitVec Format.binary64.numBits) :
    unpackExponent b = BitVec.ofNat Format.binary64.exponentBits 0 ↔
      b.toNat / 2 ^ 52 % 2 ^ 11 = 0 := by
  rw [← toNat_unpackExponent, ← BitVec.toNat_inj]
  rfl

theorem toNat_one_append (m : BitVec 52) : (1#1 ++ m).toNat = 2 ^ 52 + m.toNat := by
  rw [BitVec.toNat_append, ← Nat.shiftLeft_add_eq_or_of_lt m.isLt]
  rfl

/-- The place of a double by its bits. -/
def placeOfBits (n : Nat) : Option Int :=
  let size : Nat := n % 2 ^ 63
  if 2047 * 2 ^ 52 < size then none else if 2 ^ 63 ≤ n then some (-(size : Int)) else some size

/-- The bits below the sign with the sign put on them. -/
theorem sign_apply_eq {b : BitVec Format.binary64.numBits} {size : Int}
    (hsize : size = (b.toNat % 2 ^ 63 : Nat)) (hle : size ≤ 2047 * 2 ^ 52) :
    some ((Sign.ofBitVec (unpackSign b)).apply size) = placeOfBits b.toNat := by
  have hplace : placeOfBits b.toNat
      = if 2 ^ 63 ≤ b.toNat then some (-size) else some size := by
    unfold placeOfBits
    simp only
    rw [if_neg (by omega), ← hsize]
  rw [hplace]
  unfold Sign.ofBitVec
  by_cases hnegative : 2 ^ 63 ≤ b.toNat
  · rw [if_pos hnegative, if_neg (by rw [unpackSign_eq_zero_iff]; omega)]
    rfl
  · rw [if_neg hnegative, if_pos (by rw [unpackSign_eq_zero_iff]; omega)]
    rfl

/-- A double taken apart has the parts of one, and its place is the number of its bits below the
sign. -/
theorem unpack_spec (b : BitVec Format.binary64.numBits) :
    HasDoubleParts (UnpackedFloat.unpack .binary64 b) ∧
      placeOf (UnpackedFloat.unpack .binary64 b) = placeOfBits b.toNat := by
  have hlt : b.toNat < 2 ^ 64 := b.isLt
  have hexponent := toNat_unpackExponent b
  have hmantissa := toNat_unpackMantissa b
  unfold UnpackedFloat.unpack
  simp only
  split_ifs with hspecial hnone hsmall hnone
  · rw [unpackExponent_eq_iff] at hspecial
    rw [unpackMantissa_eq_iff] at hnone
    exact ⟨trivial, sign_apply_eq (by omega) (by omega)⟩
  · rw [unpackExponent_eq_iff] at hspecial
    rw [unpackMantissa_eq_iff] at hnone
    refine ⟨trivial, ?_⟩
    unfold placeOfBits
    rw [if_pos (by omega)]
    rfl
  · -- the zeros have no size for a sign to be put on
    rw [unpackExponent_eq_zero_iff] at hsmall
    rw [unpackMantissa_eq_iff] at hnone
    refine ⟨trivial, ?_⟩
    rw [← @sign_apply_eq b 0 (by omega) (by omega)]
    cases Sign.ofBitVec (unpackSign b) <;> rfl
  · -- no field of the exponent: the significand has no leading bit of its own
    rw [unpackExponent_eq_zero_iff] at hsmall
    rw [unpackMantissa_eq_iff] at hnone
    have hunit : ((unpackExponent b).toNat : Int) - (1023 + 52) + 1 = -1074 := by omega
    have hparts : IsDouble (unpackMantissa b).toNat
        (((unpackExponent b).toNat : Int) - (1023 + 52) + 1) := by
      rw [hunit]
      refine ⟨by omega, ?_, le_refl _, by decide, Or.inl rfl⟩
      simp only [twoPow, Nat.pow_eq]
      omega
    refine ⟨hparts, sign_apply_eq ?_ ?_⟩
    · show ((((unpackExponent b).toNat : Int) - (1023 + 52) + 1) + 1074) * 2 ^ 52 + _ = _
      rw [hunit]
      omega
    · exact le_of_lt hparts.place_lt
  · rw [unpackExponent_eq_iff] at hspecial
    rw [unpackExponent_eq_zero_iff] at hsmall
    have hleading := toNat_one_append (unpackMantissa b)
    have hparts : IsDouble (1#1 ++ (unpackMantissa b : BitVec 52)).toNat
        (((unpackExponent b).toNat : Int) - (1023 + 52)) := by
      rw [hleading]
      refine ⟨by omega, ?_, by omega, by omega, Or.inr ?_⟩
      · simp only [twoPow, Nat.pow_eq]
        omega
      · simp only [twoPow, Nat.pow_eq]
        omega
    refine ⟨hparts, sign_apply_eq ?_ ?_⟩
    · show ((((unpackExponent b).toNat : Int) - (1023 + 52)) + 1074) * 2 ^ 52
        + ((1#1 ++ (unpackMantissa b : BitVec 52)).toNat : Int) = _
      rw [hleading]
      omega
    · exact le_of_lt hparts.place_lt

/-! ## Doubles -/

variable {x y : Float}

/-- The place of a double among the doubles is its key. -/
theorem placeOf_unpack (x : Float) :
    placeOf (UnpackedFloat.unpack .binary64 x.toBits.toBitVec) = rankKey x :=
  (unpack_spec x.toBits.toBitVec).2

/-- What is not a number has no key. -/
theorem isNaN_iff_rankKey : x.isNaN = true ↔ rankKey x = none := by
  rw [← placeOf_unpack]
  show (UnpackedFloat.unpack .binary64 x.toBits.toBitVec).isNaN = true ↔ _
  cases UnpackedFloat.unpack .binary64 x.toBits.toBitVec with
  | notANumber => exact iff_of_true rfl rfl
  | infinity s | zero s | finite s m e h => exact iff_of_false Bool.false_ne_true nofun

/-- **A double is below another exactly if its key is**; both have one then. -/
theorem lt_iff_rankKey : x < y ↔ ∃ k l, rankKey x = some k ∧ rankKey y = some l ∧ k < l := by
  have hmodel : x < y ↔ (UnpackedFloat.unpack .binary64 x.toBits.toBitVec).lt
      (UnpackedFloat.unpack .binary64 y.toBits.toBitVec) = true := decide_eq_true_iff
  have hcompare := compare_eq (unpack_spec x.toBits.toBitVec).1 (unpack_spec y.toBits.toBitVec).1
  rw [hmodel, UnpackedFloat.lt, beq_iff_eq, hcompare, placeOf_unpack, placeOf_unpack]
  cases rankKey x with
  | none => exact iff_of_false nofun (by simp)
  | some k =>
    cases rankKey y with
    | none => exact iff_of_false nofun (by simp)
    | some l => simp [comparePlaces, compare_lt_iff_lt]

/-- A double is at most another exactly if its key is; both have one then. -/
theorem le_iff_rankKey : x ≤ y ↔ ∃ k l, rankKey x = some k ∧ rankKey y = some l ∧ k ≤ l := by
  have hmodel : x ≤ y ↔ (UnpackedFloat.unpack .binary64 x.toBits.toBitVec).le
      (UnpackedFloat.unpack .binary64 y.toBits.toBitVec) = true := decide_eq_true_iff
  have hcompare := compare_eq (unpack_spec x.toBits.toBitVec).1 (unpack_spec y.toBits.toBitVec).1
  rw [hmodel, UnpackedFloat.le, hcompare, placeOf_unpack, placeOf_unpack]
  cases rankKey x with
  | none => exact iff_of_false nofun (by simp)
  | some k =>
    cases rankKey y with
    | none => exact iff_of_false nofun (by simp)
    | some l => simp [comparePlaces, Int.isLE_compare]

end Launcher.Decimal
