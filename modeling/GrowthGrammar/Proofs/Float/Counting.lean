import GrowthGrammar.Proofs.Float.Storing

/-!
# Counts from random values

A random value is scaled by a small whole number and cut off to a count.  The
greatest machine number below one falls short of one by one unit in its 53rd
digit, and rounding a product adds at most half a unit there, so the scaled value
stays below the whole number, and the count does as well.
-/

namespace GrowthGrammar.Binary64

open Float.Model UnpackedFloat

/-! ## Cutting off -/

theorem roundToInt_toNat_lt {bound mantissa : Nat} {exponent : Int}
    (below : mantissa * 2 ^ exponent.toNat < bound * 2 ^ (-exponent).toNat) :
    (roundToInt .positive mantissa exponent).toNat < bound := by
  unfold roundToInt decreaseExponent shiftToExponent
  simp only [Int.sub_zero]
  have scaled : (0 - (exponent - (exponent.toNat : Int))).toNat =
      (-exponent).toNat := by omega
  rw [scaled, Nat.shiftLeft_eq]
  have kept := (keeps_shiftRight (mantissa * 2 ^ exponent.toNat)
    (-exponent).toNat).kept_le
  generalize (ExtendedMantissa.ofMantissaAndAccuracy _ .exact
    >>> (-exponent).toNat).mantissa = digits at kept ⊢
  exact Nat.lt_of_mul_lt_mul_right (Nat.lt_of_le_of_lt kept below)

theorem toNat_ofNatClamp_le (count : Nat) :
    (UInt32.ofNatClamp count).toNat ≤ count := by
  unfold UInt32.ofNatClamp
  split
  · exact Nat.le_of_eq rfl
  · next large =>
      change UInt32.size - 1 ≤ count
      omega

/-- The count of a number below a bound is below it. -/
theorem IsBelow.toUInt32_lt {bound : Nat} (present : 0 < bound)
    {number : UnpackedFloat} (below : IsBelow bound number) :
    number.toUInt32.toNat < bound := by
  unfold UnpackedFloat.toUInt32
  apply Nat.lt_of_le_of_lt (toNat_ofNatClamp_le _)
  cases number with
  | notANumber => exact present
  | zero sign => exact present
  | infinity sign =>
      cases sign with
      | negative => exact present
      | positive => exact below.elim
  | finite sign mantissa exponent positive =>
      cases sign with
      | negative =>
          have negative : roundToInt .negative mantissa exponent ≤ 0 := by
            unfold roundToInt Sign.apply
            simp only
            omega
          simp only [UnpackedFloat.toInt]
          omega
      | positive => exact roundToInt_toNat_lt below.2

/-! ## Scaling -/

/-- Whether a number is negative, undefined, or a machine number below one. -/
def IsFraction : UnpackedFloat → Prop
  | .infinity .positive => False
  | .finite .positive mantissa exponent _ =>
      -1074 ≤ exponent ∧ exponent ≤ -53 ∧ mantissa < 2 ^ 53
  | _ => True

theorem unpack_one :
    (1.0 : Float).toModel.unpack =
      .finite .positive (2 ^ 52) (-52) (by decide) :=
  rfl

theorem le_iff (first second : Float) :
    first ≤ second ↔
      first.toModel.unpack.le second.toModel.unpack = true := by
  change decide (first.toModel ≤ second.toModel) = true ↔ _
  rw [decide_eq_true_eq]
  rfl

/-- A random value that is not one or more is a fraction. -/
theorem isFraction_of_not_le {draw : Float} (below : ¬ 1.0 ≤ draw) :
    IsFraction draw.toModel.unpack := by
  rw [le_iff, unpack_one] at below
  cases read : draw.toModel.unpack with
  | notANumber => trivial
  | zero sign => cases sign <;> trivial
  | infinity sign =>
      cases sign with
      | negative => trivial
      | positive =>
          rw [read] at below
          exact absurd rfl below
  | finite sign mantissa exponent positive =>
      cases sign with
      | negative => trivial
      | positive =>
          obtain ⟨width, low, full⟩ := canonical_of_unpack read
          rw [read] at below
          refine ⟨low, ?_, width⟩
          by_contra high
          apply below
          change ((compare (-52 : Int) exponent).then
            (compare (2 ^ 52) mantissa)).isLE = true
          rcases Int.lt_or_eq_of_le (by omega : -52 ≤ exponent) with above | same
          · rw [Int.compare_eq_lt.mpr above]
            rfl
          · have wide : 2 ^ 52 ≤ mantissa := by omega
            rw [Int.compare_eq_eq.mpr same]
            exact Nat.isLE_compare.mpr wide

/-- Rounding a scaled fraction drops fewer digits than the scale has, or only so
many that half a unit of what is kept is less than the scale. -/
theorem two_pow_dropped_lt {mantissa factor scale : Nat} {exponent : Int}
    (width : mantissa < 2 ^ 53) (low : -1074 ≤ exponent)
    (mantissaPositive : 0 < mantissa) (factorAtLeast : 2 ^ scale ≤ factor) :
    2 ^ (format.targetExponent (totalExponent (mantissa * factor)
        (exponent + -(scale : Int))) - (exponent + -(scale : Int))).toNat <
      2 * factor := by
  have factorPositive : 0 < factor :=
    Nat.lt_of_lt_of_le (Nat.two_pow_pos scale) factorAtLeast
  have target : format.targetExponent (totalExponent (mantissa * factor)
      (exponent + -(scale : Int))) =
        max (((mantissa * factor).log2 : Int) + 1 + (exponent + -(scale : Int))
          - 53) (-1074) := rfl
  rw [target]
  generalize droppedIs : (max (((mantissa * factor).log2 : Int) + 1
    + (exponent + -(scale : Int)) - 53) (-1074)
      - (exponent + -(scale : Int))).toNat = dropped
  have few : dropped + 52 ≤ (mantissa * factor).log2 ∨ dropped ≤ scale := by
    omega
  rcases few with byWidth | byScale
  · have product : 2 ^ dropped * 2 ^ 52 ≤ mantissa * factor := by
      rw [← Nat.pow_add]
      exact (Nat.le_log2 (Nat.ne_of_gt (Nat.mul_pos mantissaPositive
        factorPositive))).mp byWidth
    have bounded : mantissa * factor < 2 ^ 53 * factor :=
      Nat.mul_lt_mul_of_pos_right width factorPositive
    omega
  · have powers : 2 ^ dropped ≤ 2 ^ scale :=
      Nat.pow_le_pow_right (by omega) byScale
    omega

/-- The bound of a number whose exponent is the difference of two counts. -/
theorem lt_of_scaled_lt {digits bound up down : Nat}
    (scaled : digits * 2 ^ up < bound * 2 ^ down) :
    digits * 2 ^ ((up : Int) - down).toNat <
      bound * 2 ^ (-((up : Int) - down)).toNat := by
  rcases Nat.le_total up down with less | more
  · obtain ⟨rest, rfl⟩ := Nat.exists_eq_add_of_le less
    have noDigits : ((up : Int) - (up + rest : Nat)).toNat = 0 := by omega
    have restIs : (-((up : Int) - (up + rest : Nat))).toNat = rest := by omega
    rw [noDigits, restIs, Nat.pow_zero, Nat.mul_one]
    rw [Nat.pow_add, Nat.mul_left_comm, Nat.mul_comm] at scaled
    exact Nat.lt_of_mul_lt_mul_left scaled
  · obtain ⟨rest, rfl⟩ := Nat.exists_eq_add_of_le more
    have restIs : (((down + rest : Nat) : Int) - down).toNat = rest := by omega
    have noDigits : (-(((down + rest : Nat) : Int) - down)).toNat = 0 := by omega
    rw [noDigits, restIs, Nat.pow_zero, Nat.mul_one]
    rw [Nat.pow_add, Nat.mul_left_comm, Nat.mul_comm bound] at scaled
    exact Nat.lt_of_mul_lt_mul_left scaled

/-- A scaled fraction is below the scale. -/
theorem IsFraction.mul {number : UnpackedFloat} (fraction : IsFraction number)
    {whole scale : Nat} (present : 0 < whole)
    (positive : 0 < whole * 2 ^ scale) :
    IsBelow whole (UnpackedFloat.mul format number
      (.finite .positive (whole * 2 ^ scale) (-(scale : Int)) positive)) := by
  cases number with
  | notANumber => trivial
  | zero sign => cases sign <;> trivial
  | infinity sign =>
      cases sign with
      | negative => trivial
      | positive => exact fraction.elim
  | finite sign mantissa exponent mantissaPositive =>
      cases sign with
      | negative =>
          change IsBelow whole (roundWithAccuracy format .negative _ _ .exact)
          rcases roundWithAccuracy_eq_zero_or_le .negative
            (mantissa * (whole * 2 ^ scale)) (exponent + -(scale : Int)) with
            vanishes | ⟨_, _, _, rounds, _⟩
          · rw [vanishes]
            trivial
          · rw [rounds]
            trivial
      | positive =>
          change IsBelow whole (roundWithAccuracy format .positive _ _ .exact)
          rcases fraction with ⟨low, high, width⟩
          have dropped := two_pow_dropped_lt width low mantissaPositive
            (Nat.le_mul_of_pos_left (2 ^ scale) present)
          rcases roundWithAccuracy_eq_zero_or_le .positive
            (mantissa * (whole * 2 ^ scale)) (exponent + -(scale : Int)) with
            vanishes | ⟨digits, lost, _, rounds, stays, bounded⟩
          · rw [vanishes]
            trivial
          · rw [rounds]
            refine ⟨stays, ?_⟩
            -- One more unit of the fraction would make up the whole scale.
            have unit : (mantissa + 1) * (whole * 2 ^ scale) ≤
                2 ^ (-exponent).toNat * (whole * 2 ^ scale) := by
              apply Nat.mul_le_mul_right
              exact Nat.le_trans width
                (Nat.pow_le_pow_right (by omega) (by omega))
            have scaled : digits * 2 ^ lost <
                whole * 2 ^ (scale + (-exponent).toNat) := by
              calc digits * 2 ^ lost
                  < (mantissa + 1) * (whole * 2 ^ scale) := by
                    rw [Nat.add_mul]
                    omega
                _ ≤ 2 ^ (-exponent).toNat * (whole * 2 ^ scale) := unit
                _ = whole * 2 ^ (scale + (-exponent).toNat) := by ring
            have exponentIs : exponent + -(scale : Int) + Int.ofNat lost =
                (lost : Int) - (scale + (-exponent).toNat : Nat) := by
              simp only [Int.ofNat_eq_natCast]
              omega
            rw [exponentIs]
            exact lt_of_scaled_lt scaled

/-- Whether a machine number is a whole number. -/
def IsWhole (whole : Nat) (number : Float) : Prop :=
  ∃ (scale : Nat) (positive : _), number.toModel.unpack =
    .finite .positive (whole * 2 ^ scale) (-(scale : Int)) positive

/-- A random value scaled by a whole number is cut off to a count below it. -/
theorem count_mul_lt {draw factor : Float} {whole : Nat}
    (below : ¬ 1.0 ≤ draw) (isWhole : IsWhole whole factor)
    (present : 0 < whole) (small : whole ≤ 2 ^ 53) :
    Scalar.count (draw * factor) < whole := by
  rcases isWhole with ⟨scale, positive, reads⟩
  have scaled := (isFraction_of_not_le below).mul present positive
  rw [← reads] at scaled
  exact (scaled.stored small).toUInt32_lt present

/-- A value below one is not one or more. -/
theorem not_one_le_of_lt {draw : Float} (below : draw < 1.0) :
    ¬ 1.0 ≤ draw := by
  have isLess : draw.toModel.unpack.lt (1.0 : Float).toModel.unpack = true := by
    change decide (draw.toModel < (1.0 : Float).toModel) = true at below
    rw [decide_eq_true_eq] at below
    exact below
  rw [le_iff]
  rw [unpack_one] at isLess ⊢
  cases read : draw.toModel.unpack with
  | notANumber => exact Bool.false_ne_true
  | zero sign => cases sign <;> exact Bool.false_ne_true
  | infinity sign =>
      cases sign with
      | negative => exact Bool.false_ne_true
      | positive =>
          rw [read] at isLess
          contradiction
  | finite sign mantissa exponent positive =>
      cases sign with
      | negative => exact Bool.false_ne_true
      | positive =>
          rw [read] at isLess
          have order : (compare exponent (-52)).then
              (compare mantissa (2 ^ 52)) = .lt := by
            simpa [UnpackedFloat.lt, UnpackedFloat.compare] using isLess
          change ¬ ((compare (-52) exponent).then
            (compare (2 ^ 52) mantissa)).isLE = true
          rcases Ordering.then_eq_lt.mp order with less | ⟨same, fewer⟩
          · rw [Int.compare_eq_gt.mpr (Int.compare_eq_lt.mp less)]
            exact Bool.false_ne_true
          · rw [Int.compare_eq_eq.mpr (Int.compare_eq_eq.mp same).symm,
              Nat.compare_eq_gt.mpr (Nat.compare_eq_lt.mp fewer)]
            exact Bool.false_ne_true

end GrowthGrammar.Binary64
