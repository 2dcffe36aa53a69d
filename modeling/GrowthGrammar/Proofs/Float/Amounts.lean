import GrowthGrammar.Proofs.Float.Storing

/-!
# Amounts

An amount is a machine number that is neither negative nor infinite nor undefined.
Its value is a rational number, and the values of all amounts lie on a grid that is
coarser the larger they are.  Amounts are written in one way only: their mantissa
has as many digits as there is room for, or their exponent is the least one.  So
they compare by their exponents first, and yet as their values do.
-/

namespace GrowthGrammar.Binary64

open Float.Model UnpackedFloat

/-- The one way in which an amount is written. -/
structure IsCanonical (mantissa : Nat) (exponent : Int) : Prop where
  width : mantissa < 2 ^ 53
  least_le : -1074 ≤ exponent
  full : mantissa < 2 ^ 52 → exponent = -1074

/-- Whether a number is neither negative nor infinite nor undefined. -/
def IsAmount : UnpackedFloat → Prop
  | .zero _ => True
  | .finite .positive mantissa exponent _ => IsCanonical mantissa exponent
  | _ => False

/-- The value of an amount. -/
def value : UnpackedFloat → ℚ
  | .finite .positive mantissa exponent _ => mantissa * 2 ^ exponent
  | _ => 0

/-- The values that amounts have when no exponent is too large. -/
def OnGrid (amount : ℚ) : Prop :=
  ∃ mantissa : Nat, ∃ exponent : Int,
    mantissa < 2 ^ 53 ∧ -1074 ≤ exponent ∧ amount = mantissa * 2 ^ exponent

theorem two_zpow_pos (exponent : Int) : (0 : ℚ) < 2 ^ exponent :=
  zpow_pos two_pos exponent

theorem value_nonneg (number : UnpackedFloat) : 0 ≤ value number := by
  unfold value
  split
  · exact mul_nonneg (Nat.cast_nonneg _) (two_zpow_pos _).le
  · exact le_refl 0

theorem value_pos {mantissa : Nat} {exponent : Int} (positive : 0 < mantissa) :
    0 < value (.finite .positive mantissa exponent positive) := by
  have mantissaPos : (0 : ℚ) < mantissa := by exact_mod_cast positive
  exact mul_pos mantissaPos (two_zpow_pos exponent)

theorem onGrid_zero : OnGrid 0 :=
  ⟨0, 0, by decide, by decide, by simp⟩

theorem onGrid_one : OnGrid 1 :=
  ⟨1, 0, by decide, by decide, by simp⟩

/-- An amount is zero or is written in the one way. -/
theorem IsAmount.zero_or_finite {number : UnpackedFloat} (amount : IsAmount number) :
    (∃ sign, number = .zero sign) ∨
      ∃ mantissa exponent positive, IsCanonical mantissa exponent ∧
        number = .finite .positive mantissa exponent positive := by
  cases number with
  | notANumber => exact amount.elim
  | infinity sign => exact amount.elim
  | zero sign => exact Or.inl ⟨sign, rfl⟩
  | finite sign mantissa exponent positive =>
      cases sign with
      | negative => exact amount.elim
      | positive => exact Or.inr ⟨mantissa, exponent, positive, amount, rfl⟩

theorem IsAmount.onGrid {number : UnpackedFloat} (amount : IsAmount number) :
    OnGrid (value number) := by
  obtain ⟨sign, rfl⟩ | ⟨mantissa, exponent, positive, canonical, rfl⟩ :=
    amount.zero_or_finite
  · exact onGrid_zero
  · exact ⟨mantissa, exponent, canonical.width, canonical.least_le, rfl⟩

/-! ## Order -/

section Order

variable {mantissa otherMantissa : Nat} {exponent otherExponent : Int}

/-- Of two amounts the one with the larger exponent is larger. -/
theorem IsCanonical.lt_of_exponent_lt (canonical : IsCanonical mantissa exponent)
    (otherCanonical : IsCanonical otherMantissa otherExponent)
    (below : exponent < otherExponent) :
    (mantissa : ℚ) * 2 ^ exponent < otherMantissa * 2 ^ otherExponent := by
  have least := canonical.least_le
  have wide : 2 ^ 52 ≤ otherMantissa := by
    by_contra narrow
    have atLeast := otherCanonical.full (Nat.lt_of_not_le narrow)
    omega
  have mantissaBelow : (mantissa : ℚ) < 2 ^ 53 := by exact_mod_cast canonical.width
  have mantissaAbove : (2 : ℚ) ^ 52 ≤ otherMantissa := by exact_mod_cast wide
  have powers : (2 : ℚ) ^ (exponent + 1) ≤ 2 ^ otherExponent :=
    zpow_le_zpow_right₀ one_le_two below
  calc (mantissa : ℚ) * 2 ^ exponent
      < 2 ^ 53 * 2 ^ exponent :=
        mul_lt_mul_of_pos_right mantissaBelow (two_zpow_pos exponent)
    _ = 2 ^ 52 * 2 ^ (exponent + 1) := by
        rw [zpow_add_one₀ two_ne_zero]
        ring
    _ ≤ otherMantissa * 2 ^ otherExponent :=
        mul_le_mul mantissaAbove powers (two_zpow_pos _).le (Nat.cast_nonneg _)

/-- Exponents are compared first, and yet values are compared. -/
theorem IsCanonical.compare_eq (canonical : IsCanonical mantissa exponent)
    (otherCanonical : IsCanonical otherMantissa otherExponent) :
    (compare exponent otherExponent).then (compare mantissa otherMantissa) =
      compare ((mantissa : ℚ) * 2 ^ exponent) (otherMantissa * 2 ^ otherExponent) := by
  rcases lt_trichotomy exponent otherExponent with below | same | above
  · have less := canonical.lt_of_exponent_lt otherCanonical below
    rw [compare_lt_iff_lt.mpr below, compare_lt_iff_lt.mpr less]
    rfl
  · subst same
    have scale := two_zpow_pos exponent
    rw [compare_eq_iff_eq.mpr rfl, Ordering.eq_then]
    rcases lt_trichotomy mantissa otherMantissa with fewer | same | more
    · have less : (mantissa : ℚ) * 2 ^ exponent < otherMantissa * 2 ^ exponent :=
        mul_lt_mul_of_pos_right (by exact_mod_cast fewer) scale
      rw [compare_lt_iff_lt.mpr fewer, compare_lt_iff_lt.mpr less]
    · rw [same, compare_eq_iff_eq.mpr rfl, compare_eq_iff_eq.mpr rfl]
    · have less : (otherMantissa : ℚ) * 2 ^ exponent < mantissa * 2 ^ exponent :=
        mul_lt_mul_of_pos_right (by exact_mod_cast more) scale
      rw [compare_gt_iff_gt.mpr more, compare_gt_iff_gt.mpr less]
  · have less := otherCanonical.lt_of_exponent_lt canonical above
    rw [compare_gt_iff_gt.mpr above, compare_gt_iff_gt.mpr less]
    rfl

end Order

variable {first second : UnpackedFloat}

/-- Amounts compare as their values do. -/
theorem IsAmount.compare_eq (firstAmount : IsAmount first)
    (secondAmount : IsAmount second) :
    first.compare second = some (compare (value first) (value second)) := by
  obtain ⟨sign, rfl⟩ | ⟨mantissa, exponent, positive, canonical, rfl⟩ :=
    firstAmount.zero_or_finite
  · obtain ⟨other, rfl⟩ | ⟨mantissa, exponent, positive, -, rfl⟩ :=
      secondAmount.zero_or_finite
    · cases sign <;> cases other <;> rfl
    · have less : value (.zero sign) < value (.finite .positive _ exponent positive) :=
        value_pos positive
      rw [compare_lt_iff_lt.mpr less]
      cases sign <;> rfl
  · obtain ⟨other, rfl⟩ | ⟨_, _, _, otherCanonical, rfl⟩ :=
      secondAmount.zero_or_finite
    · have less : value (.zero other) < value (.finite .positive _ exponent positive) :=
        value_pos positive
      rw [compare_gt_iff_gt.mpr less]
      cases other <;> rfl
    · exact congrArg some (canonical.compare_eq otherCanonical)

theorem IsAmount.le_iff (firstAmount : IsAmount first)
    (secondAmount : IsAmount second) :
    first.le second = true ↔ value first ≤ value second := by
  unfold UnpackedFloat.le
  rw [firstAmount.compare_eq secondAmount, Option.any_some,
    ← Ordering.ne_gt_iff_isLE]
  exact compare_le_iff_le

theorem IsAmount.lt_iff (firstAmount : IsAmount first)
    (secondAmount : IsAmount second) :
    first.lt second = true ↔ value first < value second := by
  unfold UnpackedFloat.lt
  rw [firstAmount.compare_eq secondAmount, ← compare_lt_iff_lt, beq_iff_eq,
    Option.some.injEq]

/-- Two amounts of the same value are the same, unless they are zero. -/
theorem IsAmount.eq_of_value_eq (firstAmount : IsAmount first)
    (secondAmount : IsAmount second) (same : value first = value second)
    (nonzero : 0 < value first) : first = second := by
  have equal := firstAmount.compare_eq secondAmount
  rw [compare_eq_iff_eq.mpr same] at equal
  obtain ⟨sign, rfl⟩ | ⟨mantissa, exponent, positive, -, rfl⟩ :=
    firstAmount.zero_or_finite
  · exact absurd nonzero (lt_irrefl 0)
  · rw [same] at nonzero
    obtain ⟨other, rfl⟩ | ⟨otherMantissa, otherExponent, otherPositive, -, rfl⟩ :=
      secondAmount.zero_or_finite
    · exact absurd nonzero (lt_irrefl 0)
    · have both := Option.some.inj equal
      rw [Ordering.then_eq_eq, compare_eq_iff_eq, compare_eq_iff_eq] at both
      obtain ⟨rfl, rfl⟩ := both
      rfl

end GrowthGrammar.Binary64
