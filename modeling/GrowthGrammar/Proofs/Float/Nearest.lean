import GrowthGrammar.Proofs.Float.Amounts

/-!
# Rounding to the nearest amount

Sums and quotients of amounts are rounded to the nearest amount on the grid.  Two
consequences carry all that is said about them elsewhere: an exact result that lies
on the grid is not changed, and rounding keeps the order.

Digits that are dropped leave a trace in two bits, from which it can be told whether
the exact result lies below, at or above the middle between two amounts.
-/

namespace GrowthGrammar.Binary64

open Float.Model UnpackedFloat

/-! ## The nearest amount -/

/-- No amount on the grid is closer. -/
structure IsNearest (exact rounded : ℚ) : Prop where
  onGrid : OnGrid rounded
  below : ∀ ⦃other⦄, OnGrid other → other < rounded → other + rounded ≤ 2 * exact
  above : ∀ ⦃other⦄, OnGrid other → rounded < other → 2 * exact ≤ other + rounded

namespace IsNearest

variable {exact other rounded otherRounded : ℚ}

theorem of_onGrid (onGrid : OnGrid exact) : IsNearest exact exact := by
  constructor
  · exact onGrid
  · intro other _ below
    linarith
  · intro other _ above
    linarith

/-- What lies on the grid is not changed. -/
theorem eq_of_onGrid (nearest : IsNearest exact rounded) (onGrid : OnGrid exact) :
    rounded = exact := by
  rcases lt_trichotomy rounded exact with below | same | above
  · have bound := nearest.above onGrid below
    linarith
  · exact same
  · have bound := nearest.below onGrid above
    linarith

/-- Rounding keeps the order of two numbers that differ. -/
theorem le_of_lt (nearest : IsNearest exact rounded)
    (otherNearest : IsNearest other otherRounded) (less : exact < other) :
    rounded ≤ otherRounded := by
  by_contra reversed
  rw [not_le] at reversed
  have fromBelow := nearest.below otherNearest.onGrid reversed
  have fromAbove := otherNearest.above nearest.onGrid reversed
  linarith

/-- An amount on the grid is not passed from above. -/
theorem le_of_onGrid_le (nearest : IsNearest exact rounded) {bound : ℚ}
    (onGrid : OnGrid bound) (above : bound ≤ exact) : bound ≤ rounded := by
  by_contra passed
  rw [not_le] at passed
  have fromAbove := nearest.above onGrid passed
  linarith

/-- An amount on the grid is not passed from below. -/
theorem le_of_le_onGrid (nearest : IsNearest exact rounded) {bound : ℚ}
    (onGrid : OnGrid bound) (below : exact ≤ bound) : rounded ≤ bound := by
  by_contra passed
  rw [not_le] at passed
  have fromBelow := nearest.below onGrid passed
  linarith

end IsNearest

/-! ## Dropped digits -/

/-- What the digits of a mantissa and the two bits behind them say of an exact
number. -/
def Describes : ExtendedMantissa → ℚ → Prop
  | ⟨digits, false, false⟩, exact => exact = digits
  | ⟨digits, false, true⟩, exact => digits < exact ∧ 2 * exact < 2 * digits + 1
  | ⟨digits, true, false⟩, exact => 2 * exact = 2 * digits + 1
  | ⟨digits, true, true⟩, exact => 2 * digits + 1 < 2 * exact ∧ exact < digits + 1

theorem Describes.shiftRightOne {kept : ExtendedMantissa} {exact : ℚ}
    (describes : Describes kept exact) :
    Describes kept.shiftRightOne (exact / 2) := by
  rcases kept with ⟨digits, roundBit, stickyBit⟩
  have halves := Nat.div_add_mod digits 2
  rw [ExtendedMantissa.shiftRightOne]
  dsimp only
  generalize digits / 2 = half at halves ⊢
  rcases Nat.mod_two_eq_zero_or_one digits with even | odd
  · rw [even] at halves ⊢
    have digitsIs : (digits : ℚ) = 2 * half := by exact_mod_cast halves.symm
    cases roundBit <;> cases stickyBit <;>
      simp only [Describes, digitsIs, bne_self_eq_false, Bool.or_self, Bool.or_true,
        Bool.or_false] at describes ⊢
    · linarith
    · constructor <;> linarith
    · constructor <;> linarith
    · constructor <;> linarith
  · rw [odd] at halves ⊢
    have digitsIs : (digits : ℚ) = 2 * half + 1 := by exact_mod_cast halves.symm
    have bitIs : ((1 : Nat) != 0) = true := rfl
    cases roundBit <;> cases stickyBit <;>
      simp only [Describes, digitsIs, bitIs, Bool.or_self, Bool.or_true,
        Bool.or_false] at describes ⊢
    · linarith
    · constructor <;> linarith
    · constructor <;> linarith
    · constructor <;> linarith

theorem Describes.shiftRight {kept : ExtendedMantissa} {exact : ℚ}
    (describes : Describes kept exact) (dropped : Nat) :
    Describes (kept >>> dropped) (exact / 2 ^ dropped) := by
  induction dropped with
  | zero =>
      rw [pow_zero, div_one]
      exact describes
  | succ dropped ih =>
      rw [pow_succ, ← div_div]
      exact ih.shiftRightOne

theorem mantissa_shiftRight (kept : ExtendedMantissa) (dropped : Nat) :
    (kept >>> dropped).mantissa = kept.mantissa / 2 ^ dropped := by
  induction dropped with
  | zero => exact (Nat.div_one _).symm
  | succ dropped ih =>
      change (kept >>> dropped).mantissa / 2 = _
      rw [ih, Nat.div_div_eq_div_mul, Nat.pow_succ]

@[simp]
theorem mantissa_ofMantissaAndAccuracy (mantissa : Nat) (accuracy : Accuracy) :
    (ExtendedMantissa.ofMantissaAndAccuracy mantissa accuracy).mantissa = mantissa := by
  unfold ExtendedMantissa.ofMantissaAndAccuracy
  split <;> rfl

theorem Describes.le {kept : ExtendedMantissa} {exact : ℚ}
    (describes : Describes kept exact) : (kept.mantissa : ℚ) ≤ exact := by
  rcases kept with ⟨digits, roundBit, stickyBit⟩
  cases roundBit <;> cases stickyBit <;> simp only [Describes] at describes ⊢
  · linarith
  · linarith
  · linarith
  · linarith

theorem le_roundedMantissa (kept : ExtendedMantissa) :
    kept.mantissa ≤ kept.roundedMantissa ∧
      kept.roundedMantissa ≤ kept.mantissa + 1 := by
  rcases kept with ⟨digits, roundBit, stickyBit⟩
  cases roundBit <;> cases stickyBit
  · change digits ≤ digits ∧ digits ≤ digits + 1
    omega
  · change digits ≤ digits ∧ digits ≤ digits + 1
    omega
  · change digits ≤ digits + digits % 2 ∧ digits + digits % 2 ≤ digits + 1
    omega
  · change digits ≤ digits + 1 ∧ digits + 1 ≤ digits + 1
    omega

/-- The rounded mantissa is the nearest whole number: the middle between it and the
whole numbers around it is not passed. -/
theorem Describes.rounded {kept : ExtendedMantissa} {exact : ℚ}
    (describes : Describes kept exact) :
    (2 * kept.roundedMantissa - 1 : ℚ) ≤ 2 * exact ∧
      2 * exact ≤ 2 * kept.roundedMantissa + 1 := by
  rcases kept with ⟨digits, roundBit, stickyBit⟩
  cases roundBit <;> cases stickyBit <;> simp only [Describes] at describes
  · change (2 * (digits : ℚ) - 1) ≤ 2 * exact ∧ 2 * exact ≤ 2 * (digits : ℚ) + 1
    constructor <;> linarith
  · change (2 * (digits : ℚ) - 1) ≤ 2 * exact ∧ 2 * exact ≤ 2 * (digits : ℚ) + 1
    constructor <;> linarith
  · change (2 * ((digits + digits % 2 : Nat) : ℚ) - 1) ≤ 2 * exact ∧
      2 * exact ≤ 2 * ((digits + digits % 2 : Nat) : ℚ) + 1
    rcases Nat.mod_two_eq_zero_or_one digits with even | odd
    · rw [even]
      push_cast
      constructor <;> linarith
    · rw [odd]
      push_cast
      constructor <;> linarith
  · change (2 * ((digits + 1 : Nat) : ℚ) - 1) ≤ 2 * exact ∧
      2 * exact ≤ 2 * ((digits + 1 : Nat) : ℚ) + 1
    push_cast
    constructor <;> linarith

/-! ## Rounding -/

theorem zpow_add_toNat {exponent higher : Int} (above : exponent ≤ higher) :
    (2 : ℚ) ^ exponent * 2 ^ (higher - exponent).toNat = 2 ^ higher := by
  rw [← zpow_natCast, ← zpow_add₀ two_ne_zero]
  congr 1
  omega

/-- What lies on the grid is a multiple of the last digit of a canonical number, or
it lies below that number. -/
theorem IsCanonical.multiple_or_lt {digits : Nat} {exponent : Int}
    (canonical : IsCanonical digits exponent) {other : ℚ} (onGrid : OnGrid other) :
    (∃ count : Nat, other = count * 2 ^ exponent) ∨ other < digits * 2 ^ exponent := by
  obtain ⟨otherDigits, otherExponent, otherWidth, otherLeast, rfl⟩ := onGrid
  rcases le_or_gt exponent otherExponent with coarser | finer
  · left
    refine ⟨otherDigits * 2 ^ (otherExponent - exponent).toNat, ?_⟩
    rw [← zpow_add_toNat coarser]
    push_cast
    ring
  · right
    have wide : 2 ^ 52 ≤ digits := by
      by_contra narrow
      have atLeast := canonical.full (Nat.lt_of_not_le narrow)
      omega
    have otherBelow : (otherDigits : ℚ) < 2 ^ 53 := by exact_mod_cast otherWidth
    have digitsAbove : (2 : ℚ) ^ 52 ≤ digits := by exact_mod_cast wide
    have powers : (2 : ℚ) ^ (otherExponent + 1) ≤ 2 ^ exponent :=
      zpow_le_zpow_right₀ one_le_two finer
    calc (otherDigits : ℚ) * 2 ^ otherExponent
        < 2 ^ 53 * 2 ^ otherExponent :=
          mul_lt_mul_of_pos_right otherBelow (two_zpow_pos otherExponent)
      _ = 2 ^ 52 * 2 ^ (otherExponent + 1) := by
          rw [zpow_add_one₀ two_ne_zero]
          ring
      _ ≤ digits * 2 ^ exponent :=
          mul_le_mul digitsAbove powers (two_zpow_pos _).le (Nat.cast_nonneg _)

/-- Digits that fill their place may be raised by one. -/
theorem IsCanonical.onGrid_of_le_succ {digits raised : Nat} {exponent : Int}
    (canonical : IsCanonical digits exponent) (little : raised ≤ digits + 1) :
    OnGrid (raised * 2 ^ exponent) := by
  have width := canonical.width
  have least := canonical.least_le
  rcases Nat.lt_or_ge raised (2 ^ 53) with fits | carries
  · exact ⟨raised, exponent, fits, least, rfl⟩
  · have raisedIs : raised = 2 ^ 53 := by omega
    refine ⟨2 ^ 52, exponent + 1, by decide, by omega, ?_⟩
    rw [raisedIs, zpow_add_one₀ two_ne_zero]
    push_cast
    ring

/-- The rounded mantissa gives the nearest amount if the digits before it fill their
place. -/
theorem Describes.isNearest {kept : ExtendedMantissa} {exact : ℚ} {exponent : Int}
    (describes : Describes kept exact)
    (canonical : IsCanonical kept.mantissa exponent) :
    IsNearest (exact * 2 ^ exponent) (kept.roundedMantissa * 2 ^ exponent) := by
  obtain ⟨raised, little⟩ := le_roundedMantissa kept
  obtain ⟨fromBelow, fromAbove⟩ := describes.rounded
  have atMost := describes.le
  have scale := two_zpow_pos exponent
  have raisedLe : (kept.mantissa : ℚ) ≤ kept.roundedMantissa := by
    exact_mod_cast raised
  constructor
  · exact canonical.onGrid_of_le_succ little
  · intro other onGrid less
    have middle : (kept.mantissa + kept.roundedMantissa : ℚ) ≤ 2 * exact := by
      rcases Nat.eq_or_lt_of_le raised with same | more
      · rw [← same]
        linarith
      · have moreLe : (kept.mantissa : ℚ) + 1 ≤ kept.roundedMantissa := by
          exact_mod_cast more
        linarith
    have scaled := mul_le_mul_of_nonneg_right middle scale.le
    -- A finer number lies below the digits, and the middle to them is not passed.
    rcases canonical.multiple_or_lt onGrid with ⟨count, rfl⟩ | below
    · have fewer := lt_of_mul_lt_mul_right less scale.le
      have fewerCount : count + 1 ≤ kept.roundedMantissa := by exact_mod_cast fewer
      have fewerLe : (count : ℚ) + 1 ≤ kept.roundedMantissa := by
        exact_mod_cast fewerCount
      have bound : (count + kept.roundedMantissa : ℚ) ≤ 2 * exact := by linarith
      have scaledBound := mul_le_mul_of_nonneg_right bound scale.le
      linarith
    · linarith
  · intro other onGrid greater
    rcases canonical.multiple_or_lt onGrid with ⟨count, rfl⟩ | below
    · have more := lt_of_mul_lt_mul_right greater scale.le
      have moreCount : kept.roundedMantissa + 1 ≤ count := by exact_mod_cast more
      have moreLe : (kept.roundedMantissa : ℚ) + 1 ≤ count := by
        exact_mod_cast moreCount
      have bound : 2 * exact ≤ count + kept.roundedMantissa := by linarith
      have scaledBound := mul_le_mul_of_nonneg_right bound scale.le
      linarith
    · have notBelow := mul_le_mul_of_nonneg_right raisedLe scale.le
      linarith

theorem targetExponent_eq (total : Int) :
    format.targetExponent total = max (total - 53) (-1074) :=
  rfl

section Round

variable {mantissa : Nat} {exponent : Int} {accuracy : Accuracy} {exact : ℚ}

/-- Dropping digits down to the target leaves as many as there is room for. -/
theorem isCanonical_shiftToTargetExponent
    (fine : exponent ≤ format.targetExponent (totalExponent mantissa exponent)) :
    IsCanonical
      (shiftToTargetExponent format mantissa exponent accuracy).1.mantissa
      (shiftToTargetExponent format mantissa exponent accuracy).2 := by
  unfold shiftToTargetExponent shiftToExponent
  simp only [mantissa_shiftRight, mantissa_ofMantissaAndAccuracy]
  generalize targetIs : format.targetExponent (totalExponent mantissa exponent) =
    target at fine
  generalize droppedIs : (target - exponent).toNat = dropped
  rw [targetExponent_eq, totalExponent] at targetIs
  have widest : mantissa < 2 ^ (mantissa.log2 + 1) := Nat.lt_log2_self
  constructor
  · apply Nat.div_lt_of_lt_mul
    calc mantissa
        < 2 ^ (mantissa.log2 + 1) := widest
      _ ≤ 2 ^ (dropped + 53) := Nat.pow_le_pow_right (by decide) (by omega)
      _ = 2 ^ dropped * 2 ^ 53 := Nat.pow_add 2 dropped 53
  · omega
  · intro narrow
    by_contra notLeast
    have present : mantissa ≠ 0 := by
      rintro rfl
      rw [Nat.log2_zero] at targetIs
      omega
    have wide : 2 ^ (52 + dropped) ≤ mantissa :=
      (Nat.le_log2 present).mp (by omega)
    rw [Nat.pow_add, ← Nat.le_div_iff_mul_le (Nat.two_pow_pos dropped)] at wide
    omega

/-- What is described does not depend on how many digits are dropped. -/
theorem Describes.shiftToTargetExponent
    (describes : Describes (.ofMantissaAndAccuracy mantissa accuracy) exact) :
    ∃ kept, Describes (shiftToTargetExponent format mantissa exponent accuracy).1 kept ∧
      kept * 2 ^ (shiftToTargetExponent format mantissa exponent accuracy).2 =
        exact * 2 ^ exponent := by
  refine ⟨_, describes.shiftRight _, ?_⟩
  change exact / 2 ^ (_ : Nat) * 2 ^ (exponent + (_ : Nat)) = _
  rw [zpow_add₀ two_ne_zero, zpow_natCast]
  field_simp

/-- A carry out of the highest digit is shifted back without loss. -/
theorem IsCanonical.shiftToTargetExponent {digits raised : Nat}
    (canonical : IsCanonical digits exponent) (raisedLe : digits ≤ raised)
    (little : raised ≤ digits + 1) :
    IsCanonical
        (shiftToTargetExponent format raised exponent .exact).1.mantissa
        (shiftToTargetExponent format raised exponent .exact).2 ∧
      ((shiftToTargetExponent format raised exponent .exact).1.mantissa : ℚ) *
          2 ^ (shiftToTargetExponent format raised exponent .exact).2 =
        raised * 2 ^ exponent := by
  have least := canonical.least_le
  have width := canonical.width
  unfold UnpackedFloat.shiftToTargetExponent shiftToExponent
  simp only [mantissa_shiftRight, mantissa_ofMantissaAndAccuracy]
  generalize droppedIs : (format.targetExponent (totalExponent raised exponent)
    - exponent).toNat = dropped
  rw [targetExponent_eq, totalExponent] at droppedIs
  rcases Nat.lt_or_ge raised (2 ^ 53) with fits | carries
  · have short : raised.log2 < 53 := by
      rcases Nat.eq_zero_or_pos raised with rfl | present
      · decide
      · exact (Nat.log2_lt (Nat.ne_of_gt present)).mpr fits
    have none : dropped = 0 := by omega
    rw [none, Nat.pow_zero, Nat.div_one, Int.natCast_zero, Int.add_zero]
    refine ⟨⟨fits, least, ?_⟩, rfl⟩
    intro narrow
    exact canonical.full (Nat.lt_of_le_of_lt raisedLe narrow)
  · -- All digits were ones and are zeros now, so that the last one can go.
    have raisedIs : raised = 2 ^ 53 := by omega
    subst raisedIs
    rw [Nat.log2_two_pow] at droppedIs
    have one : dropped = 1 := by omega
    subst one
    refine ⟨⟨by decide, ?_, ?_⟩, ?_⟩
    · omega
    · intro narrow
      exact absurd narrow (by decide)
    · rw [Int.natCast_one, zpow_add_one₀ two_ne_zero]
      push_cast
      ring

/-- A number is rounded to the nearest amount. -/
theorem Describes.roundWithAccuracy
    (describes : Describes (.ofMantissaAndAccuracy mantissa accuracy) exact)
    (fine : exponent ≤ format.targetExponent (totalExponent mantissa exponent)) :
    IsAmount (roundWithAccuracy format .positive mantissa exponent accuracy) ∧
      IsNearest (exact * 2 ^ exponent)
        (value (roundWithAccuracy format .positive mantissa exponent accuracy)) := by
  have canonical := @isCanonical_shiftToTargetExponent mantissa exponent accuracy fine
  obtain ⟨kept, keptDescribes, keptIs⟩ :=
    @Describes.shiftToTargetExponent mantissa exponent accuracy exact describes
  have nearest := keptDescribes.isNearest canonical
  obtain ⟨raisedLe, little⟩ := le_roundedMantissa
    (UnpackedFloat.shiftToTargetExponent format mantissa exponent accuracy).1
  obtain ⟨settled, settledIs⟩ := canonical.shiftToTargetExponent raisedLe little
  rw [keptIs, ← settledIs] at nearest
  unfold UnpackedFloat.roundWithAccuracy
  simp only
  split
  · next vanishes =>
      rw [vanishes, Nat.cast_zero, zero_mul] at nearest
      exact ⟨trivial, nearest⟩
  · exact ⟨settled, nearest⟩

end Round

end GrowthGrammar.Binary64
