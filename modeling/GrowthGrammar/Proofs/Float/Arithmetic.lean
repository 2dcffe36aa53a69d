import GrowthGrammar.Proofs.Float.Nearest

/-!
# Sums and quotients of amounts

The sum of two amounts and the quotient of an amount by a positive one are the
nearest amounts to the exact results.  What is stored is the same amount, unless it
is so large that it is stored as infinity.
-/

namespace GrowthGrammar.Binary64

open Float.Model UnpackedFloat

variable {first second : UnpackedFloat}

/-! ## Sums -/

theorem log2_mul_two_pow {count : Nat} (positive : 0 < count) (places : Nat) :
    (count * 2 ^ places).log2 = count.log2 + places := by
  have power := Nat.two_pow_pos places
  have scaled := Nat.mul_pos positive power
  rw [Nat.log2_eq_iff (Nat.ne_of_gt scaled)]
  constructor
  · rw [Nat.pow_add]
    exact Nat.mul_le_mul_right _ (Nat.log2_self_le (Nat.ne_of_gt positive))
  · rw [Nat.add_right_comm, Nat.pow_add]
    exact Nat.mul_lt_mul_of_pos_right Nat.lt_log2_self power

/-- A whole number of units is rounded to the nearest amount. -/
theorem normalize_isNearest {digits : Nat} (positive : 0 < digits) (exponent : Int) :
    IsAmount (UnpackedFloat.normalize format digits exponent .positive) ∧
      IsNearest (digits * 2 ^ exponent)
        (value (UnpackedFloat.normalize format digits exponent .positive)) := by
  have greater : compare (digits : Int) 0 = .gt :=
    Int.compare_eq_gt.mpr (by omega)
  simp only [UnpackedFloat.normalize, greater, UnpackedFloat.round, decreaseExponent,
    Int.toNat_natCast, Nat.shiftLeft_eq]
  generalize placesIs : (exponent - format.targetExponent
    (totalExponent digits exponent)).toNat = places
  have fine : exponent - places ≤ format.targetExponent
      (totalExponent (digits * 2 ^ places) (exponent - places)) := by
    rw [targetExponent_eq, totalExponent] at placesIs ⊢
    rw [log2_mul_two_pow positive]
    omega
  have exact : Describes
      (.ofMantissaAndAccuracy (digits * 2 ^ places) .exact)
      (digits * 2 ^ places : Nat) := rfl
  have rounds := exact.roundWithAccuracy fine
  have unscaled : ((digits * 2 ^ places : Nat) : ℚ) * 2 ^ (exponent - places) =
      digits * 2 ^ exponent := by
    rw [zpow_sub₀ two_ne_zero, zpow_natCast]
    push_cast
    field_simp
  rw [unscaled] at rounds
  exact rounds

/-- The sum of two amounts is the nearest amount. -/
theorem IsAmount.add (firstAmount : IsAmount first) (secondAmount : IsAmount second) :
    IsAmount (UnpackedFloat.add format first second) ∧
      IsNearest (value first + value second)
        (value (UnpackedFloat.add format first second)) := by
  obtain ⟨sign, rfl⟩ | ⟨mantissa, exponent, positive, canonical, rfl⟩ :=
    firstAmount.zero_or_finite
  · have absent : value (.zero sign) = 0 := rfl
    rw [absent, zero_add]
    obtain ⟨other, rfl⟩ | ⟨mantissa, exponent, positive, canonical, rfl⟩ :=
      secondAmount.zero_or_finite
    · cases sign <;> cases other <;>
        exact ⟨trivial, IsNearest.of_onGrid onGrid_zero⟩
    · exact ⟨secondAmount, IsNearest.of_onGrid secondAmount.onGrid⟩
  · obtain ⟨other, rfl⟩ | ⟨otherMantissa, otherExponent, otherPositive, -, rfl⟩ :=
      secondAmount.zero_or_finite
    · have absent : value (.zero other) = 0 := rfl
      rw [absent, add_zero]
      exact ⟨firstAmount, IsNearest.of_onGrid firstAmount.onGrid⟩
    · -- Both are written with the lower exponent, so that their digits add up.
      generalize lowerIs : min exponent otherExponent = lower
      have scaled := zpow_add_toNat (by omega : lower ≤ exponent)
      have otherScaled := zpow_add_toNat (by omega : lower ≤ otherExponent)
      have sumIs : value (.finite .positive mantissa exponent positive) +
          value (.finite .positive otherMantissa otherExponent otherPositive) =
            (mantissa * 2 ^ (exponent - lower).toNat +
              otherMantissa * 2 ^ (otherExponent - lower).toNat : Nat) *
                2 ^ lower := by
        rw [value, value, ← scaled, ← otherScaled]
        push_cast
        ring
      have present : 0 < mantissa * 2 ^ (exponent - lower).toNat +
          otherMantissa * 2 ^ (otherExponent - lower).toNat :=
        Nat.add_pos_left (Nat.mul_pos positive (Nat.two_pow_pos _)) _
      have rounds := normalize_isNearest present lower
      rw [← sumIs] at rounds
      simp only [UnpackedFloat.add, decreaseExponent, lowerIs, Nat.shiftLeft_eq,
        Sign.apply]
      rw [← Int.natCast_add]
      exact rounds

/-! ## Quotients -/

/-- The remainder of a division tells how the quotient lies to its whole part. -/
theorem describes_quotient (whole : Nat) {part : Nat} (positive : 0 < part) :
    Describes
      (.ofMantissaAndAccuracy (whole / part) (accuracyOfFraction (whole % part) part))
      (whole / part : ℚ) := by
  have partPos : (0 : ℚ) < part := by exact_mod_cast positive
  have splits := Nat.div_add_mod whole part
  have restLess := Nat.mod_lt whole positive
  generalize whole / part = count at splits ⊢
  generalize whole % part = rest at splits restLess ⊢
  have quotientIs : (whole / part : ℚ) = count + rest / part := by
    rw [← splits]
    push_cast
    field_simp
  have little : (rest / part : ℚ) < 1 := by
    rw [div_lt_one partPos]
    exact_mod_cast restLess
  have halves : (2 * rest : ℚ) / part = 2 * (rest / part) := mul_div_assoc 2 _ _
  rw [quotientIs, accuracyOfFraction]
  split
  · next none => simp [none, ExtendedMantissa.ofMantissaAndAccuracy, Describes]
  · next some =>
      have restPos : (0 : ℚ) < rest / part :=
        div_pos (by exact_mod_cast Nat.pos_of_ne_zero some) partPos
      rcases lt_trichotomy (2 * rest) part with less | same | more
      · have below : (2 * rest / part : ℚ) < 1 := by
          rw [div_lt_one partPos]
          exact_mod_cast less
        rw [compare_lt_iff_lt.mpr less]
        constructor <;> linarith
      · have middle : (2 * rest / part : ℚ) = 1 := by
          rw [div_eq_one_iff_eq (ne_of_gt partPos)]
          exact_mod_cast same
        rw [compare_eq_iff_eq.mpr same]
        change 2 * (count + rest / part : ℚ) = 2 * count + 1
        linarith
      · have above : (1 : ℚ) < 2 * rest / part := by
          rw [one_lt_div partPos]
          exact_mod_cast more
        rw [compare_gt_iff_gt.mpr more]
        constructor <;> linarith

/-- Digits are made up until the whole quotient has as many as there is room for. -/
theorem divCore_fine {mantissa otherMantissa : Nat} (positive : 0 < mantissa)
    (otherPositive : 0 < otherMantissa) (exponent otherExponent : Int) :
    (divCore format mantissa exponent otherMantissa otherExponent).2.1 ≤
      format.targetExponent (totalExponent
        (divCore format mantissa exponent otherMantissa otherExponent).1
        (divCore format mantissa exponent otherMantissa otherExponent).2.1) := by
  simp only [divCore, Nat.shiftLeft_eq]
  generalize targetIs : min (exponent - otherExponent) (format.targetExponent
    (totalExponent mantissa exponent - totalExponent otherMantissa otherExponent)) =
      target
  generalize placesIs : (exponent - otherExponent - target).toNat = places
  simp only [targetExponent_eq, totalExponent] at targetIs ⊢
  -- At the least exponent there is nothing to show, since no target is below it.
  rcases Int.lt_or_le (-1074) target with above | least
  · have enough : otherMantissa.log2 + 1 + 52 ≤ mantissa.log2 + places := by omega
    have wide : otherMantissa * 2 ^ 52 ≤ mantissa * 2 ^ places := by
      calc otherMantissa * 2 ^ 52
          ≤ 2 ^ (otherMantissa.log2 + 1) * 2 ^ 52 :=
            Nat.mul_le_mul_right _ (Nat.le_of_lt Nat.lt_log2_self)
        _ = 2 ^ (otherMantissa.log2 + 1 + 52) := (Nat.pow_add 2 _ 52).symm
        _ ≤ 2 ^ (mantissa.log2 + places) := Nat.pow_le_pow_right (by decide) enough
        _ = 2 ^ mantissa.log2 * 2 ^ places := Nat.pow_add 2 _ places
        _ ≤ mantissa * 2 ^ places :=
            Nat.mul_le_mul_right _ (Nat.log2_self_le (Nat.ne_of_gt positive))
    have quotient : 2 ^ 52 ≤ mantissa * 2 ^ places / otherMantissa := by
      rw [Nat.le_div_iff_mul_le otherPositive, Nat.mul_comm]
      exact wide
    have digits : 52 ≤ (mantissa * 2 ^ places / otherMantissa).log2 :=
      (Nat.le_log2 (by omega)).mpr quotient
    omega
  · omega

/-- The quotient of an amount by a positive amount is the nearest amount. -/
theorem IsAmount.div (firstAmount : IsAmount first) (secondAmount : IsAmount second)
    (present : 0 < value second) :
    IsAmount (UnpackedFloat.div format first second) ∧
      IsNearest (value first / value second)
        (value (UnpackedFloat.div format first second)) := by
  obtain ⟨other, rfl⟩ | ⟨otherMantissa, otherExponent, otherPositive, -, rfl⟩ :=
    secondAmount.zero_or_finite
  · exact absurd present (lt_irrefl 0)
  · obtain ⟨sign, rfl⟩ | ⟨mantissa, exponent, positive, -, rfl⟩ :=
      firstAmount.zero_or_finite
    · have absent : value (.zero sign) = 0 := rfl
      rw [absent, zero_div]
      exact ⟨trivial, IsNearest.of_onGrid onGrid_zero⟩
    · have fine := divCore_fine positive otherPositive exponent otherExponent
      have lower : (divCore format mantissa exponent otherMantissa otherExponent).2.1 ≤
          exponent - otherExponent := Int.min_le_left _ _
      simp only [UnpackedFloat.div]
      simp only [divCore, Nat.shiftLeft_eq] at fine lower ⊢
      generalize min (exponent - otherExponent) _ = target at fine lower ⊢
      have scaled := zpow_add_toNat lower
      generalize (exponent - otherExponent - target).toNat = places at fine scaled ⊢
      have rounds := (describes_quotient (mantissa * 2 ^ places)
        otherPositive).roundWithAccuracy fine
      have quotientIs :
          ((mantissa * 2 ^ places : Nat) / otherMantissa : ℚ) * 2 ^ target =
            value (.finite .positive mantissa exponent positive) /
              value (.finite .positive otherMantissa otherExponent otherPositive) := by
        have digitsPos : (0 : ℚ) < otherMantissa := by exact_mod_cast otherPositive
        have unitPos := two_zpow_pos otherExponent
        rw [zpow_sub₀ two_ne_zero] at scaled
        rw [value, value, mul_div_mul_comm, ← scaled]
        push_cast
        ring
      rw [quotientIs] at rounds
      exact rounds

/-! ## Storing -/

/-- A normal number is read back from its components. -/
theorem unpack_of_normal {exponent : BitVec 11} (mantissa : BitVec 52)
    (finite : exponent ≠ -1#11) (normal : exponent ≠ 0#11) :
    ∃ positive, UnpackedFloat.unpack format
        (packComponents format .positive exponent mantissa) =
      .finite .positive (2 ^ 52 + mantissa.toNat) (exponent.toNat - 1075) positive := by
  refine ⟨Nat.add_pos_left (Nat.two_pow_pos 52) _, ?_⟩
  rw [UnpackedFloat.unpack]
  simp only [unpackSign_packComponents, Sign.ofBitVec_toBitVec,
    unpackMantissa_packComponents, unpackExponent_packComponents]
  rw [if_neg finite, if_neg normal]
  congr 1
  exact toNat_append_implicit mantissa

/-- A number with the least exponent is read back from its mantissa. -/
theorem unpack_of_subnormal {mantissa : BitVec 52} (present : mantissa ≠ 0#52) :
    ∃ positive, UnpackedFloat.unpack format
        (packComponents format .positive 0#11 mantissa) =
      .finite .positive mantissa.toNat (-1074) positive := by
  have positive : 0 < mantissa.toNat := by
    apply Nat.pos_of_ne_zero
    intro zero
    exact present (BitVec.eq_of_toNat_eq zero)
  refine ⟨positive, ?_⟩
  rw [UnpackedFloat.unpack]
  simp only [unpackSign_packComponents, Sign.ofBitVec_toBitVec,
    unpackMantissa_packComponents, unpackExponent_packComponents]
  rw [if_neg (by decide), if_pos trivial, dif_neg present]
  congr 1

section Stored

variable {mantissa : Nat} {exponent : Int}

theorem IsCanonical.unpack_pack (canonical : IsCanonical mantissa exponent)
    (positive : 0 < mantissa) (small : exponent ≤ 971) :
    UnpackedFloat.unpack format
        (UnpackedFloat.pack format (.finite .positive mantissa exponent positive)) =
      .finite .positive mantissa exponent positive := by
  have width := canonical.width
  have least := canonical.least_le
  have bias : format.exponentBias = 1023 := rfl
  rw [UnpackedFloat.pack]
  simp only [bias]
  generalize biasedIs : (exponent + (1023 : Nat) + (52 : Nat)).toNat = biased
  rw [if_neg (by omega)]
  split
  · next fullWidth =>
      have logIs : mantissa.log2 = 52 := by
        simp only [Format.mantissaBits] at fullWidth
        omega
      have inRange : 0 < biased ∧ biased < 2 ^ 11 - 1 := by omega
      obtain ⟨storedExponent, finite, normal⟩ := toNat_biased inRange
      obtain ⟨_, reads⟩ := unpack_of_normal (BitVec.ofNat 52 mantissa) finite normal
      simp only [toNat_without_implicit positive logIs, storedExponent] at reads
      rw [reads]
      congr 1
      omega
  · next narrow =>
      have few : mantissa < 2 ^ 52 := by
        by_contra wide
        have logIs : mantissa.log2 = 52 :=
          (Nat.log2_eq_iff (Nat.ne_of_gt positive)).mpr ⟨Nat.le_of_not_lt wide, width⟩
        simp only [Format.mantissaBits] at narrow
        omega
      have storedMantissa : (BitVec.ofNat 52 mantissa).toNat = mantissa := by
        rw [BitVec.toNat_ofNat, Nat.mod_eq_of_lt few]
      have present : BitVec.ofNat 52 mantissa ≠ 0#52 := by
        intro zero
        rw [zero] at storedMantissa
        exact Nat.ne_of_gt positive storedMantissa.symm
      obtain ⟨_, reads⟩ := unpack_of_subnormal present
      simp only [storedMantissa] at reads
      rw [reads]
      congr 1
      exact (canonical.full few).symm

theorem IsCanonical.unpack_pack_of_large (canonical : IsCanonical mantissa exponent)
    (positive : 0 < mantissa) (large : 971 < exponent) :
    UnpackedFloat.unpack format
          (UnpackedFloat.pack format (.finite .positive mantissa exponent positive)) =
        .infinity .positive ∧
      2 ^ 1024 ≤ value (.finite .positive mantissa exponent positive) := by
  have bias : format.exponentBias = 1023 := rfl
  constructor
  · rw [UnpackedFloat.pack]
    simp only [bias]
    rw [if_pos (by omega)]
    rfl
  · have wide : 2 ^ 52 ≤ mantissa := by
      by_contra narrow
      have atLeast := canonical.full (Nat.lt_of_not_le narrow)
      omega
    have digits : (2 : ℚ) ^ 52 ≤ mantissa := by exact_mod_cast wide
    have powers : (2 : ℚ) ^ ((972 : Nat) : Int) ≤ 2 ^ exponent :=
      zpow_le_zpow_right₀ one_le_two large
    rw [zpow_natCast] at powers
    calc (2 : ℚ) ^ 1024
        = 2 ^ 52 * 2 ^ 972 := pow_add 2 52 972
      _ ≤ (mantissa : ℚ) * 2 ^ exponent :=
          mul_le_mul digits powers (by positivity) (Nat.cast_nonneg _)

end Stored

/-- An amount is stored as it is, unless it is so large that it is stored as
infinity. -/
theorem IsAmount.stored {number : UnpackedFloat} (amount : IsAmount number) :
    UnpackedFloat.unpack format (UnpackedFloat.pack format number) = number ∨
      UnpackedFloat.unpack format (UnpackedFloat.pack format number) =
          .infinity .positive ∧
        2 ^ 1024 ≤ value number := by
  obtain ⟨sign, rfl⟩ | ⟨mantissa, exponent, positive, canonical, rfl⟩ :=
    amount.zero_or_finite
  · exact Or.inl unpack_packedZero
  · rcases Int.lt_or_le 971 exponent with large | small
    · exact Or.inr (canonical.unpack_pack_of_large positive large)
    · exact Or.inl (canonical.unpack_pack positive small)

end GrowthGrammar.Binary64
