import GrowthGrammar.Proofs.Float.Arithmetic
import GrowthGrammar.Proofs.Float.Counting

/-!
# Machine numbers as amounts

A machine number that is finite and not negative is an amount.  Amounts are added
and divided by taking the nearest amount to the exact result, and a sum that is too
large becomes infinite and stays so.
-/

namespace GrowthGrammar.Binary64

open Float.Model UnpackedFloat

/-- Whether a machine number is an amount of the given value. -/
structure HasAmount (number : Float) (amount : ℚ) : Prop where
  isAmount : IsAmount number.toModel.unpack
  value_eq : value number.toModel.unpack = amount

/-- Whether a machine number is greater than every amount. -/
def IsInfinite (number : Float) : Prop :=
  number.toModel.unpack = .infinity .positive

theorem lt_iff (first second : Float) :
    first < second ↔
      first.toModel.unpack.lt second.toModel.unpack = true := by
  change decide (first.toModel < second.toModel) = true ↔ _
  rw [decide_eq_true_eq]
  rfl

theorem unpack_add (first second : Float) :
    (first + second).toModel.unpack =
      UnpackedFloat.unpack format (UnpackedFloat.pack format
        (UnpackedFloat.add format first.toModel.unpack second.toModel.unpack)) :=
  rfl

theorem unpack_div (first second : Float) :
    (first / second).toModel.unpack =
      UnpackedFloat.unpack format (UnpackedFloat.pack format
        (UnpackedFloat.div format first.toModel.unpack second.toModel.unpack)) :=
  rfl

theorem hasAmount_zero : HasAmount 0.0 0 :=
  ⟨trivial, rfl⟩

theorem hasAmount_one : HasAmount 1.0 1 := by
  constructor
  · rw [unpack_one]
    exact ⟨by decide, by decide, by decide⟩
  · rw [unpack_one, value]
    norm_num

/-- A number that is not less than zero is an amount or infinite. -/
theorem hasAmount_or_isInfinite {number : Float} (atLeast : 0.0 ≤ number) :
    (∃ amount, HasAmount number amount) ∨ IsInfinite number := by
  rw [le_iff] at atLeast
  have zeroIs : (0.0 : Float).toModel.unpack = .zero .positive := rfl
  rw [zeroIs] at atLeast
  cases read : number.toModel.unpack with
  | notANumber =>
      rw [read] at atLeast
      contradiction
  | infinity sign =>
      cases sign with
      | negative =>
          rw [read] at atLeast
          contradiction
      | positive => exact Or.inr read
  | zero sign =>
      left
      refine ⟨_, ?_, rfl⟩
      rw [read]
      trivial
  | finite sign mantissa exponent positive =>
      cases sign with
      | negative =>
          rw [read] at atLeast
          contradiction
      | positive =>
          left
          refine ⟨_, ?_, rfl⟩
          obtain ⟨width, least, full⟩ := canonical_of_unpack read
          rw [read]
          exact ⟨width, least, full⟩

theorem IsInfinite.not_isFinite {number : Float} (infinite : IsInfinite number) :
    number.isFinite = false := by
  change number.toModel.unpack.isFinite = false
  rw [infinite]
  rfl

theorem IsInfinite.not_lt_one {number : Float} (infinite : IsInfinite number) :
    ¬ number < 1.0 := by
  rw [lt_iff, infinite]
  exact Bool.false_ne_true

/-- Finite numbers that are not less than zero are amounts. -/
theorem exists_hasAmount_of_isFinite {number : Float} (finite : number.isFinite)
    (atLeast : 0.0 ≤ number) : ∃ amount, HasAmount number amount := by
  rcases hasAmount_or_isInfinite atLeast with amount | infinite
  · exact amount
  · rw [infinite.not_isFinite] at finite
    contradiction

/-- Numbers from zero up to one are amounts. -/
theorem exists_hasAmount_of_lt_one {number : Float} (atLeast : 0.0 ≤ number)
    (below : number < 1.0) : ∃ amount, HasAmount number amount := by
  rcases hasAmount_or_isInfinite atLeast with amount | infinite
  · exact amount
  · exact absurd below infinite.not_lt_one

variable {first second : Float} {amount otherAmount : ℚ}

namespace HasAmount

theorem nonneg (hasAmount : HasAmount first amount) : 0 ≤ amount := by
  rw [← hasAmount.value_eq]
  exact value_nonneg _

theorem onGrid (hasAmount : HasAmount first amount) : OnGrid amount := by
  rw [← hasAmount.value_eq]
  exact hasAmount.isAmount.onGrid

theorem isFinite (hasAmount : HasAmount first amount) : first.isFinite := by
  change first.toModel.unpack.isFinite = true
  obtain ⟨sign, read⟩ | ⟨_, _, _, _, read⟩ := hasAmount.isAmount.zero_or_finite
  · rw [read]
    rfl
  · rw [read]
    rfl

theorem le_iff (hasAmount : HasAmount first amount)
    (otherHas : HasAmount second otherAmount) :
    first ≤ second ↔ amount ≤ otherAmount := by
  rw [Binary64.le_iff, hasAmount.isAmount.le_iff otherHas.isAmount,
    hasAmount.value_eq, otherHas.value_eq]

theorem lt_iff (hasAmount : HasAmount first amount)
    (otherHas : HasAmount second otherAmount) :
    first < second ↔ amount < otherAmount := by
  rw [Binary64.lt_iff, hasAmount.isAmount.lt_iff otherHas.isAmount,
    hasAmount.value_eq, otherHas.value_eq]

/-- A positive amount is written in one way. -/
theorem eq_of_pos (hasAmount : HasAmount first amount)
    (otherHas : HasAmount second amount) (positive : 0 < amount) :
    first = second := by
  have same : first.toModel.unpack = second.toModel.unpack := by
    apply hasAmount.isAmount.eq_of_value_eq otherHas.isAmount
    · rw [hasAmount.value_eq, otherHas.value_eq]
    · rw [hasAmount.value_eq]
      exact positive
  have sameBits := (unpack_inj_of_valid first.toModel.valid second.toModel.valid).mp same
  obtain ⟨bits, valid⟩ := first
  obtain ⟨otherBits, otherValid⟩ := second
  congr 2
  exact UInt64.eq_of_toBitVec_eq sameBits

/-! ## Sums and quotients -/

theorem add (hasAmount : HasAmount first amount)
    (otherHas : HasAmount second otherAmount) :
    (∃ sum, HasAmount (first + second) sum ∧
        IsNearest (amount + otherAmount) sum) ∨
      IsInfinite (first + second) := by
  obtain ⟨isAmount, nearest⟩ := hasAmount.isAmount.add otherHas.isAmount
  rw [hasAmount.value_eq, otherHas.value_eq] at nearest
  rcases isAmount.stored with same | ⟨infinite, -⟩
  · rw [← same, ← unpack_add] at isAmount nearest
    exact Or.inl ⟨_, ⟨isAmount, rfl⟩, nearest⟩
  · rw [← unpack_add] at infinite
    exact Or.inr infinite

/-- A part of a positive amount has a share of it. -/
theorem div (hasAmount : HasAmount first amount)
    (otherHas : HasAmount second otherAmount) (positive : 0 < otherAmount)
    (atMost : amount ≤ otherAmount) :
    ∃ share, HasAmount (first / second) share ∧
      IsNearest (amount / otherAmount) share := by
  obtain ⟨isAmount, nearest⟩ := hasAmount.isAmount.div otherHas.isAmount
    (otherHas.value_eq ▸ positive)
  rw [hasAmount.value_eq, otherHas.value_eq] at nearest
  rcases isAmount.stored with same | ⟨-, large⟩
  · rw [← same, ← unpack_div] at isAmount nearest
    exact ⟨_, ⟨isAmount, rfl⟩, nearest⟩
  · have little := nearest.le_of_le_onGrid onGrid_one
      ((div_le_one positive).mpr atMost)
    have tooLarge : (2 : ℚ) ^ 1024 ≤ 1 := large.trans little
    exact absurd tooLarge (not_le_of_gt (one_lt_pow₀ one_lt_two (by decide)))

/-- A positive amount is exactly the whole of itself. -/
theorem div_self_eq_one (hasAmount : HasAmount first amount) (positive : 0 < amount) :
    first / first = 1.0 := by
  obtain ⟨share, hasShare, nearest⟩ := hasAmount.div hasAmount positive le_rfl
  rw [div_self (ne_of_gt positive)] at nearest
  rw [nearest.eq_of_onGrid onGrid_one] at hasShare
  exact hasShare.eq_of_pos hasAmount_one one_pos

/-- A larger part has no smaller share. -/
theorem div_le_div {total : Float} {whole : ℚ} (hasAmount : HasAmount first amount)
    (otherHas : HasAmount second otherAmount) (totalHas : HasAmount total whole)
    (positive : 0 < whole) (le : amount ≤ otherAmount) (atMost : otherAmount ≤ whole) :
    first / total ≤ second / total := by
  obtain ⟨share, hasShare, nearest⟩ := hasAmount.div totalHas positive (le.trans atMost)
  obtain ⟨otherShare, otherHasShare, otherNearest⟩ := otherHas.div totalHas positive atMost
  rw [hasShare.le_iff otherHasShare]
  rcases lt_or_eq_of_le le with less | rfl
  · exact nearest.le_of_lt otherNearest (div_lt_div_of_pos_right less positive)
  · rcases lt_or_eq_of_le hasAmount.nonneg with present | rfl
    · rw [hasAmount.eq_of_pos otherHas present] at hasShare
      rw [← hasShare.value_eq, ← otherHasShare.value_eq]
    · rw [zero_div] at nearest otherNearest
      rw [nearest.eq_of_onGrid onGrid_zero, otherNearest.eq_of_onGrid onGrid_zero]

theorem div_infinite (hasAmount : HasAmount first amount)
    (infinite : IsInfinite second) : HasAmount (first / second) 0 := by
  have vanishes : ∃ sign, (first / second).toModel.unpack = .zero sign := by
    rw [unpack_div, infinite]
    obtain ⟨sign, read⟩ | ⟨_, _, _, _, read⟩ := hasAmount.isAmount.zero_or_finite
    · rw [read]
      exact ⟨_, unpack_packedZero⟩
    · rw [read]
      exact ⟨_, unpack_packedZero⟩
  obtain ⟨sign, read⟩ := vanishes
  constructor
  · rw [read]
    trivial
  · rw [read]
    rfl

end HasAmount

namespace IsInfinite

/-- What is infinite stays so. -/
theorem add (infinite : IsInfinite first) (hasAmount : HasAmount second amount) :
    IsInfinite (first + second) := by
  have absorbs : UnpackedFloat.add format (.infinity .positive)
      second.toModel.unpack = .infinity .positive := by
    obtain ⟨sign, read⟩ | ⟨_, _, _, _, read⟩ := hasAmount.isAmount.zero_or_finite
    · rw [read]
      rfl
    · rw [read]
      rfl
  rw [IsInfinite, unpack_add, infinite, absorbs]
  rfl

theorem unpack_div (infinite : IsInfinite first) (otherInfinite : IsInfinite second) :
    (first / second).toModel.unpack = .notANumber := by
  rw [Binary64.unpack_div, infinite, otherInfinite]
  exact unpack_packedNaN

/-- Nothing is less than the undefined. -/
theorem not_lt_div (infinite : IsInfinite first) (otherInfinite : IsInfinite second)
    (number : Float) : ¬ number < first / second := by
  rw [lt_iff, infinite.unpack_div otherInfinite]
  cases number.toModel.unpack <;> exact Bool.false_ne_true

theorem isNaN_div (infinite : IsInfinite first) (otherInfinite : IsInfinite second) :
    (first / second).isNaN := by
  change (first / second).toModel.unpack.isNaN = true
  rw [infinite.unpack_div otherInfinite]
  rfl

end IsInfinite

end GrowthGrammar.Binary64
