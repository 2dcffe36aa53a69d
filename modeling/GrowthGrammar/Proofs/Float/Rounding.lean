import Mathlib
import GrowthGrammar.Scalar

/-!
# Rounding of machine numbers

A finite machine number is a whole mantissa times a power of two.  Rounding drops
the lowest binary digits of a mantissa and adds at most one half of the last
digit that is kept.  This module says what that means for an upper bound: how far
above an exact product its rounded value can be, and that neither storing a
number nor cutting off its fraction takes it above a bound that it is below.
-/

namespace GrowthGrammar.Binary64

open Float.Model Float.Model.UnpackedFloat

/-- The format of a machine number of type `Float`. -/
abbrev format : Format :=
  Format.binary64

/-! ## Dropping digits -/

/-- What is kept of a mantissa after digits were dropped, and the first dropped
digit, are no more than the mantissa. -/
structure Keeps (mantissa dropped : Nat) (kept : ExtendedMantissa) : Prop where
  kept_le : kept.mantissa * 2 ^ dropped ≤ mantissa
  half_le : kept.roundBit = true →
    (2 * kept.mantissa + 1) * 2 ^ dropped ≤ 2 * mantissa

theorem Keeps.shiftRightOne {mantissa dropped : Nat} {kept : ExtendedMantissa}
    (keeps : Keeps mantissa dropped kept) :
    Keeps mantissa (dropped + 1) kept.shiftRightOne := by
  rcases keeps with ⟨keptLe, _⟩
  constructor
  · calc kept.mantissa / 2 * 2 ^ (dropped + 1)
        = 2 * (kept.mantissa / 2) * 2 ^ dropped := by ring
      _ ≤ kept.mantissa * 2 ^ dropped := by
          apply Nat.mul_le_mul_right
          omega
      _ ≤ mantissa := keptLe
  · intro odd
    have splits : 2 * (kept.mantissa / 2) + 1 = kept.mantissa := by
      simp only [ExtendedMantissa.shiftRightOne, bne_iff_ne] at odd
      omega
    calc (2 * (kept.mantissa / 2) + 1) * 2 ^ (dropped + 1)
        = 2 * (kept.mantissa * 2 ^ dropped) := by
          rw [splits]
          ring
      _ ≤ 2 * mantissa := Nat.mul_le_mul_left 2 keptLe

theorem keeps_shiftRight (mantissa dropped : Nat) :
    Keeps mantissa dropped
      (ExtendedMantissa.ofMantissaAndAccuracy mantissa .exact >>> dropped) := by
  induction dropped with
  | zero =>
      constructor
      · exact Nat.le_of_eq (Nat.mul_one mantissa)
      · intro dropsDigit
        contradiction
  | succ dropped ih => exact ih.shiftRightOne

/-- Rounding adds at most one half of the last digit that is kept. -/
theorem Keeps.rounded_le {mantissa dropped : Nat} {kept : ExtendedMantissa}
    (keeps : Keeps mantissa dropped kept) :
    2 * (kept.roundedMantissa * 2 ^ dropped) ≤ 2 * mantissa + 2 ^ dropped := by
  rcases keeps with ⟨keptLe, halfLe⟩
  rcases kept with ⟨digits, roundBit, stickyBit⟩
  cases roundBit with
  | false =>
      have unchanged :
          ExtendedMantissa.roundedMantissa ⟨digits, false, stickyBit⟩ =
            digits := by
        cases stickyBit <;> rfl
      rw [unchanged]
      exact Nat.le_trans (Nat.mul_le_mul_left 2 keptLe) (Nat.le_add_right _ _)
  | true =>
      have raised :
          ExtendedMantissa.roundedMantissa ⟨digits, true, stickyBit⟩ ≤
            digits + 1 := by
        cases stickyBit with
        | false =>
            change digits + digits % 2 ≤ digits + 1
            omega
        | true => exact Nat.le_refl _
      have half := halfLe rfl
      simp only at half
      calc 2 * (ExtendedMantissa.roundedMantissa ⟨digits, true, stickyBit⟩
              * 2 ^ dropped)
          ≤ 2 * ((digits + 1) * 2 ^ dropped) := by
            apply Nat.mul_le_mul_left
            exact Nat.mul_le_mul_right _ raised
        _ = (2 * digits + 1) * 2 ^ dropped + 2 ^ dropped := by ring
        _ ≤ 2 * mantissa + 2 ^ dropped := Nat.add_le_add_right half _

theorem le_targetExponent (total : Int) :
    -1074 ≤ format.targetExponent total :=
  Int.le_max_right _ _

/-- A rounded number has lost its lowest digits, and is at most one half of the
last digit that rounding has kept above the exact number. -/
theorem roundWithAccuracy_eq_zero_or_le (sign : Sign) (mantissa : Nat)
    (exponent : Int) :
    roundWithAccuracy format sign mantissa exponent .exact = .zero sign ∨
      ∃ digits lost positive,
        roundWithAccuracy format sign mantissa exponent .exact =
            .finite sign digits (exponent + Int.ofNat lost) positive ∧
          -1074 ≤ exponent + Int.ofNat lost ∧
          2 * (digits * 2 ^ lost) ≤ 2 * mantissa +
            2 ^ (format.targetExponent (totalExponent mantissa exponent)
              - exponent).toNat := by
  have target := le_targetExponent (totalExponent mantissa exponent)
  unfold roundWithAccuracy shiftToTargetExponent shiftToExponent
  simp only
  generalize firstIs : (format.targetExponent (totalExponent mantissa exponent)
    - exponent).toNat = first
  have rounded := (keeps_shiftRight mantissa first).rounded_le
  generalize (ExtendedMantissa.ofMantissaAndAccuracy mantissa .exact
    >>> first).roundedMantissa = between at rounded ⊢
  generalize (format.targetExponent (totalExponent between
    (exponent + ↑first)) - (exponent + ↑first)).toNat = second
  have kept := (keeps_shiftRight between second).kept_le
  generalize (ExtendedMantissa.ofMantissaAndAccuracy between .exact
    >>> second).mantissa = digits at kept ⊢
  by_cases vanishes : digits = 0
  · left
    rw [dif_pos vanishes]
  · right
    rw [dif_neg vanishes]
    refine ⟨digits, first + second, Nat.pos_of_ne_zero vanishes, ?_, ?_, ?_⟩
    · congr 1
      simp only [Int.ofNat_eq_natCast]
      omega
    · simp only [Int.ofNat_eq_natCast]
      omega
    · calc 2 * (digits * 2 ^ (first + second))
          = 2 * (digits * 2 ^ second * 2 ^ first) := by ring
        _ ≤ 2 * (between * 2 ^ first) := by
            apply Nat.mul_le_mul_left
            exact Nat.mul_le_mul_right _ kept
        _ ≤ 2 * mantissa + 2 ^ first := rounded

end GrowthGrammar.Binary64
