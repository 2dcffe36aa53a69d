import GrowthGrammar.Proofs.Float.Rounding

/-!
# Stored machine numbers

A machine number is stored in a sign, an exponent and a mantissa of fixed widths.
What is read back from the store has a mantissa of at most 53 digits, as many as
its exponent demands, and a number that lies below a bound still does so after it
was stored.
-/

namespace GrowthGrammar.Binary64

open Float.Model UnpackedFloat

/-- The mantissa of a normal number has its highest digit put back. -/
theorem toNat_append_implicit (mantissa : BitVec 52) :
    (1#1 ++ mantissa).toNat = 2 ^ 52 + mantissa.toNat := by
  rw [BitVec.toNat_append, Nat.shiftLeft_eq]
  have joined := Nat.two_pow_add_eq_or_of_lt mantissa.isLt 1
  simp only [Nat.mul_one] at joined
  simp [joined]

/-- A finite number that is read has at most 53 digits, and fewer only at the
least exponent. -/
theorem canonical_of_unpack {bits : BitVec format.numBits} {sign : Sign}
    {mantissa : Nat} {exponent : Int} {positive : 0 < mantissa}
    (reads : UnpackedFloat.unpack format bits = .finite sign mantissa exponent positive) :
    mantissa < 2 ^ 53 ∧ -1074 ≤ exponent ∧
      (mantissa < 2 ^ 52 → exponent = -1074) := by
  have bias : format.exponentBias = 1023 := rfl
  unfold UnpackedFloat.unpack at reads
  simp only [bias] at reads
  have small : (unpackMantissa bits).toNat < 2 ^ 52 :=
    (unpackMantissa bits).isLt
  by_cases special : unpackExponent bits = -1#11
  · rw [if_pos special] at reads
    split at reads <;> contradiction
  · rw [if_neg special] at reads
    by_cases least : unpackExponent bits = 0#11
    · rw [if_pos least] at reads
      split at reads
      · contradiction
      · cases reads
        have stored : (unpackExponent bits).toNat = 0 := by
          rw [least]
          rfl
        rw [stored]
        omega
    · rw [if_neg least] at reads
      cases reads
      have digits : (1#1 ++ unpackMantissa bits).toNat =
          2 ^ 52 + (unpackMantissa bits).toNat := toNat_append_implicit _
      have raised : (unpackExponent bits).toNat ≠ 0 := by
        intro zero
        exact least (BitVec.eq_of_toNat_eq zero)
      generalize (1#1 ++ unpackMantissa bits).toNat = mantissa at digits ⊢
      generalize (unpackExponent bits).toNat = stored at raised ⊢
      omega

/-- Whether a number is negative, undefined, or less than a bound. -/
def IsBelow (bound : Nat) : UnpackedFloat → Prop
  | .infinity .positive => False
  | .finite .positive mantissa exponent _ =>
      -1074 ≤ exponent ∧
        mantissa * 2 ^ exponent.toNat < bound * 2 ^ (-exponent).toNat
  | _ => True

/-- A number below a bound is stored with its own exponent. -/
theorem exponent_lt_of_isBelow {bound mantissa : Nat} {exponent : Int}
    (small : bound ≤ 2 ^ 53) (positive : 0 < mantissa)
    (below : mantissa * 2 ^ exponent.toNat < bound * 2 ^ (-exponent).toNat) :
    exponent < 53 := by
  by_contra large
  have power : 2 ^ 53 ≤ 2 ^ exponent.toNat :=
    Nat.pow_le_pow_right (by omega) (by omega)
  have unscaled : (-exponent).toNat = 0 := by omega
  rw [unscaled, Nat.pow_zero, Nat.mul_one] at below
  have scaled : 1 * 2 ^ exponent.toNat ≤ mantissa * 2 ^ exponent.toNat :=
    Nat.mul_le_mul_right _ positive
  omega

theorem isBelow_of_negative (bound : Nat) (exponent : BitVec 11)
    (mantissa : BitVec 52) :
    IsBelow bound (UnpackedFloat.unpack format
      (packComponents format .negative exponent mantissa)) := by
  rw [UnpackedFloat.unpack]
  simp only [unpackSign_packComponents, Sign.ofBitVec_toBitVec]
  split
  · split <;> trivial
  · split
    · split <;> trivial
    · trivial

/-- The bound of a number that is read back, by its exponent. -/
theorem isBelow_of_components {bound : Nat} (sign : Sign)
    {exponent : BitVec 11} {mantissa : BitVec 52} (finite : exponent ≠ -1#11)
    (least : exponent = 0#11 →
      mantissa.toNat * 2 ^ (-1074 : Int).toNat <
        bound * 2 ^ (-(-1074 : Int)).toNat)
    (normal : exponent ≠ 0#11 →
      (2 ^ 52 + mantissa.toNat) * 2 ^ ((exponent.toNat : Int) - 1075).toNat <
        bound * 2 ^ (-((exponent.toNat : Int) - 1075)).toNat) :
    IsBelow bound (UnpackedFloat.unpack format
      (packComponents format sign exponent mantissa)) := by
  cases sign with
  | negative => exact isBelow_of_negative bound exponent mantissa
  | positive =>
      rw [UnpackedFloat.unpack]
      simp only [unpackSign_packComponents, Sign.ofBitVec_toBitVec,
        unpackMantissa_packComponents, unpackExponent_packComponents]
      rw [if_neg finite]
      by_cases zero : exponent = 0#11
      · rw [if_pos zero]
        split
        · trivial
        · have leastExponent : ((exponent.toNat : Int)
              - ((format.exponentBias : Int) + (52 : Nat)) + 1) = -1074 := by
            rw [zero]
            rfl
          rw [IsBelow, leastExponent]
          exact ⟨Int.le_refl _, least zero⟩
      · rw [if_neg zero]
        have raised : exponent.toNat ≠ 0 := by
          intro toNatZero
          exact zero (BitVec.eq_of_toNat_eq toNatZero)
        constructor
        · change (-1074 : Int) ≤ exponent.toNat - 1075
          omega
        · rw [toNat_append_implicit]
          exact normal zero

/-- The exponent of a normal number is stored as it is, and is none of the two that
mark other numbers. -/
theorem toNat_biased {biased : Nat} (inRange : 0 < biased ∧ biased < 2 ^ 11 - 1) :
    (BitVec.ofNat 11 biased).toNat = biased ∧
      BitVec.ofNat 11 biased ≠ -1#11 ∧ BitVec.ofNat 11 biased ≠ 0#11 := by
  have stored : (BitVec.ofNat 11 biased).toNat = biased := by
    rw [BitVec.toNat_ofNat, Nat.mod_eq_of_lt (by omega)]
  refine ⟨stored, ?_, ?_⟩
  · intro allOnes
    rw [allOnes] at stored
    change 2 ^ 11 - 1 = biased at stored
    omega
  · intro zero
    rw [zero] at stored
    change 0 = biased at stored
    omega

/-- A mantissa of full width is stored without its highest digit. -/
theorem toNat_without_implicit {mantissa : Nat} (positive : 0 < mantissa)
    (width : mantissa.log2 = 52) :
    2 ^ 52 + (BitVec.ofNat 52 mantissa).toNat = mantissa := by
  have atLeast := Nat.log2_self_le (Nat.ne_of_gt positive)
  have atMost := Nat.lt_log2_self (n := mantissa)
  rw [width] at atLeast atMost
  rw [BitVec.toNat_ofNat]
  omega

theorem isBelow_of_normal {bound mantissa biased : Nat} {exponent : Int}
    (positive : 0 < mantissa) (width : mantissa.log2 = 52)
    (biasedIs : exponent + 1075 = biased)
    (inRange : 0 < biased ∧ biased < 2 ^ 11 - 1)
    (below : mantissa * 2 ^ exponent.toNat < bound * 2 ^ (-exponent).toNat) :
    IsBelow bound (UnpackedFloat.unpack format
      (packComponents format .positive (BitVec.ofNat 11 biased)
        (BitVec.ofNat 52 mantissa))) := by
  obtain ⟨storedExponent, finite, normal⟩ := toNat_biased inRange
  apply isBelow_of_components
  · exact finite
  · intro zero
    exact absurd zero normal
  · intro _
    rw [toNat_without_implicit positive width, storedExponent, ← biasedIs,
      Int.add_sub_cancel]
    exact below

/-- A mantissa that is narrower is stored with the least exponent. -/
theorem isBelow_of_subnormal {bound mantissa : Nat} {exponent : Int}
    (low : -1074 ≤ exponent)
    (below : mantissa * 2 ^ exponent.toNat < bound * 2 ^ (-exponent).toNat) :
    IsBelow bound (UnpackedFloat.unpack format
      (packComponents format .positive 0#11 (BitVec.ofNat 52 mantissa))) := by
  apply isBelow_of_components
  · decide
  · intro _
    calc (BitVec.ofNat 52 mantissa).toNat * 2 ^ (-1074 : Int).toNat
        ≤ mantissa * 2 ^ exponent.toNat := by
          apply Nat.mul_le_mul
          · rw [BitVec.toNat_ofNat]
            exact Nat.mod_le mantissa _
          · exact Nat.pow_le_pow_right (by omega) (by omega)
      _ < bound * 2 ^ (-exponent).toNat := below
      _ ≤ bound * 2 ^ (-(-1074 : Int)).toNat := by
          apply Nat.mul_le_mul_left
          exact Nat.pow_le_pow_right (by omega) (by omega)
  · intro nonzero
    contradiction

/-- A number that lies below a bound still does so after it was stored. -/
theorem IsBelow.stored {bound : Nat} (small : bound ≤ 2 ^ 53)
    {number : UnpackedFloat} (below : IsBelow bound number) :
    IsBelow bound
      (UnpackedFloat.unpack format (UnpackedFloat.pack format number)) := by
  cases number with
  | notANumber => trivial
  | infinity sign =>
      cases sign with
      | negative => exact isBelow_of_negative bound _ _
      | positive => exact below.elim
  | zero sign =>
      cases sign with
      | negative => exact isBelow_of_negative bound _ _
      | positive => trivial
  | finite sign mantissa exponent positive =>
      cases sign with
      | negative =>
          rw [UnpackedFloat.pack]
          simp only
          split
          · exact isBelow_of_negative bound _ _
          · split <;> exact isBelow_of_negative bound _ _
      | positive =>
          rcases below with ⟨low, below⟩
          have high := exponent_lt_of_isBelow small positive below
          have bias : format.exponentBias = 1023 := rfl
          rw [UnpackedFloat.pack]
          simp only [bias]
          generalize biasedIs :
            (exponent + (1023 : Nat) + (52 : Nat)).toNat = biased
          rw [if_neg (by omega)]
          split
          · next fullWidth =>
              have width : mantissa.log2 = 52 := by
                simp only [Format.mantissaBits] at fullWidth
                omega
              exact isBelow_of_normal positive width (by omega) (by omega) below
          · exact isBelow_of_subnormal low below

end GrowthGrammar.Binary64
