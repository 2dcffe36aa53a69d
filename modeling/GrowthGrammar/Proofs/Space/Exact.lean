import Mathlib.Algebra.Order.Field.Basic
import Mathlib.Data.Rat.Floor
import Mathlib.Data.Rat.Sqrt
import Mathlib.Tactic.NormNum
import GrowthGrammar.Space.Rotation

/-!
# Numbers that are not rounded

Growth is written over any number type.  Its geometry can be followed exactly
where the number type is an ordered field whose whole numbers, decimal fractions,
floors and counts are the true ones.  Of sine and cosine only the values at zero
are fixed: they are enough for shapes that stand upright, also over the rational
numbers.
-/

namespace GrowthGrammar

/-- A number type that does not round. -/
class ExactScalar (K : Type) extends Scalar K, Field K, LinearOrder K,
    IsStrictOrderedRing K where
  ofInt_eq (n : Int) : Scalar.ofInt n = (n : K)
  /-- A decimal fraction is the quotient of a whole number and a power of ten. -/
  ofScientific_eq (mantissa decimals : Nat) :
    toScalar.toOfScientific.ofScientific mantissa true decimals =
      (mantissa : K) / 10 ^ decimals
  abs_eq (x : K) : Scalar.abs x = |x|
  floor_le (x : K) : Scalar.floor x ≤ x
  lt_floor_add_one (x : K) : x < Scalar.floor x + 1
  exists_floor_eq (x : K) : ∃ n : Int, Scalar.floor x = (n : K)
  /-- A count is the whole part of its argument, within the range of counts. -/
  le_count_iff (n : Nat) (x : K) :
    n ≤ Scalar.count x ↔ n = 0 ∨ n < 2 ^ 32 ∧ (n : K) ≤ x
  sin_zero : Scalar.sin (0 : K) = 0
  cos_zero : Scalar.cos (0 : K) = 1

attribute [simp] ExactScalar.ofInt_eq ExactScalar.ofScientific_eq
  ExactScalar.sin_zero ExactScalar.cos_zero

@[simp]
theorem Scalar.ofNat_eq_cast {K : Type} [ExactScalar K] (n : Nat) :
    (Scalar.ofNat n : K) = n := by
  simp [Scalar.ofNat]

/-- The greatest whole value not above a value is the one less than one below it. -/
theorem ExactScalar.floor_eq {K : Type} [ExactScalar K] {n : Int} {x : K}
    (low : (n : K) ≤ x) (high : x < n + 1) : Scalar.floor x = (n : K) := by
  obtain ⟨m, isFloor⟩ := exists_floor_eq x
  have below := floor_le x
  have above := lt_floor_add_one x
  rw [isFloor] at below above ⊢
  have notLess : n < m + 1 := by exact_mod_cast low.trans_lt above
  have notMore : m < n + 1 := by exact_mod_cast below.trans_lt high
  rw [show m = n by omega]

/-- Where all values are defined, the lesser of two is their minimum. -/
theorem ExactScalar.least_eq {K : Type} [ExactScalar K] (a b : K) :
    Scalar.least a b = min a b := by
  rw [Scalar.least, if_pos (le_refl b)]
  split
  · next isLess => exact (min_eq_left isLess).symm
  · next notLess => exact (min_eq_right (le_of_not_ge notLess)).symm

/-! ## Rational numbers -/

/-- Rational numbers, with the first terms of the series of sine and cosine. -/
instance : Scalar ℚ where
  decidableLT := inferInstance
  decidableLE := inferInstance
  ofInt n := n
  floor x := ⌊x⌋
  abs x := |x|
  sqrt := Rat.sqrt
  sin x := x - x ^ 3 / 6
  cos x := 1 - x ^ 2 / 2
  isFinite _ := true
  count x := min ⌊x⌋.toNat (2 ^ 32 - 1)
  pi := 355 / 113
  degree := 355 / 113 / 180
  sqrtHalf := 70 / 99
  epsilon := 0

instance : ExactScalar ℚ :=
  { (inferInstance : Scalar ℚ), (inferInstance : Field ℚ),
    (inferInstance : LinearOrder ℚ),
    (inferInstance : IsStrictOrderedRing ℚ) with
    ofInt_eq := fun _ => rfl
    ofScientific_eq := by
      intro mantissa decimals
      change Rat.ofScientific mantissa true decimals = _
      rw [Rat.ofScientific_true_def, Rat.mkRat_eq_div]
      push_cast
      rfl
    abs_eq := fun _ => rfl
    floor_le := Int.floor_le
    lt_floor_add_one := Int.lt_floor_add_one
    exists_floor_eq := fun x => ⟨⌊x⌋, rfl⟩
    le_count_iff := by
      intro n x
      change n ≤ min ⌊x⌋.toNat (2 ^ 32 - 1) ↔ _
      rw [le_min_iff, ← Int.cast_natCast (R := ℚ) n, ← Int.le_floor]
      omega
    sin_zero := by norm_num [Scalar.sin]
    cos_zero := by norm_num [Scalar.cos] }

instance : Narrowing ℚ ℚ where
  narrow draw := draw

/-! ## Rotation by nothing -/

variable {K : Type} [ExactScalar K]

@[simp]
theorem Rotation.ofDegrees_zero :
    ofDegrees (Vec3.zero : Vec3 K) = ⟨0, 0, 0, 1⟩ := by
  simp [ofDegrees, ofAngles, Vec3.zero]

end GrowthGrammar
