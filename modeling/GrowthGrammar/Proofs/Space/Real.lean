import Mathlib
import GrowthGrammar.Proofs.Space.Exact

/-!
# Real numbers

Over the real numbers sine and cosine are the true ones, so that shapes may be turned by
any angle without rounding.
-/

namespace GrowthGrammar

noncomputable instance : Scalar ℝ where
  decidableLT := inferInstance
  decidableLE := inferInstance
  ofInt n := n
  floor x := ⌊x⌋
  abs x := |x|
  sqrt := Real.sqrt
  sin := Real.sin
  cos := Real.cos
  isFinite _ := true
  count x := min ⌊x⌋.toNat (2 ^ 32 - 1)
  pi := Real.pi
  degree := Real.pi / 180
  sqrtHalf := Real.sqrt 0.5
  epsilon := 0

theorem ofScientific_real (mantissa decimals : Nat) :
    (OfScientific.ofScientific mantissa true decimals : ℝ) = mantissa / 10 ^ decimals := by
  rw [← Rat.cast_ofScientific]
  change ((Rat.ofScientific mantissa true decimals : ℚ) : ℝ) = _
  rw [Rat.ofScientific_true_def, Rat.mkRat_eq_div]
  push_cast
  rfl

theorem le_count_real_iff (n : Nat) (x : ℝ) :
    n ≤ Scalar.count x ↔ n = 0 ∨ n < 2 ^ 32 ∧ (n : ℝ) ≤ x := by
  change n ≤ min ⌊x⌋.toNat (2 ^ 32 - 1) ↔ _
  rw [le_min_iff, ← Int.cast_natCast (R := ℝ) n, ← Int.le_floor]
  omega

noncomputable instance : ExactScalar ℝ :=
  { (inferInstance : Scalar ℝ), (inferInstance : Field ℝ),
    (inferInstance : LinearOrder ℝ),
    (inferInstance : IsStrictOrderedRing ℝ) with
    ofInt_eq := fun _ => rfl
    ofScientific_eq := ofScientific_real
    abs_eq := fun _ => rfl
    floor_le := Int.floor_le
    lt_floor_add_one := Int.lt_floor_add_one
    exists_floor_eq := fun x => ⟨⌊x⌋, rfl⟩
    le_count_iff := le_count_real_iff
    sin_zero := Real.sin_zero
    cos_zero := Real.cos_zero }

noncomputable instance : Narrowing ℚ ℝ where
  narrow draw := draw

/-! ## Turns about the upward axis -/

/-- An angle in degrees as an angle in radians. -/
noncomputable def radians (degrees : ℝ) : ℝ :=
  degrees * (Real.pi / 180)

theorem sin_radians_eq_zero_iff (degrees : ℝ) :
    Real.sin (radians degrees) = 0 ↔ ∃ halves : ℤ, degrees = 180 * halves := by
  rw [Real.sin_eq_zero_iff]
  apply exists_congr
  intro halves
  rw [radians, mul_div_left_comm, mul_comm (halves : ℝ), mul_right_inj' Real.pi_ne_zero,
    eq_div_iff (by norm_num), mul_comm, eq_comm]

theorem cos_radians_eq_zero_iff (degrees : ℝ) :
    Real.cos (radians degrees) = 0 ↔ ∃ halves : ℤ, degrees = 90 + 180 * halves := by
  rw [Real.cos_eq_zero_iff]
  apply exists_congr
  intro halves
  rw [radians]
  have piNe := Real.pi_ne_zero
  field_simp
  constructor
  · intro equal
    linarith
  · intro equal
    linarith

/-- A turn about the upward axis by an angle in degrees. -/
theorem Rotation.ofDegrees_yaw (degrees : ℝ) :
    ofDegrees (⟨0, degrees, 0⟩ : Vec3 ℝ) =
      ⟨0, Real.sin (radians degrees / 2), 0, Real.cos (radians degrees / 2)⟩ := by
  have half : degrees * (Scalar.degree : ℝ) * (5 / 10) = radians degrees / 2 := by
    change degrees * (Real.pi / 180) * (5 / 10) = _
    rw [radians]
    ring
  have sine : ∀ x : ℝ, Scalar.sin x = Real.sin x := fun _ => rfl
  have cosine : ∀ x : ℝ, Scalar.cos x = Real.cos x := fun _ => rfl
  simp [ofDegrees, ofAngles, half, sine, cosine]

end GrowthGrammar
