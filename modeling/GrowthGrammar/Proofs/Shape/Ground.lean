import Mathlib
import GrowthGrammar.Proofs.Shape.Region
import GrowthGrammar.Proofs.Space.Real

/-!
# The ground under a shape

A shape that is turned about the upward axis only lies over a rectangle of the ground, which
is turned as the shape is.  The rectangle has its sides along the axes of space, and the
extents of the shape in their order, only if the shape stands straight: if it is turned by
half turns, or by a quarter more and the rectangle is a square.
-/

namespace GrowthGrammar.Shape

/-- The points of the ground that the shape lies over. -/
def ground {K : Type} [ExactScalar K] (shape : Shape K) : Set (Vec2 K) :=
  (fun point => ⟨point.x, point.z⟩) '' shape.region

/-- The ground follows from the place, the rotation and the extents. -/
theorem ground_congr {K : Type} [ExactScalar K] {first second : Shape K}
    (position : first.position = second.position)
    (rotation : first.rotation = second.rotation)
    (extents : first.extents = second.extents) : first.ground = second.ground := by
  have points : first.pointAt = second.pointAt := by
    funext fractions
    simp only [pointAt, offset, direction, orientation, position, rotation, extents]
  rw [ground, ground, region, region, points]

/-- A shape that is turned about the upward axis only and has a horizontal extent. -/
structure StandsLevel (shape : Shape ℝ) : Prop where
  pitch_eq : shape.rotation.x = 0
  roll_eq : shape.rotation.z = 0
  width_pos : 0 < shape.extents.x
  length_pos : 0 < shape.extents.z

theorem StandsLevel.congr {first second : Shape ℝ} (level : first.StandsLevel)
    (rotation : second.rotation = first.rotation) (extents : second.extents = first.extents) :
    second.StandsLevel :=
  { pitch_eq := rotation ▸ level.pitch_eq
    roll_eq := rotation ▸ level.roll_eq
    width_pos := extents ▸ level.width_pos
    length_pos := extents ▸ level.length_pos }

/-- The sine of the turn of a shape about the upward axis. -/
noncomputable def turnSin (shape : Shape ℝ) : ℝ :=
  Real.sin (radians shape.rotation.y)

/-- The cosine of the turn of a shape about the upward axis. -/
noncomputable def turnCos (shape : Shape ℝ) : ℝ :=
  Real.cos (radians shape.rotation.y)

/-- How far a point of the ground lies from the middle of the shape along its first
axis. -/
noncomputable def aside (shape : Shape ℝ) (point : Vec2 ℝ) : ℝ :=
  shape.turnCos * (point.x - shape.position.x) - shape.turnSin * (point.y - shape.position.z)

/-- How far a point of the ground lies from the middle of the shape along its third
axis. -/
noncomputable def ahead (shape : Shape ℝ) (point : Vec2 ℝ) : ℝ :=
  shape.turnSin * (point.x - shape.position.x) + shape.turnCos * (point.y - shape.position.z)

theorem turnSin_sq_add_turnCos_sq (shape : Shape ℝ) :
    shape.turnSin ^ 2 + shape.turnCos ^ 2 = 1 :=
  Real.sin_sq_add_cos_sq _

theorem turn_of_straight {shape : Shape ℝ} (straight : shape.rotation.y = 0) :
    shape.turnSin = 0 ∧ shape.turnCos = 1 := by
  rw [turnSin, turnCos, straight, radians, zero_mul, Real.sin_zero, Real.cos_zero]
  exact ⟨rfl, rfl⟩

theorem turn_of_quarter {shape : Shape ℝ} (quarter : shape.rotation.y = 90) :
    shape.turnSin = 1 ∧ shape.turnCos = 0 := by
  have right : radians 90 = Real.pi / 2 := by
    rw [radians]
    ring
  rw [turnSin, turnCos, quarter, right, Real.sin_pi_div_two, Real.cos_pi_div_two]
  exact ⟨rfl, rfl⟩

/-- Two points at the same distances from the middle are the same. -/
theorem eq_of_aside_of_ahead {shape : Shape ℝ} {first second : Vec2 ℝ}
    (aside : shape.aside first = shape.aside second)
    (ahead : shape.ahead first = shape.ahead second) : first = second := by
  have unit := shape.turnSin_sq_add_turnCos_sq
  rw [Shape.aside, Shape.aside] at aside
  rw [Shape.ahead, Shape.ahead] at ahead
  obtain ⟨x, y⟩ := first
  obtain ⟨x', y'⟩ := second
  rw [Vec2.mk.injEq]
  constructor
  · linear_combination shape.turnCos * aside + shape.turnSin * ahead - (x - x') * unit
  · linear_combination shape.turnCos * ahead - shape.turnSin * aside - (y - y') * unit

/-- For a shape that is turned as another one, distances are counted from its middle on. -/
theorem aside_ahead_of_rotation {first second : Shape ℝ}
    (rotation : first.rotation = second.rotation) (point : Vec2 ℝ) :
    let middle : Vec2 ℝ := ⟨second.position.x, second.position.z⟩
    first.aside point = first.aside middle + second.aside point ∧
      first.ahead point = first.ahead middle + second.ahead point := by
  intro middle
  have sine : first.turnSin = second.turnSin := by rw [turnSin, turnSin, rotation]
  have cosine : first.turnCos = second.turnCos := by rw [turnCos, turnCos, rotation]
  simp only [aside, ahead, sine, cosine, middle]
  constructor <;> ring

/-- Along the axes of a shape at no angle or at a right one, a point is as far from its
middle as along the axes of space. -/
theorem aside_ahead_of_right {shape : Shape ℝ}
    (right : shape.rotation.y = 0 ∨ shape.rotation.y = 90) (point : Vec2 ℝ) {bound : ℝ}
    (near : |point.x - shape.position.x| < bound ∧ |point.y - shape.position.z| < bound) :
    |shape.aside point| < bound ∧ |shape.ahead point| < bound := by
  rw [aside, ahead]
  rcases right with straight | quarter
  · obtain ⟨sine, cosine⟩ := turn_of_straight straight
    simpa [sine, cosine] using near
  · obtain ⟨sine, cosine⟩ := turn_of_quarter quarter
    rw [abs_sub_comm point.y] at near
    simpa [sine, cosine, and_comm] using near

/-- Whether a level shape lies over a point of the ground and all around it. -/
structure Surrounds (shape : Shape ℝ) (point : Vec2 ℝ) : Prop where
  aside_lt : |shape.aside point| < shape.extents.x / 2
  ahead_lt : |shape.ahead point| < shape.extents.z / 2

/-- A fraction of an extent is counted from its lower end, a distance from its middle. -/
theorem abs_le_half_iff {extent distance : ℝ} (positive : 0 < extent) :
    |distance| ≤ extent / 2 ↔
      ∃ fraction, 0 ≤ fraction ∧ fraction ≤ 1 ∧ distance = extent * (fraction - 1 / 2) := by
  rw [abs_le]
  constructor
  · rintro ⟨low, high⟩
    refine ⟨distance / extent + 1 / 2, ?_, ?_, ?_⟩
    · rw [← sub_le_iff_le_add, zero_sub, le_div_iff₀ positive]
      linarith
    · rw [← le_sub_iff_add_le, div_le_iff₀ positive]
      linarith
    · field_simp
      ring
  · rintro ⟨fraction, nonneg, le_one, rfl⟩
    constructor
    · nlinarith
    · nlinarith

namespace StandsLevel

variable {shape : Shape ℝ} (level : shape.StandsLevel)

include level

theorem orientation_eq :
    shape.orientation = ⟨0, Real.sin (radians shape.rotation.y / 2), 0,
      Real.cos (radians shape.rotation.y / 2)⟩ := by
  have yawed : shape.rotation = ⟨0, shape.rotation.y, 0⟩ :=
    congrArg₂ (fun pitch roll => (⟨pitch, shape.rotation.y, roll⟩ : Vec3 ℝ))
      level.pitch_eq level.roll_eq
  rw [orientation, yawed, Rotation.ofDegrees_yaw]

/-- The axes of a level shape. -/
theorem direction_eq (axis : Axis) :
    shape.direction axis =
      match axis with
      | .x => ⟨shape.turnCos, 0, -shape.turnSin⟩
      | .y => ⟨0, 1, 0⟩
      | .z => ⟨shape.turnSin, 0, shape.turnCos⟩ := by
  have double : radians shape.rotation.y = 2 * (radians shape.rotation.y / 2) := by ring
  have unit := Real.sin_sq_add_cos_sq (radians shape.rotation.y / 2)
  rw [direction, level.orientation_eq, turnSin, turnCos]
  generalize radians shape.rotation.y / 2 = half at double unit
  rw [double, Real.cos_two_mul', Real.sin_two_mul]
  apply Vec3.ext_along
  intro other
  rw [Rotation.apply]
  simp only [Vec3.along_add, Vec3.along_mul]
  cases axis <;> cases other <;> simp [Vec3.along, Vec3.dot, Vec3.cross, Axis.unit] <;>
    linarith

/-- The place on the ground of a point of the shape. -/
theorem aside_ahead_pointAt (fractions : Axis → ℝ) :
    let point := shape.pointAt fractions
    shape.aside ⟨point.x, point.z⟩ = shape.extents.x * (fractions .x - 1 / 2) ∧
      shape.ahead ⟨point.x, point.z⟩ = shape.extents.z * (fractions .z - 1 / 2) := by
  intro point
  have unit := shape.turnSin_sq_add_turnCos_sq
  have pointX : point.x = shape.position.x +
      shape.turnCos * (shape.extents.x * (fractions .x - 1 / 2)) +
      shape.turnSin * (shape.extents.z * (fractions .z - 1 / 2)) := by
    change point.along .x = _
    simp only [point, pointAt, offset_eq, Vec3.along_add, Vec3.along_mul, level.direction_eq]
    simp [Vec3.along]
  have pointZ : point.z = shape.position.z -
      shape.turnSin * (shape.extents.x * (fractions .x - 1 / 2)) +
      shape.turnCos * (shape.extents.z * (fractions .z - 1 / 2)) := by
    change point.along .z = _
    simp only [point, pointAt, offset_eq, Vec3.along_add, Vec3.along_mul, level.direction_eq]
    simp [Vec3.along, ← sub_eq_add_neg]
  rw [aside, ahead, pointX, pointZ]
  constructor
  · linear_combination shape.extents.x * (fractions .x - 1 / 2) * unit
  · linear_combination shape.extents.z * (fractions .z - 1 / 2) * unit

/-- A level shape lies over the points that are no farther from its middle along its two
axes than half of its extents. -/
theorem mem_ground_iff (point : Vec2 ℝ) :
    point ∈ shape.ground ↔
      |shape.aside point| ≤ shape.extents.x / 2 ∧
        |shape.ahead point| ≤ shape.extents.z / 2 := by
  rw [abs_le_half_iff level.width_pos, abs_le_half_iff level.length_pos]
  constructor
  · rintro ⟨_, ⟨fractions, within, rfl⟩, rfl⟩
    obtain ⟨aside, ahead⟩ := level.aside_ahead_pointAt fractions
    exact ⟨⟨fractions .x, within.1 .x, within.2 .x, aside⟩,
      ⟨fractions .z, within.1 .z, within.2 .z, ahead⟩⟩
  · rintro ⟨⟨first, firstNonneg, firstLe, aside⟩, ⟨third, thirdNonneg, thirdLe, ahead⟩⟩
    let fractions : Axis → ℝ
      | .x => first
      | .y => 0
      | .z => third
    obtain ⟨asideOf, aheadOf⟩ := level.aside_ahead_pointAt fractions
    refine ⟨shape.pointAt fractions, ⟨fractions, ⟨?_, ?_⟩, rfl⟩, ?_⟩
    · rintro (_ | _ | _)
      exacts [firstNonneg, le_rfl, thirdNonneg]
    · rintro (_ | _ | _)
      exacts [firstLe, zero_le_one, thirdLe]
    · exact eq_of_aside_of_ahead (asideOf.trans aside.symm) (aheadOf.trans ahead.symm)

theorem mem_ground_of_surrounds {point : Vec2 ℝ} (surrounds : shape.Surrounds point) :
    point ∈ shape.ground :=
  (level.mem_ground_iff point).mpr ⟨surrounds.aside_lt.le, surrounds.ahead_lt.le⟩

end StandsLevel

/-! ## Exchanged extents -/

theorem abs_add_abs_le {first second bound : ℝ} (sum : |first + second| ≤ bound)
    (difference : |first - second| ≤ bound) : |first| + |second| ≤ bound := by
  rw [abs_le] at sum difference
  rcases abs_cases first with ⟨isFirst, -⟩ | ⟨isFirst, -⟩ <;>
    rcases abs_cases second with ⟨isSecond, -⟩ | ⟨isSecond, -⟩ <;>
    linarith

/-- A rectangle into which a copy of it fits after a turn was turned by half turns, or is
a square. -/
theorem straight_of_turned_le {width length sine cosine : ℝ} (widthPos : 0 < width)
    (lengthPos : 0 < length) (unit : sine ^ 2 + cosine ^ 2 = 1)
    (fitsAside : |cosine| * width + |sine| * length ≤ width)
    (fitsAhead : |sine| * width + |cosine| * length ≤ length) :
    sine = 0 ∨ cosine = 0 ∧ width = length := by
  rw [← sq_abs sine, ← sq_abs cosine] at unit
  rw [← abs_eq_zero, ← abs_eq_zero (a := cosine)]
  have sineNonneg := abs_nonneg sine
  have cosineNonneg := abs_nonneg cosine
  generalize |sine| = s at *
  generalize |cosine| = c at *
  have cosineLe : c ≤ 1 := by
    by_contra more
    nlinarith [mul_nonneg sineNonneg lengthPos.le]
  -- The two inequalities, multiplied, have the area of the rectangle on both sides.
  have areas : s ^ 2 * (width * length) ≤ (1 - c) ^ 2 * (width * length) := by
    have product : s * length * (s * width) ≤ (1 - c) * width * ((1 - c) * length) :=
      mul_le_mul (by linarith) (by linarith) (mul_nonneg sineNonneg widthPos.le)
        (mul_nonneg (by linarith) widthPos.le)
    linarith
  have sineLe : s ^ 2 ≤ (1 - c) ^ 2 := le_of_mul_le_mul_right areas (mul_pos widthPos lengthPos)
  have ends : c * (1 - c) = 0 :=
    le_antisymm (by linarith) (mul_nonneg cosineNonneg (by linarith))
  rcases mul_eq_zero.mp ends with none | one
  · have whole : s = 1 := by
      rw [none] at unit
      nlinarith
    rw [none, whole] at fitsAside fitsAhead
    exact Or.inr ⟨none, le_antisymm (by linarith) (by linarith)⟩
  · left
    have cosineOne : c = 1 := by linarith
    rw [cosineOne] at unit
    exact pow_eq_zero_iff two_ne_zero |>.mp (by linarith)

/-- What a shape would lie over if it were not turned. -/
def unturnedGround (shape : Shape ℝ) : Set (Vec2 ℝ) :=
  { point |
    (shape.bounds.lower .x ≤ point.x ∧ point.x ≤ shape.bounds.upper .x) ∧
      (shape.bounds.lower .z ≤ point.y ∧ point.y ≤ shape.bounds.upper .z) }

theorem mem_unturnedGround_iff (shape : Shape ℝ) (point : Vec2 ℝ) :
    point ∈ shape.unturnedGround ↔
      |point.x - shape.position.x| ≤ shape.extents.x / 2 ∧
        |point.y - shape.position.z| ≤ shape.extents.z / 2 := by
  rw [abs_sub_comm, Set.mem_Icc_iff_abs_le, abs_sub_comm, Set.mem_Icc_iff_abs_le]
  exact Iff.rfl

namespace StandsLevel

/-- A shape at a right angle, with the horizontal extents of another one at the same place
exchanged, lies over what that one would lie over if it were not turned. -/
theorem ground_eq_of_exchanged {storey roof : Shape ℝ} (level : roof.StandsLevel)
    (position : roof.position = storey.position) (quarter : roof.rotation.y = 90)
    (width : roof.extents.x = storey.extents.z)
    (length : roof.extents.z = storey.extents.x) : roof.ground = storey.unturnedGround := by
  obtain ⟨sine, cosine⟩ := turn_of_quarter quarter
  ext point
  rw [level.mem_ground_iff, aside, ahead, sine, cosine, position, width, length, zero_mul,
    zero_sub, one_mul, abs_neg, one_mul, zero_mul, add_zero, and_comm,
    mem_unturnedGround_iff]

variable {shape : Shape ℝ} (level : shape.StandsLevel)

include level

/-- A shape that lies over all that it would lie over if it were not turned stands straight,
since it lies over the corners. -/
theorem straight_of_subset (under : shape.unturnedGround ⊆ shape.ground) :
    shape.turnSin = 0 ∨ shape.turnCos = 0 ∧ shape.extents.x = shape.extents.z := by
  have widthHalf := half_pos level.width_pos
  have lengthHalf := half_pos level.length_pos
  have corner : ∀ away, |away| ≤ shape.extents.z / 2 →
      |shape.turnCos * (shape.extents.x / 2) - shape.turnSin * away| ≤
          shape.extents.x / 2 ∧
        |shape.turnSin * (shape.extents.x / 2) + shape.turnCos * away| ≤
          shape.extents.z / 2 := by
    intro away near
    have isCorner : (⟨shape.position.x + shape.extents.x / 2,
        shape.position.z + away⟩ : Vec2 ℝ) ∈ shape.unturnedGround := by
      rw [mem_unturnedGround_iff, add_sub_cancel_left, add_sub_cancel_left,
        abs_of_pos widthHalf]
      exact ⟨le_rfl, near⟩
    have isUnder := under isCorner
    rwa [level.mem_ground_iff, aside, ahead, add_sub_cancel_left,
      add_sub_cancel_left] at isUnder
  obtain ⟨asideFar, aheadFar⟩ := corner (shape.extents.z / 2) (abs_of_pos lengthHalf).le
  obtain ⟨asideNear, aheadNear⟩ :=
    corner (-(shape.extents.z / 2)) (by rw [abs_neg, abs_of_pos lengthHalf])
  rw [mul_neg, sub_neg_eq_add] at asideNear
  rw [mul_neg, ← sub_eq_add_neg] at aheadNear
  have fitsAside := abs_add_abs_le asideNear asideFar
  have fitsAhead := abs_add_abs_le aheadFar aheadNear
  rw [abs_mul, abs_mul, abs_of_pos widthHalf, abs_of_pos lengthHalf] at fitsAside fitsAhead
  exact straight_of_turned_le level.width_pos level.length_pos
    shape.turnSin_sq_add_turnCos_sq (by linarith) (by linarith)

theorem ground_eq_of_straight
    (straight : shape.turnSin = 0 ∨
      shape.turnCos = 0 ∧ shape.extents.x = shape.extents.z) :
    shape.ground = shape.unturnedGround := by
  have unit := shape.turnSin_sq_add_turnCos_sq
  ext point
  rw [level.mem_ground_iff, mem_unturnedGround_iff, aside, ahead]
  rcases straight with half | ⟨quarter, square⟩
  · have whole : |shape.turnCos| = 1 := by
      rw [half, zero_pow two_ne_zero, zero_add, ← sq_abs] at unit
      exact (pow_eq_one_iff_of_nonneg (abs_nonneg _) two_ne_zero).mp unit
    rw [half, zero_mul, sub_zero, zero_mul, zero_add, abs_mul, abs_mul, whole, one_mul,
      one_mul]
  · have whole : |shape.turnSin| = 1 := by
      rw [quarter, zero_pow two_ne_zero, add_zero, ← sq_abs] at unit
      exact (pow_eq_one_iff_of_nonneg (abs_nonneg _) two_ne_zero).mp unit
    rw [quarter, zero_mul, zero_sub, zero_mul, add_zero, abs_neg, abs_mul, abs_mul, whole,
      one_mul, one_mul, square, and_comm]

/-- Only a shape that stands straight lies over what it would lie over if it were not
turned. -/
theorem unturnedGround_eq_iff :
    shape.unturnedGround = shape.ground ↔
      (∃ halves : ℤ, shape.rotation.y = 180 * halves) ∨
        (∃ halves : ℤ, shape.rotation.y = 90 + 180 * halves) ∧
          shape.extents.x = shape.extents.z := by
  rw [← sin_radians_eq_zero_iff, ← cos_radians_eq_zero_iff]
  exact ⟨fun same => level.straight_of_subset same.subset,
    fun straight => (level.ground_eq_of_straight straight).symm⟩

end StandsLevel

end GrowthGrammar.Shape
