import GrowthGrammar.Proofs.Shape.Division
import GrowthGrammar.Proofs.Space.Box

/-!
# The places of shapes

Where numbers are not rounded, the pieces of a shape stand exactly side by side.
For a shape that stands upright they are the slices of its box, and a piece
touches a face across the divided axis only at the end where the shape did.  A
column stands in the cell of the block that it was made of.
-/

namespace GrowthGrammar

namespace Vec3

variable {K : Type} [Scalar K]

theorem along_add (a b : Vec3 K) (axis : Axis) :
    (a + b).along axis = a.along axis + b.along axis := by
  cases axis <;> rfl

theorem along_mul (v : Vec3 K) (k : K) (axis : Axis) :
    (v * k).along axis = v.along axis * k := by
  cases axis <;> rfl

end Vec3

variable {K : Type} [ExactScalar K]

theorem Axis.along_unit (axis other : Axis) :
    (axis.unit : Vec3 K).along other = if other = axis then 1 else 0 := by
  cases axis <;> cases other <;> simp [unit, Vec3.along]

namespace Shape

section Pieces

variable (shape : Shape K) (axis : Axis) (count number : Nat)

theorem extents_piece (other : Axis) :
    (shape.piece axis count number).extents.along other =
      if other = axis then shape.extents.along other / count
      else shape.extents.along other := by
  have piece : (shape.piece axis count number).extents =
      shape.extents.modifyAlong axis (· / (count : K)) := by
    simp only [piece, firstPiece, Scalar.ofNat_eq_cast]
    split <;> rfl
  rw [piece, Vec3.along_modifyAlong]

/-- The pieces stand side by side: their centres lie in the direction of the axis,
at odd multiples of half the extent of a piece from the lower end. -/
theorem position_piece (other : Axis) :
    (shape.piece axis count number).position.along other =
      shape.position.along other +
        (shape.orientation.apply axis.unit).along other *
          (shape.extents.along axis *
            ((2 * number + 1) / (2 * count) - 1 / 2)) := by
  have first : (shape.firstPiece axis count).position.along other =
      shape.position.along other +
        (shape.orientation.apply axis.unit).along other *
          (shape.extents.along axis * (1 / (2 * count) - 1 / 2)) := by
    simp only [firstPiece, Vec3.along_add, Vec3.along_mul,
      Scalar.ofNat_eq_cast, ExactScalar.ofScientific_eq]
    push_cast
    ring
  have step : (shape.firstPiece axis count).extents.along axis =
      shape.extents.along axis / count := by
    simp [firstPiece, Vec3.along_modifyAlong]
  rw [piece]
  split
  · next isFirst =>
      subst isFirst
      simp only [first, Nat.cast_zero]
      ring
  · simp only [Vec3.along_add, Vec3.along_mul, Scalar.ofNat_eq_cast, first, step]
    ring

end Pieces

/-- The box of a shape that stands upright. -/
def bounds (shape : Shape K) : Box K :=
  Box.around shape.position shape.extents

@[simp]
theorem size_bounds (shape : Shape K) (axis : Axis) :
    shape.bounds.size axis = shape.extents.along axis :=
  Box.size_around _ _ axis

theorem apply_orientation_of_upright {shape : Shape K}
    (upright : shape.rotation = Vec3.zero) (v : Vec3 K) (axis : Axis) :
    (shape.orientation.apply v).along axis = v.along axis := by
  rw [orientation, upright, Rotation.ofDegrees_zero, Rotation.apply]
  simp only [Vec3.along_add, Vec3.along_mul]
  cases axis <;> simp [Vec3.dot, Vec3.cross, Vec3.along]

/-- The pieces of an upright shape are the slices of its box. -/
theorem bounds_piece {shape : Shape K} (upright : shape.rotation = Vec3.zero)
    (axis : Axis) {count : Nat} (positive : 0 < count) (number : Nat) :
    (shape.piece axis count number).bounds =
      shape.bounds.slice axis count number := by
  have countNe : (count : K) ≠ 0 := by exact_mod_cast positive.ne'
  have ends : ∀ other,
      (shape.piece axis count number).bounds.lower other =
          (shape.bounds.slice axis count number).lower other ∧
        (shape.piece axis count number).bounds.upper other =
          (shape.bounds.slice axis count number).upper other := by
    intro other
    by_cases across : other = axis
    · subst across
      rw [Box.lower_slice, Box.upper_slice, size_bounds]
      simp only [bounds, Box.around, position_piece, extents_piece,
        apply_orientation_of_upright upright, Axis.along_unit, if_true]
      constructor
      · field_simp
        ring
      · field_simp
        ring
    · rw [(Box.slice_of_ne _ count number across).1,
        (Box.slice_of_ne _ count number across).2]
      simp [bounds, Box.around, position_piece, extents_piece,
        apply_orientation_of_upright upright, Axis.along_unit, across]
  ext other
  · exact (ends other).1
  · exact (ends other).2

/-! ## Cells -/

/-- The extents of the box that a shape fills, or, if it is a column, of the box
that was narrowed to it. -/
def plot {K : Type} [Scalar K] (shape : Shape K) : Vec3 K :=
  match shape.kind with
  | .column =>
      { shape.extents with
        x := shape.extents.x / 0.3
        z := shape.extents.z / 0.2 }
  | _ => shape.extents

/-- The place that an upright shape takes up among the others. -/
def cell (shape : Shape K) : Box K :=
  Box.around shape.position shape.plot

theorem cell_of_isBlock {shape : Shape K} (isBlock : shape.kind = .block) :
    shape.cell = shape.bounds := by
  rw [cell, plot, isBlock, bounds]

/-- The narrowing to a column is undone by the plot. -/
theorem cell_toColumn (shape : Shape K) : shape.toColumn.cell = shape.bounds := by
  have plot : shape.toColumn.plot = shape.extents := by
    simp [plot, toColumn, finish, scaleAcross, withKind]
  have position : shape.toColumn.position = shape.position :=
    rfl
  rw [cell, plot, position, bounds]

end Shape

end GrowthGrammar
