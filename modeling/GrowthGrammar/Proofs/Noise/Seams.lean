import Mathlib
import GrowthGrammar.Noise
import GrowthGrammar.Proofs.Space.Exact

/-!
# Noise without seams

The noise at a point is summed over the corners of the cell that the point lies in.  On an
edge or a corner of the lattice more than one cell could be taken.  Where numbers are not
rounded it does not matter which: a corner has no share in what lies a whole cell away from
it along an axis, and cells that meet in a point differ only in such corners.
-/

namespace GrowthGrammar

variable {K : Type} [ExactScalar K]

/-- Whether a point is a point of the lattice. -/
def Vec2.IsLattice (point : Vec2 K) : Prop :=
  ∃ m n : Int, point = ⟨m, n⟩

namespace Noise

/-- Whether a point lies in the cell at a corner or on the edge of it. -/
structure InCell (corner point : Vec2 K) : Prop where
  left : corner.x ≤ point.x
  right : point.x ≤ corner.x + 1
  lower : corner.y ≤ point.y
  upper : point.y ≤ corner.y + 1

/-! ## Shares -/

section Shares

variable (gradient : Vec2 K → Vec2 K) {point lattice : Vec2 K}

/-- The fade comes to an end at a distance of one. -/
theorem fade_eq_zero {distance : K} (far : |distance| = 1) : fade distance = 0 := by
  rw [fade, ExactScalar.abs_eq, far]
  norm_num

/-- A corner has no share in what lies a cell to the side of it. -/
theorem share_eq_zero_of_aside (far : |point.x - lattice.x| = 1) :
    share gradient point lattice = 0 := by
  have faded : fade (point - lattice).x = 0 := fade_eq_zero far
  rw [share, faded, mul_zero, zero_mul]

/-- A corner has no share in what lies a cell above or below it. -/
theorem share_eq_zero_of_above (far : |point.y - lattice.y| = 1) :
    share gradient point lattice = 0 := by
  have faded : fade (point - lattice).y = 0 := fade_eq_zero far
  rw [share, faded, mul_zero]

/-- A corner has no share in its own place. -/
theorem share_self : share gradient point point = 0 := by
  have still : (point - point).dot (gradient point) = 0 := by
    change (point.x - point.x) * _ + (point.y - point.y) * _ = 0
    rw [sub_self, sub_self, zero_mul, zero_mul, add_zero]
  rw [share, still, zero_mul, zero_mul]

end Shares

/-! ## Neighbouring cells -/

section Cells

variable (gradient : Vec2 K → Vec2 K) {point : Vec2 K}

/-- The sum over a cell, with the coordinates of its corners. -/
theorem cellSum_eq (a b : K) :
    cellSum gradient point ⟨a, b⟩ =
      share gradient point ⟨a, b⟩ + share gradient point ⟨a + 1, b⟩ +
        share gradient point ⟨a + 1, b + 1⟩ + share gradient point ⟨a, b + 1⟩ := by
  have one : (1.0 : K) = 1 := by norm_num
  have none : (0.0 : K) = 0 := by norm_num
  have right : (⟨a, b⟩ + ⟨1.0, 0.0⟩ : Vec2 K) = ⟨a + 1, b⟩ := by
    change (⟨a + 1.0, b + 0.0⟩ : Vec2 K) = _
    rw [one, none, add_zero]
  have across : (⟨a, b⟩ + ⟨1.0, 1.0⟩ : Vec2 K) = ⟨a + 1, b + 1⟩ := by
    change (⟨a + 1.0, b + 1.0⟩ : Vec2 K) = _
    rw [one]
  have up : (⟨a, b⟩ + ⟨0.0, 1.0⟩ : Vec2 K) = ⟨a, b + 1⟩ := by
    change (⟨a + 0.0, b + 1.0⟩ : Vec2 K) = _
    rw [one, none, add_zero]
  rw [cellSum, right, across, up]

/-- Two cells side by side agree on the edge between them. -/
theorem cellSum_right {a : K} (onEdge : point.x = a + 1) (b : K) :
    cellSum gradient point ⟨a + 1, b⟩ = cellSum gradient point ⟨a, b⟩ := by
  have leftGone : ∀ y, share gradient point ⟨a, y⟩ = 0 := fun y =>
    share_eq_zero_of_aside gradient (by simp [onEdge])
  have rightGone : ∀ y, share gradient point ⟨a + 1 + 1, y⟩ = 0 := fun y =>
    share_eq_zero_of_aside gradient (by simp [onEdge])
  rw [cellSum_eq, cellSum_eq, leftGone, leftGone, rightGone, rightGone]
  ring

/-- Two cells one above the other agree on the edge between them. -/
theorem cellSum_above (a : K) {b : K} (onEdge : point.y = b + 1) :
    cellSum gradient point ⟨a, b + 1⟩ = cellSum gradient point ⟨a, b⟩ := by
  have lowerGone : ∀ x, share gradient point ⟨x, b⟩ = 0 := fun x =>
    share_eq_zero_of_above gradient (by simp [onEdge])
  have upperGone : ∀ x, share gradient point ⟨x, b + 1 + 1⟩ = 0 := fun x =>
    share_eq_zero_of_above gradient (by simp [onEdge])
  rw [cellSum_eq, cellSum_eq, lowerGone, lowerGone, upperGone, upperGone]
  ring

/-- A coordinate in a closed interval of the lattice is rounded down to its lower end, or
it is the upper end. -/
theorem floor_eq_or_at_end {n : Int} {x : K} (low : (n : K) ≤ x) (high : x ≤ n + 1) :
    Scalar.floor x = (n : K) ∨ Scalar.floor x = (n : K) + 1 ∧ x = n + 1 := by
  rcases high.lt_or_eq with inside | atEnd
  · exact Or.inl (ExactScalar.floor_eq low inside)
  · right
    have next : ((n + 1 : Int) : K) = n + 1 := by push_cast; rfl
    have isFloor : Scalar.floor x = ((n + 1 : Int) : K) :=
      ExactScalar.floor_eq (next ▸ atEnd.ge) (by rw [next, atEnd]; exact lt_add_one _)
    exact ⟨isFloor.trans next, atEnd⟩

/-- The noise at a point is the sum over any cell that the point lies in or on the edge
of. -/
theorem cellSum_eq_fieldOf {corner : Vec2 K} (isCorner : corner.IsLattice)
    (inCell : InCell corner point) :
    cellSum gradient point corner = fieldOf gradient point := by
  obtain ⟨m, n, rfl⟩ := isCorner
  have floor : point.floor = ⟨Scalar.floor point.x, Scalar.floor point.y⟩ := rfl
  rw [fieldOf, floor]
  rcases floor_eq_or_at_end inCell.left inCell.right with across | ⟨across, onRight⟩ <;>
    rcases floor_eq_or_at_end inCell.lower inCell.upper with along | ⟨along, onTop⟩ <;>
    rw [across, along]
  · rw [cellSum_above gradient _ onTop]
  · rw [cellSum_right gradient onRight]
  · rw [cellSum_right gradient onRight, cellSum_above gradient _ onTop]

/-- The noise vanishes in the lattice, where three of the corners are too far away. -/
theorem fieldOf_eq_zero (isLattice : point.IsLattice) : fieldOf gradient point = 0 := by
  obtain ⟨m, n, rfl⟩ := isLattice
  have inCell : InCell (⟨m, n⟩ : Vec2 K) ⟨m, n⟩ :=
    { left := le_rfl
      right := (lt_add_one _).le
      lower := le_rfl
      upper := (lt_add_one _).le }
  rw [← cellSum_eq_fieldOf gradient ⟨m, n, rfl⟩ inCell, cellSum_eq, share_self,
    share_eq_zero_of_aside gradient (by simp), share_eq_zero_of_aside gradient (by simp),
    share_eq_zero_of_above gradient (by simp)]
  simp

end Cells

/-- Whatever the gradients of the lattice are, the noise at a point is the sum over any
cell that the point lies in or on the edge of.  So cells agree wherever they meet; and the
noise vanishes in the lattice. -/
theorem cells_meet_without_seams (gradient : Vec2 K → Vec2 K) (point : Vec2 K) :
    (∀ corner : Vec2 K, corner.IsLattice → InCell corner point →
      cellSum gradient point corner = fieldOf gradient point) ∧
    (∀ first second : Vec2 K, first.IsLattice → second.IsLattice →
      InCell first point → InCell second point →
        cellSum gradient point first = cellSum gradient point second) ∧
    (point.IsLattice → fieldOf gradient point = 0) := by
  have sums : ∀ corner : Vec2 K, corner.IsLattice → InCell corner point →
      cellSum gradient point corner = fieldOf gradient point :=
    fun _ => cellSum_eq_fieldOf gradient
  refine ⟨sums, ?_, fieldOf_eq_zero gradient⟩
  intro first second isFirst isSecond inFirst inSecond
  exact (sums first isFirst inFirst).trans (sums second isSecond inSecond).symm

/-- Two cells agree in the middle of the edge between them, where the noise is that of the
upper end. -/
theorem noise_on_edge_between_cells :
    let gradient : Vec2 ℚ → Vec2 ℚ := fun lattice => ⟨1, lattice.y⟩
    let point : Vec2 ℚ := ⟨2, 1 / 2⟩
    let left : Vec2 ℚ := ⟨1, 0⟩
    let right : Vec2 ℚ := ⟨2, 0⟩
    left.IsLattice ∧ right.IsLattice ∧ InCell left point ∧ InCell right point ∧
      cellSum gradient point right = -1 / 4 ∧ cellSum gradient point left = -1 / 4 ∧
      fieldOf gradient point = -1 / 4 ∧ fieldOf gradient ⟨2, 1⟩ = 0 := by
  intro gradient point left right
  have isLeft : left.IsLattice := ⟨1, 0, by norm_num [left]⟩
  have isRight : right.IsLattice := ⟨2, 0, by norm_num [right]⟩
  have inLeft : InCell left point := by constructor <;> norm_num [left, point]
  have inRight : InCell right point := by constructor <;> norm_num [right, point]
  obtain ⟨sums, agree, -⟩ := cells_meet_without_seams gradient point
  have isEnd : (⟨2, 1⟩ : Vec2 ℚ).IsLattice := ⟨2, 1, by norm_num⟩
  have value : cellSum gradient point right = -1 / 4 := by decide +kernel
  refine ⟨isLeft, isRight, inLeft, inRight, value, ?_, ?_, ?_⟩
  · rw [agree left right isLeft isRight inLeft inRight, value]
  · rw [← sums right isRight inRight, value]
  · exact (cells_meet_without_seams gradient ⟨2, 1⟩).2.2 isEnd

end Noise

end GrowthGrammar
