import Mathlib.Tactic.IntervalCases
import GrowthGrammar.Proofs.Shape.Division

/-!
# Footprints

The ground of a house is divided into strips along one horizontal axis, and every strip
into cells along the other.  The cells at the corners are the first and the last of the
first and the last strip.  There are four of them, however many cells a strip has.
-/

namespace GrowthGrammar

theorem Shape.atCorner_eq_touches {K : Type} (shape : Shape K) :
    shape.atCorner =
      ((shape.boundary.touches (Face.atEnd .x .min) ||
          shape.boundary.touches (Face.atEnd .x .max)) &&
        (shape.boundary.touches (Face.atEnd .z .min) ||
          shape.boundary.touches (Face.atEnd .z .max))) :=
  rfl

/-- The other horizontal axis. -/
def Axis.across : Axis → Axis
  | .x => .z
  | _ => .x

/-- How the ground is divided: along which axis the strips lie side by side, and how
many cells each of them has. -/
structure Footprint where
  along : Axis
  counts : List Nat
  level : along ≠ .y
  strips_few : 2 ≤ counts.length ∧ counts.length ≤ 4
  cells_few : ∀ count ∈ counts, 2 ≤ count ∧ count ≤ 4

namespace Footprint

variable {K : Type} [Scalar K] (footprint : Footprint) (ground : Shape K)

def strip (number : Nat) : Shape K :=
  ground.piece footprint.along footprint.counts.length number

/-- The cells of every strip. -/
def rows : List (List (Shape K)) :=
  List.zipWith
    (fun number count =>
      (footprint.strip ground number).pieces footprint.along.across count)
    (List.range footprint.counts.length) footprint.counts

/-- All cells, strip by strip. -/
def cells : List (Shape K) :=
  (footprint.rows ground).flatten

theorem length_cells : (footprint.cells ground).length = footprint.counts.sum := by
  have lengths : (footprint.rows ground).map List.length = footprint.counts := by
    apply List.ext_getElem
    · simp [rows]
    · intro number _ _
      simp [rows]
  rw [cells, List.length_flatten, lengths]

/-- What holds of all pieces of all strips holds of the cells. -/
theorem forall_mem_cells {holds : Shape K → Prop}
    (each : ∀ number count place,
      holds ((footprint.strip ground number).piece footprint.along.across count place)) :
    ∀ cell ∈ footprint.cells ground, holds cell := by
  intro cell isCell
  obtain ⟨row, isRow, inRow⟩ := List.mem_flatten.mp isCell
  obtain ⟨number, inRange, rfl⟩ := List.mem_iff_getElem.mp isRow
  simp only [rows, List.getElem_zipWith, Shape.pieces] at inRow
  obtain ⟨place, -, rfl⟩ := List.mem_map.mp inRow
  exact each _ _ place

/-! ## Corners -/

/-- Whether a number is the first or the last of so many. -/
def isEnd (count number : Nat) : Bool :=
  number == 0 || number + 1 == count

theorem countP_isEnd {count : Nat} (few : 2 ≤ count ∧ count ≤ 4) :
    (List.range count).countP (isEnd count) = 2 := by
  obtain ⟨several, most⟩ := few
  interval_cases count <;> rfl

section Corners

variable {ground : Shape K}

/-- A cell is at a corner if it is at an end of its strip and the strip is at an end of
the ground. -/
theorem atCorner_cell (whole : ground.boundary = .full) (number count place : Nat) :
    ((footprint.strip ground number).piece footprint.along.across count place).atCorner =
      (isEnd footprint.counts.length number && isEnd count place) := by
  have full : ∀ face, ground.boundary.touches face = true := by
    rw [whole]
    intro face
    cases face <;> rfl
  have apart : (Axis.x != Axis.z) = true ∧ (Axis.z != Axis.x) = true := ⟨rfl, rfl⟩
  rw [Shape.atCorner_eq_touches]
  simp only [strip, Shape.touches_piece, full, Bool.true_and]
  cases along : footprint.along with
  | x => simp [Axis.across, isEnd, apart]
  | y => exact absurd along footprint.level
  | z => simp [Axis.across, isEnd, apart, Bool.and_comm]

/-- Only a strip at an end of the ground has corners, at its ends. -/
theorem countP_row (whole : ground.boundary = .full) (number : Nat) {count : Nat}
    (few : 2 ≤ count ∧ count ≤ 4) :
    ((footprint.strip ground number).pieces footprint.along.across count).countP
        Shape.atCorner =
      if isEnd footprint.counts.length number = true then 2 else 0 := by
  have corners : Shape.atCorner ∘
      (footprint.strip ground number).piece footprint.along.across count =
        fun place => isEnd footprint.counts.length number && isEnd count place :=
    funext (footprint.atCorner_cell whole number count)
  rw [Shape.pieces, List.countP_map, corners]
  cases isEnd footprint.counts.length number with
  | true => simpa using countP_isEnd few
  | false => simp

theorem countP_atCorner (whole : ground.boundary = .full) :
    (footprint.cells ground).countP Shape.atCorner = 4 := by
  have rows : (footprint.rows ground).map (List.countP Shape.atCorner) =
      (List.range footprint.counts.length).map fun number =>
        if isEnd footprint.counts.length number = true then 2 else 0 := by
    apply List.ext_getElem
    · simp [Footprint.rows]
    · intro number _ inRange
      rw [List.length_map, List.length_range] at inRange
      have few := footprint.cells_few _ (List.getElem_mem inRange)
      simp [Footprint.rows, footprint.countP_row whole number few]
  rw [cells, List.countP_flatten, rows]
  obtain ⟨several, most⟩ := footprint.strips_few
  generalize footprint.counts.length = count at several most
  interval_cases count <;> rfl

end Corners

end Footprint

end GrowthGrammar
