import GrowthGrammar.Random.Drawn
import GrowthGrammar.Shape.Basic

/-!
# Division

A shape is divided along one axis into a random number of equal pieces, which
stand side by side from the lower end of the axis to its upper end.  The shape
itself becomes the first piece: it shrinks, moves to the lower end and lets go of
both faces of the axis.  The other pieces are copies of it.  At last the two ends
of the row get back the faces that the shape touched.

The counters of pieces, of the depth and of divisions have no upper end.
-/

namespace GrowthGrammar

/-- The numbers of pieces that a division may have. -/
structure PieceRange where
  /-- The least number of pieces. -/
  least : Nat
  /-- How many numbers there are to choose from. -/
  spread : Nat
  /-- Whether an even number is raised to the next odd one. -/
  onlyOdd : Bool
  /-- Whether a division along the upward axis has one piece more. -/
  extraUpwards : Bool
deriving DecidableEq

namespace PieceRange

/-- Two to four pieces, and one more along the upward axis. -/
def standard : PieceRange :=
  { least := 2
    spread := 3
    onlyOdd := false
    extraUpwards := true }

/-- The number of pieces before any is added. -/
def base {D : Type} [Scalar D] (range : PieceRange) (draw : D) : Nat :=
  range.least + Scalar.count (draw * Scalar.ofNat range.spread)

/-- The number of pieces for a random value. -/
def pieces {D : Type} [Scalar D] (range : PieceRange) (axis : Axis)
    (draw : D) : Nat :=
  let base := range.base draw
  let raised :=
    if range.extraUpwards ∧ axis = .y then base + 1 else base
  if range.onlyOdd ∧ raised % 2 = 0 then raised + 1 else raised

/-- The number of pieces for a random value, which must not be zero. -/
def count {D : Type} [Scalar D] (range : PieceRange) (axis : Axis)
    (draw : D) : Except GrowthError Nat :=
  let pieces := range.pieces axis draw
  if pieces < 1 then .error (.noPieces pieces) else .ok pieces

end PieceRange

namespace Shape

variable {K : Type} [Scalar K]

/-- The rotation of the shape. -/
def orientation (shape : Shape K) : Rotation K :=
  Rotation.ofDegrees shape.rotation

/-- The first of `count` pieces along an axis, without the faces of that
axis. -/
def firstPiece (shape : Shape K) (axis : Axis) (count : Nat) : Shape K :=
  let extent := shape.extents.along axis
  let direction := shape.orientation.apply axis.unit
  let shift :=
    extent * 0.5 * (1.0 / Scalar.ofNat count) - extent * 0.5
  { shape with
    position := shape.position + direction * shift
    extents := shape.extents.modifyAlong axis (· / Scalar.ofNat count)
    depth := shape.depth + 1
    boundary := shape.boundary.release axis
    divisions := shape.divisions.modifyAlong axis (· + 1) }

/-- The shape moved by a step. -/
def moveBy (shape : Shape K) (step : Vec3 K) : Shape K :=
  { shape with position := shape.position + step }

/-- Says whether the shape touches a face. -/
def setFace (shape : Shape K) (face : Face) (touched : Bool) : Shape K :=
  { shape with boundary := shape.boundary.set face touched }

/-- Divides the shape along an axis into `count` pieces, in the order in which they
stand. -/
def split (shape : Shape K) (axis : Axis) (count : Nat) : List (Shape K) :=
  let lower := Face.atEnd axis .min
  let upper := Face.atEnd axis .max
  let direction := shape.orientation.apply axis.unit
  let first := shape.firstPiece axis count
  let copies := (List.range' 1 (count - 1)).map fun number =>
    first.copy.moveBy
      (direction * (Scalar.ofNat number * first.extents.along axis))
  let row := (first :: copies).modify 0
    (·.setFace lower (shape.boundary.touches lower))
  row.modify (row.length - 1)
    (·.setFace upper (shape.boundary.touches upper))

/-- Divides the shape along an axis into a random number of pieces. -/
def divide {D : Type} [Scalar D] (shape : Shape K) (axis : Axis)
    (range : PieceRange) : Drawn D (List (Shape K)) := do
  let draw ← Drawn.value
  let count ← Drawn.ofExcept (range.count axis draw)
  return shape.split axis count

end Shape

end GrowthGrammar
