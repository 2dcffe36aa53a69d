import GrowthGrammar.Scene
import GrowthGrammar.Shape.Boundary
import GrowthGrammar.Shape.Kind

/-!
# Shapes

A shape is an oriented box that grows by being divided and changed.  Besides its
place it carries what its policy needs to know: its depth in the growth, whether
it is finished, the fate decided for it, and the faces of the first volume that
it still touches.
-/

namespace GrowthGrammar

/-- Whether a shape may still change. -/
inductive Status where
  | active
  /-- Finished and placed. -/
  | finished
  /-- Taken out: kept in the sequence, but placed nowhere. -/
  | removed
deriving DecidableEq

/-- What is decided for a shape at one depth and done at a later one. -/
inductive Fate where
  | keep
  /-- It becomes a column. -/
  | column
  | removed
deriving DecidableEq

/-- An oriented volume. -/
structure Shape (K : Type) where
  name : String
  kind : Kind
  /-- The centre. -/
  position : Vec3 K
  /-- The angles about the three axes, in degrees. -/
  rotation : Vec3 K
  /-- The full extents along the three axes of the shape. -/
  extents : Vec3 K
  depth : Nat
  status : Status
  fate : Fate
  boundary : Boundary
  /-- How often the shape was divided along each axis. -/
  divisions : Vec3 Nat
  /-- The colour given by a layout, which is not drawn. -/
  tint : Vec4 K
  /-- The colour that is drawn. -/
  color : Vec4 K
  sides : Nat
  /-- The ratio of top to base. -/
  top : K
  /-- The angles of the frame that the shape stands in, in degrees. -/
  frameRotation : Vec3 K
  /-- The place of the frame that the shape stands in. -/
  framePosition : Vec3 K
  facade : Facade
deriving DecidableEq

namespace Shape

variable {K : Type}

/-- A fresh grey shape that touches every face of its own volume. -/
def ofKind [Scalar K] (kind : Kind) (position rotation extents : Vec3 K) :
    Shape K :=
  { name := kind.name
    kind := kind
    position := position
    rotation := rotation
    extents := extents
    depth := 0
    status := .active
    fate := .keep
    boundary := Boundary.full
    divisions := ⟨0, 0, 0⟩
    tint := ⟨1.0, 1.0, 1.0, 1.0⟩
    color := ⟨0.8, 0.8, 0.8, 1.0⟩
    sides := kind.sides
    top := kind.top
    frameRotation := Vec3.zero
    framePosition := Vec3.zero
    facade := .plain }

/-- A fresh block. -/
def block [Scalar K] (position rotation extents : Vec3 K) : Shape K :=
  ofKind .block position rotation extents

/-- Puts the shape into a frame. -/
def inFrame (shape : Shape K) (rotation position : Vec3 K) : Shape K :=
  { shape with
    frameRotation := rotation
    framePosition := position }

/-- Gives the shape a tint. -/
def withTint (shape : Shape K) (tint : Vec4 K) : Shape K :=
  { shape with tint := tint }

/-- Whether the shape is finished or taken out. -/
def isSettled (shape : Shape K) : Bool :=
  shape.status != .active

/-- Whether the shape is taken out. -/
def isRemoved (shape : Shape K) : Bool :=
  shape.status == .removed

/-- Whether the shape touches a face of each horizontal axis. -/
def atCorner (shape : Shape K) : Bool :=
  shape.boundary.atCorner

/-- Whether a round of growth visits the shape.  Blocks in the middle of a
building rest. -/
def expands (shape : Shape K) : Bool :=
  !shape.isSettled &&
    match shape.kind with
    | .block => shape.boundary.bottom || shape.boundary.top
    | .spike => false
    | .column => false
    | _ => true

/-- A copy, marked as one in its name. -/
def copy (shape : Shape K) : Shape K :=
  { shape with name := shape.name.push '*' }

/-- The shape taken out. -/
def remove (shape : Shape K) : Shape K :=
  { shape with status := .removed }

/-- The shape finished. -/
def finish (shape : Shape K) : Shape K :=
  { shape with status := .finished }

/-- The shape one step deeper. -/
def deepen (shape : Shape K) : Shape K :=
  { shape with depth := shape.depth + 1 }

/-- A fresh shape of another kind in the same place, with the same colours,
depth and boundary. -/
def withKind [Scalar K] (shape : Shape K) (kind : Kind) : Shape K :=
  { shape with
    name := kind.name
    kind := kind
    status := .active
    fate := .keep
    divisions := ⟨0, 0, 0⟩
    sides := kind.sides
    top := kind.top
    facade := .plain }

/-- The shape with its horizontal extents changed by two factors. -/
def scaleAcross [Scalar K] (shape : Shape K) (x z : K) : Shape K :=
  { shape with
    extents :=
      { shape.extents with
        x := shape.extents.x * x
        z := shape.extents.z * z } }

/-- The finished thin column that stands in the place of the shape. -/
def toColumn [Scalar K] (shape : Shape K) : Shape K :=
  ((shape.withKind .column).scaleAcross 0.3 0.2).finish

/-- The shape after its fate is carried out. -/
def meetFate [Scalar K] (shape : Shape K) : Shape K :=
  match shape.fate with
  | .keep => shape.finish
  | .column => shape.toColumn
  | .removed => shape.remove

end Shape

end GrowthGrammar
