import GrowthGrammar.Error
import GrowthGrammar.Space.Vector

/-!
# Axes, faces and boundaries

A shape is divided along one of three axes.  The two ends of an axis are faces
of the volume that a building started from; the boundary of a piece says which
of these faces it still touches.
-/

namespace GrowthGrammar

/-- An axis of a shape. -/
inductive Axis where
  | x
  | y
  | z
deriving DecidableEq, Repr

/-- An end of an axis. -/
inductive Side where
  | min
  | max
deriving DecidableEq, Repr

/-- A face of the volume that a building started from. -/
inductive Face where
  | left
  | right
  | bottom
  | top
  | back
  | front
deriving DecidableEq, Repr

namespace Axis

/-- The axes in order. -/
def all : List Axis :=
  [x, y, z]

/-- The place of an axis in the order. -/
def index : Axis → Nat
  | x => 0
  | y => 1
  | z => 2

/-- The axis at a place. -/
def ofIndex (index : Nat) : Except GrowthError Axis :=
  match all[index]? with
  | some axis => .ok axis
  | none => .error (.noSuchAxis index)

/-- Each axis is found at its place. -/
@[simp]
theorem ofIndex_index (axis : Axis) : ofIndex axis.index = .ok axis := by
  cases axis <;> rfl

/-- The unit vector along an axis. -/
def unit {K : Type} [Scalar K] : Axis → Vec3 K
  | x => ⟨1.0, 0.0, 0.0⟩
  | y => ⟨0.0, 1.0, 0.0⟩
  | z => ⟨0.0, 0.0, 1.0⟩

end Axis

namespace Vec3

variable {α : Type}

/-- The component along an axis. -/
def along (v : Vec3 α) : Axis → α
  | .x => v.x
  | .y => v.y
  | .z => v.z

/-- Changes the component along an axis. -/
def modifyAlong (v : Vec3 α) (axis : Axis) (change : α → α) : Vec3 α :=
  match axis with
  | .x => { v with x := change v.x }
  | .y => { v with y := change v.y }
  | .z => { v with z := change v.z }

theorem along_modifyAlong (v : Vec3 α) (changed axis : Axis)
    (change : α → α) :
    (v.modifyAlong changed change).along axis =
      if axis = changed then change (v.along axis) else v.along axis := by
  cases changed <;> cases axis <;> rfl

end Vec3

namespace Face

/-- The faces in order: the two ends of each axis in turn. -/
def all : List Face :=
  [left, right, bottom, top, back, front]

/-- The face at one end of an axis. -/
def atEnd : Axis → Side → Face
  | .x, .min => left
  | .x, .max => right
  | .y, .min => bottom
  | .y, .max => top
  | .z, .min => back
  | .z, .max => front

end Face

/-- The faces that a piece still touches. -/
structure Boundary where
  left : Bool
  right : Bool
  bottom : Bool
  top : Bool
  back : Bool
  front : Bool
deriving DecidableEq

namespace Boundary

/-- The boundary that touches every face. -/
def full : Boundary :=
  ⟨true, true, true, true, true, true⟩

/-- The boundary that touches no face. -/
def none : Boundary :=
  ⟨false, false, false, false, false, false⟩

/-- Whether a face is touched. -/
def touches (boundary : Boundary) : Face → Bool
  | .left => boundary.left
  | .right => boundary.right
  | .bottom => boundary.bottom
  | .top => boundary.top
  | .back => boundary.back
  | .front => boundary.front

/-- Says whether a face is touched. -/
def set (boundary : Boundary) (face : Face) (touched : Bool) : Boundary :=
  match face with
  | .left => { boundary with left := touched }
  | .right => { boundary with right := touched }
  | .bottom => { boundary with bottom := touched }
  | .top => { boundary with top := touched }
  | .back => { boundary with back := touched }
  | .front => { boundary with front := touched }

/-- Lets go of both faces of an axis. -/
def release (boundary : Boundary) (axis : Axis) : Boundary :=
  (boundary.set (Face.atEnd axis .min) false).set (Face.atEnd axis .max) false

/-- Setting a face changes that face and no other. -/
theorem touches_set (boundary : Boundary) (changed face : Face)
    (touched : Bool) :
    (boundary.set changed touched).touches face =
      if face = changed then touched else boundary.touches face := by
  cases changed <;> cases face <;> rfl

/-- Setting a face to what it is changes nothing. -/
@[simp]
theorem set_touches (boundary : Boundary) (face : Face) :
    boundary.set face (boundary.touches face) = boundary := by
  cases face <;> rfl

/-- Whether a face of each horizontal axis is touched. -/
def atCorner (boundary : Boundary) : Bool :=
  (boundary.left || boundary.right) && (boundary.back || boundary.front)

end Boundary

end GrowthGrammar
