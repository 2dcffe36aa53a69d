import GrowthGrammar.Shape.Basic
import GrowthGrammar.Shape.Division

/-!
# Shapes as solids

A shape that is not taken out is placed in the scene as one prism of its colour.
The prism of its kind is fitted to its extents, turned and moved to its place,
and then turned and moved with its frame.
-/

namespace GrowthGrammar.Shape

variable {K : Type} [Scalar K]

/-- The transform of the prism that stands for the shape. -/
def placement (shape : Shape K) : Transform K :=
  let frame :=
    Transform.frame (Rotation.ofDegrees shape.frameRotation)
      shape.framePosition
  let place :=
    Transform.stretchedFrame shape.extents shape.orientation shape.position
  frame * place * shape.kind.unitPlacement

/-- The prism that stands for the shape. -/
def prism (shape : Shape K) : Prism K :=
  { sides := shape.sides
    base := 1.0
    top := shape.top
    height := 1.0
    facade := shape.facade }

/-- The requests that place the shape: none if it is taken out. -/
def calls (shape : Shape K) : List (Call K) :=
  if shape.isRemoved then
    []
  else
    [.color shape.color, .prism shape.placement shape.prism true]

/-- The area of a regular polygon with a circumradius of the square root of one
half.  There is none with less than three sides. -/
def polygonArea (sides : Nat) : Option K :=
  if sides < 3 then
    none
  else
    let n : K := Scalar.ofNat sides
    let radius : K := Scalar.sqrtHalf
    some (n * (radius * radius) * Scalar.sin (2.0 * Scalar.pi / n) / 2.0)

/-- The share of the square that a cross section fills.  Triangles stand for
roofs, and have sides of length one. -/
def crossSection (sides : Nat) : Option K :=
  if sides = 3 then some 0.4330127 else polygonArea sides

/-- The volume that the prism of the shape fills, about; none if its cross
section is no polygon. -/
def volume (shape : Shape K) : Option K :=
  if shape.isRemoved then
    some 0.0
  else
    let extents := shape.extents.abs
    let box :=
      8.0 * (extents.x / 2.0) * (extents.y / 2.0) * (extents.z / 2.0)
    let t := shape.top
    (crossSection shape.sides).map fun share =>
      box * share * (1.0 + t + t * t) / 3.0

end GrowthGrammar.Shape
