import GrowthGrammar.Space.Rotation

/-!
# Transforms

An affine transform of space as a matrix of four columns: the images of the
three axes and the image of the origin.
-/

namespace GrowthGrammar

/-- A four by four matrix, column by column. -/
structure Transform (K : Type) where
  xAxis : Vec4 K
  yAxis : Vec4 K
  zAxis : Vec4 K
  origin : Vec4 K
deriving DecidableEq

namespace Transform

variable {K : Type} [Scalar K]

/-- The image of a column of coefficients. -/
def combine (m : Transform K) (c : Vec4 K) : Vec4 K :=
  m.xAxis * c.x + m.yAxis * c.y + m.zAxis * c.z + m.origin * c.w

/-- Composition: the right factor is applied first. -/
instance : Mul (Transform K) where
  mul a b :=
    { xAxis := a.combine b.xAxis
      yAxis := a.combine b.yAxis
      zAxis := a.combine b.zAxis
      origin := a.combine b.origin }

/-- The scaling of the three axes by three factors. -/
def scaling (factors : Vec3 K) : Transform K :=
  { xAxis := ⟨factors.x, 0.0, 0.0, 0.0⟩
    yAxis := ⟨0.0, factors.y, 0.0, 0.0⟩
    zAxis := ⟨0.0, 0.0, factors.z, 0.0⟩
    origin := ⟨0.0, 0.0, 0.0, 1.0⟩ }

/-- The displacement that takes the origin to a point. -/
def displacement (point : Vec3 K) : Transform K :=
  { xAxis := ⟨1.0, 0.0, 0.0, 0.0⟩
    yAxis := ⟨0.0, 1.0, 0.0, 0.0⟩
    zAxis := ⟨0.0, 0.0, 1.0, 0.0⟩
    origin := point.toPoint }

/-- Rotation about the first axis. -/
def rotationX (angle : K) : Transform K :=
  let s := Scalar.sin angle
  let c := Scalar.cos angle
  { xAxis := ⟨1.0, 0.0, 0.0, 0.0⟩
    yAxis := ⟨0.0, c, s, 0.0⟩
    zAxis := ⟨0.0, -s, c, 0.0⟩
    origin := ⟨0.0, 0.0, 0.0, 1.0⟩ }

/-- Rotation about the upward axis. -/
def rotationY (angle : K) : Transform K :=
  let s := Scalar.sin angle
  let c := Scalar.cos angle
  { xAxis := ⟨c, 0.0, -s, 0.0⟩
    yAxis := ⟨0.0, 1.0, 0.0, 0.0⟩
    zAxis := ⟨s, 0.0, c, 0.0⟩
    origin := ⟨0.0, 0.0, 0.0, 1.0⟩ }

/-- A rotated frame standing at a point. -/
def frame (rotation : Rotation K) (point : Vec3 K) : Transform K :=
  { xAxis := rotation.axes.1
    yAxis := rotation.axes.2.1
    zAxis := rotation.axes.2.2
    origin := point.toPoint }

/-- A rotated frame standing at a point, each axis stretched by its factor. -/
def stretchedFrame (factors : Vec3 K) (rotation : Rotation K)
    (point : Vec3 K) : Transform K :=
  { xAxis := rotation.axes.1 * factors.x
    yAxis := rotation.axes.2.1 * factors.y
    zAxis := rotation.axes.2.2 * factors.z
    origin := point.toPoint }

end Transform

end GrowthGrammar
