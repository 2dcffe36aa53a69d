import GrowthGrammar.Space.Vector

/-!
# Rotations

A rotation is a quaternion with its real part last.  Rotations are built about
one axis, from three angles taken in turn, or as the shortest arc from the
upward direction; they act on vectors and give the axes of a rotated frame.
-/

namespace GrowthGrammar

/-- A rotation of space as a quaternion. -/
structure Rotation (K : Type) where
  x : K
  y : K
  z : K
  w : K
deriving DecidableEq

namespace Rotation

variable {K : Type} [Scalar K]

/-- The rotation that moves nothing. -/
def identity : Rotation K :=
  ⟨0.0, 0.0, 0.0, 1.0⟩

/-- Rotation about the first axis. -/
def aboutX (angle : K) : Rotation K :=
  ⟨Scalar.sin (angle * 0.5), 0.0, 0.0, Scalar.cos (angle * 0.5)⟩

/-- Rotation about the upward axis. -/
def aboutY (angle : K) : Rotation K :=
  ⟨0.0, Scalar.sin (angle * 0.5), 0.0, Scalar.cos (angle * 0.5)⟩

/-- Rotation about the third axis. -/
def aboutZ (angle : K) : Rotation K :=
  ⟨0.0, 0.0, Scalar.sin (angle * 0.5), Scalar.cos (angle * 0.5)⟩

/-- Rotation about the third axis, then the second, then the first, by three
angles given in the order of the axes. -/
def ofAngles (angles : Vec3 K) : Rotation K :=
  let si := Scalar.sin (angles.x * 0.5)
  let ci := Scalar.cos (angles.x * 0.5)
  let sj := Scalar.sin (-angles.y * 0.5)
  let cj := Scalar.cos (-angles.y * 0.5)
  let sh := Scalar.sin (angles.z * 0.5)
  let ch := Scalar.cos (angles.z * 0.5)
  let cc := ci * ch
  let cs := ci * sh
  let sc := si * ch
  let ss := si * sh
  { x := cj * sc - sj * cs
    y := -(cj * ss + sj * cc)
    z := cj * cs - sj * sc
    w := cj * cc + sj * ss }

/-- The rotation by three angles in degrees. -/
def ofDegrees (angles : Vec3 K) : Rotation K :=
  ofAngles
    ⟨angles.x * Scalar.degree, angles.y * Scalar.degree,
      angles.z * Scalar.degree⟩

/-- The shortest rotation that takes the upward direction to the unit vector
`direction`; straight down is reached by half a turn about the third axis. -/
def fromUp (direction : Vec3 K) : Rotation K :=
  let d := Vec3.up.dot direction
  let nearOne : K := 1.0 - 2.0 * Scalar.epsilon
  if nearOne < d then
    identity
  else if d < -nearOne then
    let half : K := Scalar.pi * 0.5
    let s := Scalar.sin half
    { x := 0.0 * s
      y := 0.0 * s
      z := -1.0 * s
      w := Scalar.cos half }
  else
    let c := Vec3.up.cross direction
    let w := 1.0 + d
    let norm := Scalar.sqrt (c.x * c.x + c.z * c.z + (c.y * c.y + w * w))
    { x := c.x / norm
      y := c.y / norm
      z := c.z / norm
      w := w / norm }

/-- The rotated vector. -/
def apply (q : Rotation K) (v : Vec3 K) : Vec3 K :=
  let b : Vec3 K := ⟨q.x, q.y, q.z⟩
  v * (q.w * q.w - b.dot b) + b * (v.dot b * 2.0) + b.cross v * (q.w * 2.0)

/-- The images of the three unit axes, as columns of a transform. -/
def axes (q : Rotation K) : Vec4 K × Vec4 K × Vec4 K :=
  let x2 := q.x + q.x
  let y2 := q.y + q.y
  let z2 := q.z + q.z
  let xx := q.x * x2
  let xy := q.x * y2
  let xz := q.x * z2
  let yy := q.y * y2
  let yz := q.y * z2
  let zz := q.z * z2
  let wx := q.w * x2
  let wy := q.w * y2
  let wz := q.w * z2
  (⟨1.0 - (yy + zz), xy + wz, xz - wy, 0.0⟩,
    ⟨xy - wz, 1.0 - (xx + zz), yz + wx, 0.0⟩,
    ⟨xz + wy, yz - wx, 1.0 - (xx + yy), 0.0⟩)

end Rotation

end GrowthGrammar
