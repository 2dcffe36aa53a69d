import GrowthGrammar.Scalar

/-!
# Vectors

Vectors of two, three and four components with the operations that the turtle,
the shapes and the noise field use.  Sums of products are taken from the first
component to the last.
-/

namespace GrowthGrammar

/-- A point or direction of the ground plane. -/
structure Vec2 (K : Type) where
  x : K
  y : K
deriving DecidableEq

/-- A point, direction, extent or triple of angles in space. -/
structure Vec3 (K : Type) where
  x : K
  y : K
  z : K
deriving DecidableEq

/-- A column of a transform, or a colour with its opacity last. -/
structure Vec4 (K : Type) where
  x : K
  y : K
  z : K
  w : K
deriving DecidableEq

variable {K : Type} [Scalar K]

namespace Vec2

instance : Add (Vec2 K) where
  add a b := ⟨a.x + b.x, a.y + b.y⟩

instance : Sub (Vec2 K) where
  sub a b := ⟨a.x - b.x, a.y - b.y⟩

instance : HMul (Vec2 K) K (Vec2 K) where
  hMul v k := ⟨v.x * k, v.y * k⟩

instance : HDiv (Vec2 K) K (Vec2 K) where
  hDiv v k := ⟨v.x / k, v.y / k⟩

/-- The vector with both components equal. -/
def splat (k : K) : Vec2 K :=
  ⟨k, k⟩

/-- The scalar product. -/
def dot (a b : Vec2 K) : K :=
  a.x * b.x + a.y * b.y

/-- The vector with each component rounded down. -/
def floor (v : Vec2 K) : Vec2 K :=
  ⟨Scalar.floor v.x, Scalar.floor v.y⟩

/-- The vector scaled to unit length, or zero if it has no direction. -/
def direction (v : Vec2 K) : Vec2 K :=
  let factor := 1.0 / Scalar.sqrt (v.dot v)
  if Scalar.isFinite factor ∧ 0.0 < factor then v * factor else splat 0.0

end Vec2

namespace Vec3

instance : Add (Vec3 K) where
  add a b := ⟨a.x + b.x, a.y + b.y, a.z + b.z⟩

instance : HMul (Vec3 K) K (Vec3 K) where
  hMul v k := ⟨v.x * k, v.y * k, v.z * k⟩

/-- The origin. -/
def zero : Vec3 K :=
  ⟨0.0, 0.0, 0.0⟩

/-- The upward unit vector. -/
def up : Vec3 K :=
  ⟨0.0, 1.0, 0.0⟩

/-- The scalar product. -/
def dot (a b : Vec3 K) : K :=
  a.x * b.x + a.y * b.y + a.z * b.z

/-- The vector product. -/
def cross (a b : Vec3 K) : Vec3 K :=
  ⟨a.y * b.z - b.y * a.z, a.z * b.x - b.z * a.x, a.x * b.y - b.x * a.y⟩

/-- The vector with the sign of every component dropped. -/
def abs (v : Vec3 K) : Vec3 K :=
  ⟨Scalar.abs v.x, Scalar.abs v.y, Scalar.abs v.z⟩

/-- The vector scaled to unit length, or straight up if it has no
direction. -/
def heading (v : Vec3 K) : Vec3 K :=
  let factor := 1.0 / Scalar.sqrt (v.dot v)
  if Scalar.isFinite factor ∧ 0.0 < factor then v * factor else up

/-- The point as a column of a transform. -/
def toPoint (v : Vec3 K) : Vec4 K :=
  ⟨v.x, v.y, v.z, 1.0⟩

end Vec3

namespace Vec4

instance : Add (Vec4 K) where
  add a b := ⟨a.x + b.x, a.y + b.y, a.z + b.z, a.w + b.w⟩

instance : HMul (Vec4 K) K (Vec4 K) where
  hMul v k := ⟨v.x * k, v.y * k, v.z * k, v.w * k⟩

end Vec4

end GrowthGrammar
