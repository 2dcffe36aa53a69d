import GrowthGrammar.Record.Document
import GrowthGrammar.Space.Transform

/-!
# Stored vectors and transforms

Vectors are stored as the list of their components, and transforms as the list
of their components column by column.
-/

namespace GrowthGrammar

variable {K : Type} [Recorded K]

instance : Recorded (Vec2 K) where
  encode v := .list [encode v.x, encode v.y]
  decode document := do
    let [x, y] ← decode document | none
    return ⟨x, y⟩

instance : Recorded (Vec3 K) where
  encode v := .list [encode v.x, encode v.y, encode v.z]
  decode document := do
    let [x, y, z] ← decode document | none
    return ⟨x, y, z⟩

instance : Recorded (Vec4 K) where
  encode v := .list [encode v.x, encode v.y, encode v.z, encode v.w]
  decode document := do
    let [x, y, z, w] ← decode document | none
    return ⟨x, y, z, w⟩

/-- The components of a transform, column by column. -/
def Transform.toList {K : Type} (m : Transform K) : List K :=
  [m.xAxis, m.yAxis, m.zAxis, m.origin].flatMap fun column =>
    [column.x, column.y, column.z, column.w]

instance : Recorded (Transform K) where
  encode m := .list (m.toList.map encode)
  decode document := do
    let [a, b, c, d, e, f, g, h, i, j, k, l, m, n, o, p] ← decode document
      | none
    return ⟨⟨a, b, c, d⟩, ⟨e, f, g, h⟩, ⟨i, j, k, l⟩, ⟨m, n, o, p⟩⟩

end GrowthGrammar
