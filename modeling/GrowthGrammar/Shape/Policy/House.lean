import GrowthGrammar.Shape.Policy.Tower

/-!
# How houses grow

A house is divided into strips and the strips into cells; corner cells may be
taken out, and the others are stacked with storeys under a roof.  The storeys are
given windows at last, and a roof may be given a chimney.
-/

namespace GrowthGrammar.House

variable {D K : Type} [Scalar D] [Scalar K]

/-- Divides the ground into strips along one of the horizontal axes. -/
def divideGround : GrowthStep D K := fun shape draw =>
  shape.divide (if draw < 0.5 then .x else .z) PieceRange.standard

/-- Divides a strip into cells along the other horizontal axis. -/
def divideStrip : GrowthStep D K := fun shape _ =>
  shape.divide (if 0 < shape.divisions.x then .z else .x)
    PieceRange.standard

/-- Takes out a cell at a corner, or lets it be. -/
def trimCorner : GrowthStep D K := fun shape draw => do
  if draw < 0.4 ∧ shape.atCorner then
    return [shape.remove]
  else
    return [shape.deepen]

/-- The roof that stands in the place of a storey.  A turned roof covers the same
ground: its horizontal extents are exchanged. -/
def roofOver (turned : Bool) (storey : Shape K) : Shape K :=
  let fresh := storey.withKind .roof
  let placed :=
    if turned then
      { fresh with
        rotation := { fresh.rotation with y := 90.0 }
        extents :=
          { fresh.extents with
            x := fresh.extents.z
            z := fresh.extents.x } }
    else
      fresh
  { placed with
    boundary := { placed.boundary with top := true }
    depth := 4 }

/-- Whether a random value lies below a chance; where the question does not
arise no value is taken. -/
def chance (arises : Bool) (bound : D) : Drawn D Bool := do
  if arises then
    let draw ← Drawn.value
    return draw < bound
  else
    return false

/-- Divides a cell into storeys and puts a roof on it.  The roof takes the place
of the highest storey, or of the one below it, which is then taken out.  The
ground floor may be left to columns, and the storey under the roof may be left
open. -/
def stackStoreys : GrowthStep D K := fun shape draw => do
  let floors ← shape.divide .y PieceRange.standard
  let last := floors.length - 1
  let lowered : Bool := draw < 0.4 ∧ 0 < last
  let roofAt := if lowered then last - 1 else last
  let turning ← Drawn.value
  let turned : Bool := 0.5 < turning
  let raised ← chance (0 < roofAt) 0.15
  let opened ← chance (1 < roofAt) 0.1
  let topped := if lowered then floors.modify last Shape.remove else floors
  let roofed := topped.modify roofAt (roofOver turned)
  let standing :=
    if raised then roofed.modify 0 ({ · with fate := .column }) else roofed
  if opened then
    return standing.modify (roofAt - 1) ({ · with fate := .removed })
  else
    return standing

/-- Carries out the fate of a storey, or gives it windows.  Windows are more
likely on the ground. -/
def finishStorey : GrowthStep D K := fun shape draw => do
  if shape.fate ≠ .keep then
    return [shape.deepen.meetFate]
  else
    let window ← Drawn.value
    let bias : D := if shape.boundary.bottom then 0.2 else 0.0
    if window - bias < 0.3333 then
      return [{ shape.deepen with facade := .windows (decide (0.5 ≤ draw)) }]
    else
      return [shape.deepen]

/-- The step of a house at a depth. -/
def step : Nat → Option (GrowthStep D K)
  | 0 => some divideGround
  | 1 => some divideStrip
  | 2 => some trimCorner
  | 3 => some stackStoreys
  | 4 => some finishStorey
  | _ => none

/-! ## Roofs -/

variable [Narrowing D K]

/-- A random offset to either side, of three quarters to one and a half times the
width of a chimney. -/
def chimneyShift : Drawn D K := do
  let far ← Drawn.value
  let sided ← Drawn.value
  let magnitude : K := 0.75 + 0.75 * Narrowing.narrow (far : D)
  return magnitude * if 0.5 < (sided : D) then 1.0 else -1.0

/-- A chimney of its own colour on a roof, off its middle. -/
def chimneyOn (roof : Shape K) : Drawn D (Shape K) := do
  let paint : D ← Drawn.value
  let width := Scalar.least roof.extents.x roof.extents.z * 0.2
  let aside ← chimneyShift
  let along ← chimneyShift
  let fresh := roof.withKind .house
  return {
    fresh with
    color := Shape.houseColor paint
    extents := { fresh.extents with x := width, z := width }
    position :=
      { fresh.position with
        x := fresh.position.x + width * aside
        z := fresh.position.z + width * along }
    status := .finished
    depth := 5 }

/-- Finishes a roof, with or without a chimney. -/
def finishRoof : GrowthStep D K := fun shape draw => do
  let roof := shape.finish
  if 0.3 ≤ draw then
    return [roof]
  else
    let chimney ← chimneyOn roof
    return [roof, chimney]

/-- The step of a roof at a depth. -/
def roofStep : Nat → Option (GrowthStep D K)
  | 4 => some finishRoof
  | _ => none

end GrowthGrammar.House
