import GrowthGrammar.Shape.Policy.Palette
import GrowthGrammar.Shape.Division

/-!
# How towers grow

A tower is divided into floors that shrink with their height.  Then its top may
turn into a spike, and, if the tower was given bands, its floors are divided once
more and every other band is set back.
-/

namespace GrowthGrammar

/-- One step of growth: what a shape becomes, for a random value that the round
has drawn for it. -/
abbrev GrowthStep (D K : Type) :=
  Shape K → D → Drawn D (List (Shape K))

namespace Tower

variable {D K : Type} [Scalar D] [Scalar K]

/-- Six to nine floors. -/
def floorRange : PieceRange :=
  { least := 6
    spread := 4
    onlyOdd := false
    extraUpwards := false }

/-- Three, five, seven or nine bands. -/
def bandRange : PieceRange :=
  { least := 3
    spread := 7
    onlyOdd := true
    extraUpwards := false }

/-- Sets each floor back a little more than the one below it. -/
def taperFloors (sides : Nat) : K → List (Shape K) → List (Shape K)
  | _, [] => []
  | inset, floor :: floors =>
      { floor.scaleAcross inset inset with sides := sides }
        :: taperFloors sides (inset * 0.9) floors

/-- Sets back every other band, beginning with the second. -/
def insetBands : List (Shape K) → List (Shape K)
  | outer :: inner :: bands =>
      outer :: inner.scaleAcross 0.93 0.93 :: insetBands bands
  | bands => bands

/-- The spike that stands in the place of a floor. -/
def spike (floor : Shape K) : Shape K :=
  let fresh := (floor.withKind .spike).scaleAcross 0.2 0.2
  { fresh with
    extents := { fresh.extents with y := fresh.extents.y * 2.0 }
    status := .finished }

/-- Whether the floors of a shape are to be divided into bands. -/
def hasBands (shape : Shape K) : Bool :=
  match shape.kind with
  | .tower form => form.banded
  | _ => false

/-- Chooses the form of the tower and divides it into floors. -/
def divideFloors : GrowthStep D K := fun shape draw => do
  let banding ← Drawn.value
  let form : TowerForm :=
    { round := draw < 0.5
      banded := banding < 0.7 }
  let floors ←
    { shape with kind := .tower form }.divide .y floorRange
  if form.round then
    return taperFloors 8 0.71 floors
  else
    return taperFloors 4 1.0 floors

/-- Divides a floor into bands, or lets it be. -/
def divideBands (shape : Shape K) : Drawn D (List (Shape K)) := do
  if hasBands shape then
    let bands ← shape.divide .y bandRange
    return insetBands bands
  else
    return [shape.deepen]

/-- Turns the top floor into a spike, or gives the floor its bands.  A top floor
that stays takes one random value more. -/
def growFloor : GrowthStep D K := fun shape draw => do
  if shape.boundary.top then
    if draw < 0.6 then
      return [spike shape]
    else
      let _ ← Drawn.value
      divideBands shape
  else
    divideBands shape

/-- The step of a tower at a depth. -/
def step : Nat → Option (GrowthStep D K)
  | 0 => some divideFloors
  | 1 => some growFloor
  | _ => none

end Tower

end GrowthGrammar
