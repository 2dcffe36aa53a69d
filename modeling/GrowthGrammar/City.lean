import GrowthGrammar.Massing
import GrowthGrammar.Noise

/-!
# Cities

A city is laid out on a square grid.  The terrain at the centre of each cell
decides how densely the cell is built and how high its building is; the building
is a house, a block or a tower that has not grown yet.
-/

namespace GrowthGrammar

/-- The plan of a city. -/
structure CityPlan where
  /-- The number of cells along one side. -/
  grid : Nat
  /-- Half the side of the ground. -/
  halfSide : Float32
  /-- The frequency of the terrain. -/
  frequency : Float32
  /-- The side of a building. -/
  footprint : Float32
  /-- The height added to a house at full terrain. -/
  houseRise : Float32
  /-- The height added to a block at full terrain. -/
  blockRise : Float32
  /-- The height added to a tower at full terrain. -/
  towerRise : Float32
  /-- The greatest number of rounds of growth. -/
  rounds : Nat
  budget : Budget
deriving DecidableEq

/-- The plan used where nothing else is said. -/
def CityPlan.standard : CityPlan :=
  { grid := 15
    halfSide := 50.0
    frequency := 1.0
    footprint := 4.0
    houseRise := 12.0
    blockRise := 20.0
    towerRise := 100.0
    rounds := 16
    budget := none }

/-- How densely a cell is built. -/
inductive Density where
  | low
  | medium
  | high
deriving DecidableEq

/-- The density of a terrain: each third of the unit interval has its own. -/
def Density.ofTerrain (terrain : Float32) : Density :=
  if terrain < 0.333 then .low
  else if terrain < 0.667 then .medium
  else .high

namespace CityPlan

/-- The centre of a cell on the ground. -/
def center (plan : CityPlan) (i j : Nat) : Vec2 Float32 :=
  let cell : Vec2 Float32 := ⟨Scalar.ofNat i + 0.5, Scalar.ofNat j + 0.5⟩
  let offset := cell / (Scalar.ofNat plan.grid : Float32)
  let side := plan.halfSide * 2.0
  Vec2.splat (-plan.halfSide) + ⟨side * offset.x, side * offset.y⟩

/-- The terrain at a point of the ground. -/
def terrain (plan : CityPlan) (point : Vec2 Float32) : Float32 :=
  Noise.terrainAt point plan.frequency

/-- A random turn about the upward axis: `spread` degrees, the middle of them
straight ahead. -/
def randomYaw (spread middle : Float32) :
    StateM (DrawStream Float) Float32 := do
  let draw ← DrawStream.next
  return Narrowing.narrow draw * spread - middle

/-- The building of a terrain, and the turn of its frame. -/
def building (plan : CityPlan) (terrain : Float32) :
    StateM (DrawStream Float) (Shape Float32 × Float32) := do
  let size (height : Float32) : Vec3 Float32 :=
    ⟨plan.footprint, 1.0 + terrain * height, plan.footprint⟩
  match Density.ofTerrain terrain with
  | .low =>
      let house ← Shape.house Vec3.zero Vec3.zero (size plan.houseRise)
      let yaw ← randomYaw 90.0 45.0
      return (house.withTint ⟨0.4, 0.4, 1.0 - terrain, 1.0⟩, yaw)
  | .medium =>
      let block := Shape.block Vec3.zero Vec3.zero (size plan.blockRise)
      let yaw ← randomYaw 20.0 10.0
      return (block.withTint ⟨0.4, terrain + 0.23, 0.4, 1.0⟩, yaw)
  | .high =>
      let tower ← Shape.tower Vec3.zero Vec3.zero (size plan.towerRise)
      return (tower.withTint ⟨terrain, 0.4, 0.4, 1.0⟩, 0.0)

/-- The building of a cell, standing on the ground at its centre. -/
def buildCell (plan : CityPlan) (i j : Nat) :
    StateM (DrawStream Float) (Shape Float32) := do
  let center := plan.center i j
  let (building, yaw) ← plan.building (plan.terrain center)
  let lift := building.extents.y * 0.5
  return building.inFrame ⟨0.0, yaw, 0.0⟩ ⟨center.x, lift, center.y⟩

/-- The cells of the grid, row by row. -/
def cells (plan : CityPlan) : List (Nat × Nat) :=
  (List.range plan.grid).flatMap fun i =>
    (List.range plan.grid).map fun j => (i, j)

/-- The buildings of all cells, row by row. -/
def layout (plan : CityPlan) :
    StateM (DrawStream Float) (List (Shape Float32)) :=
  plan.cells.mapM fun cell => plan.buildCell cell.1 cell.2

/-- The city in which no building has grown yet. -/
def found (plan : CityPlan) (stream : DrawStream Float) :
    Site Float Float32 :=
  let (buildings, stream) := plan.layout.run stream
  { massing := Massing.ofShapes buildings plan.budget
    stream := stream }

/-- Grows every building until it is settled, or until the rounds of the plan are
over. -/
def grow (plan : CityPlan) : Growth Float Float32 Nat :=
  Growth.untilSettled plan.rounds

/-- The requests that place the ground and then all buildings. -/
def calls (plan : CityPlan) (massing : Massing Float32) :
    List (Call Float32) :=
  .plane (Vec2.splat plan.halfSide) :: massing.calls

end CityPlan

end GrowthGrammar
