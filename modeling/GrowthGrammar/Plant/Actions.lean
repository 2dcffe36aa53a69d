import GrowthGrammar.Turtle.Program

/-!
# The pieces of a monkey-puzzle tree

The actions from which the tree is drawn: segments of the trunk, turns of the
leader, the aiming of branches, long branches with fruit, and tips.  Every piece
is one unit high before it is stretched, so the turtle advances by the drawn
length where pieces are meant to touch.
-/

namespace GrowthGrammar.MonkeyPuzzle

open Act

/-- The mesh slot of the fruit. -/
def fruitMesh : Nat := 0

/-- The turn of one bend of the trunk. -/
def bendAngle : Float32 := Scalar.pi * 0.1333333

/-- The turn of one twist of the upright trunk. -/
def twistAngle : Float32 := Scalar.pi * 0.2

/-- The turn of one piece of the leader. -/
def leaderAngle : Float32 := Scalar.pi * 0.1

/-- Bends the heading upwards. -/
def lift (amount : Float32) : Action :=
  steer (Turtle.bendTowards ⟨0.0, amount, 0.0⟩)

/-- Moves the turtle along its heading. -/
def advance (distance : Float32) : Action :=
  steer (Turtle.advance distance)

/-- Points the turtle at a compass angle and a height. -/
def aim (angle height : Float32) : Action :=
  steer (Turtle.face ⟨Scalar.cos angle, height, Scalar.sin angle⟩)

/-- Hangs a fruit at the turtle and goes back to wood. -/
def placeFruit : Action := do
  let palette := (← read).palette
  color palette.fruit
  hang fruitMesh
  color palette.wood

/-- A narrowing segment of the trunk, of length two. -/
def segment (distance : Float32) : Action := do
  taperedSegment 2.0
  advance distance

/-- One bend of the trunk. -/
def bend : Action :=
  steer (Turtle.turnZ bendAngle)

/-- A segment of the upright trunk, twisted about it. -/
def twist (angle : Float32) : Action := do
  steer (Turtle.turnY angle)
  taperedSegment 1.0
  advance 0.8

/-- A piece of the leader, lifted and then turned. -/
def leader (turn : Turtle → Turtle) : Action := do
  lift 0.2
  steer turn
  taperedSegment 1.0
  advance 1.0

/-- Three segments that turn upright. -/
def straighten : Action :=
  times 3 do
    taperedSegment 1.0
    advance 1.0
    lift 0.8

/-- A full turn's worth of angle for a random value. -/
def compassAngle (value : Float32) : Float32 :=
  value * 2.0 * Scalar.pi

/-- Aims in a random direction, close to level. -/
def aimLevel : Action := do
  let angle := compassAngle (← randomCoordinate)
  let height := -(← randomCoordinate) * 0.3 + 0.05
  aim angle height

/-- Aims in a random direction, up or down. -/
def aimAnywhere : Action := do
  let angle := compassAngle (← randomCoordinate)
  let height := (← randomCoordinate) * 1.8 - 0.9
  aim angle height

/-- One piece of a long branch, now and then with a fruit at its end. -/
def branchPiece (length : Float32) : Action := do
  straightSegment length
  advance length
  lift 0.2
  if (← random) < 0.15 then
    placeFruit

/-- A long branch of five pieces, thinner than what it grows from. -/
def longBranch : Action := do
  steer fun turtle => turtle.withRadius (turtle.radius * 0.8)
  let length := 1.4 + (← randomCoordinate) * 0.2
  times 5 (branchPiece length)

/-- A green tip. -/
def tip : Action := do
  let palette := (← read).palette
  color palette.leaf
  tipCone
  color palette.wood
  advance 0.4

end GrowthGrammar.MonkeyPuzzle
