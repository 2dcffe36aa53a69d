import GrowthGrammar.Space.Transform

/-!
# The turtle

The turtle is the cursor that a sentence is drawn with: a position, a heading,
the radius of the branch it stands on, and its distance from the root in branch
points.  Its heading is kept as it is turned and scaled to unit length where it
is used.
-/

namespace GrowthGrammar

/-- The drawing cursor. -/
structure Turtle where
  position : Vec3 Float32
  orientation : Vec3 Float32
  /-- The radius of the branch at the turtle. -/
  radius : Float32
  /-- The number of branch points between the turtle and the root. -/
  depth : Nat
deriving DecidableEq

namespace Turtle

/-- The turtle at the root: at the origin, facing up, with radius one. -/
def root : Turtle :=
  { position := Vec3.zero
    orientation := Vec3.up
    radius := 1.0
    depth := 0 }

/-- The unit heading; a turtle without a heading faces up. -/
def forward (turtle : Turtle) : Vec3 Float32 :=
  turtle.orientation.heading

/-- Moves along the heading. -/
def advance (distance : Float32) (turtle : Turtle) : Turtle :=
  { turtle with position := turtle.position + turtle.forward * distance }

/-- Turns the heading by a rotation of the world. -/
def turn (rotation : Rotation Float32) (turtle : Turtle) : Turtle :=
  { turtle with orientation := rotation.apply turtle.orientation }

/-- Turns the heading about the first axis of the world. -/
def turnX (angle : Float32) : Turtle → Turtle :=
  turn (Rotation.aboutX angle)

/-- Turns the heading about the upward axis of the world. -/
def turnY (angle : Float32) : Turtle → Turtle :=
  turn (Rotation.aboutY angle)

/-- Turns the heading about the third axis of the world. -/
def turnZ (angle : Float32) : Turtle → Turtle :=
  turn (Rotation.aboutZ angle)

/-- Bends the heading towards `bias` and scales it to unit length. -/
def bendTowards (bias : Vec3 Float32) (turtle : Turtle) : Turtle :=
  { turtle with orientation := (turtle.orientation + bias).heading }

/-- Sets the heading to the direction of a vector. -/
def face (direction : Vec3 Float32) (turtle : Turtle) : Turtle :=
  { turtle with orientation := direction.heading }

/-- Sets the radius. -/
def withRadius (radius : Float32) (turtle : Turtle) : Turtle :=
  { turtle with radius := radius }

/-- The rotation that takes the upward direction to the heading. -/
def rotation (turtle : Turtle) : Rotation Float32 :=
  Rotation.fromUp turtle.forward

/-- The frame at the turtle whose upward axis is the heading. -/
def frame (turtle : Turtle) : Transform Float32 :=
  Transform.frame turtle.rotation turtle.position

end Turtle

end GrowthGrammar
