import GrowthGrammar.Space.Vector

/-!
# Gradient noise

A field over the plane that varies smoothly between the points of the unit
lattice.  Each lattice point carries a gradient; the value at a point is the
sum of the four surrounding gradients, each faded out over one cell.  Five
octaves of the field, clamped to the unit interval, make the terrain that
cities are laid out on.
-/

namespace GrowthGrammar.Noise

variable {K : Type} [Scalar K]

/-- The gradient of a lattice point: a unit vector that looks random from one
point to the next. -/
def gradient (lattice : Vec2 K) : Vec2 K :=
  let hash (axis : Vec2 K) : K :=
    Scalar.fraction (Scalar.sin (lattice.dot axis) * 123.45)
  let hashed : Vec2 K := ⟨hash ⟨127.1, 311.7⟩, hash ⟨269.5, 183.3⟩⟩
  (hashed * (2.0 : K) - Vec2.splat 1.0).direction

/-- The fade `1 - 6 d ^ 5 + 15 d ^ 4 - 10 d ^ 3` of the distance along one
axis. -/
def fade (distance : K) : K :=
  let d := Scalar.abs distance
  1.0 - d * d * d * (d * (d * 6.0 - 15.0) + 10.0)

/-- The share of one lattice point in the value at a point. -/
def share (gradient : Vec2 K → Vec2 K) (point lattice : Vec2 K) : K :=
  let offset := point - lattice
  offset.dot (gradient lattice) * fade offset.x * fade offset.y

/-- The shares of the four corners of the cell at `corner`, summed around the
cell. -/
def cellSum (gradient : Vec2 K → Vec2 K) (point corner : Vec2 K) : K :=
  share gradient point corner
    + share gradient point (corner + ⟨1.0, 0.0⟩)
    + share gradient point (corner + ⟨1.0, 1.0⟩)
    + share gradient point (corner + ⟨0.0, 1.0⟩)

/-- The field of a family of gradients, taken from the cell that the point
lies in. -/
def fieldOf (gradient : Vec2 K → Vec2 K) (point : Vec2 K) : K :=
  cellSum gradient point point.floor

/-- The noise field, about minus one half to one half. -/
def field (point : Vec2 K) : K :=
  fieldOf gradient point

/-- The noise field moved and clamped into the unit interval. -/
def level (point : Vec2 K) : K :=
  Scalar.clamp 0.0 1.0 (field point + 0.5)

/-- The weighted levels of `n` octaves and the sum of their weights, on top of
what is already summed: from one octave to the next the weight halves and the
frequency doubles. -/
def octaves (point : Vec2 K) : Nat → K → K → K → K → K × K
  | 0, _, _, sum, weights => (sum, weights)
  | n + 1, amplitude, frequency, sum, weights =>
      octaves point n (amplitude * 0.5) (frequency * 2.0)
        (sum + level (point * frequency) * amplitude) (weights + amplitude)

/-- Five octaves of noise from a first frequency on, in the unit interval. -/
def terrain (point : Vec2 K) (frequency : K) : K :=
  let (sum, weights) := octaves point 5 1.0 frequency 0.0 0.0
  sum / weights

/-- The terrain at a position on the ground, where one unit of noise spans a
hundred units of ground. -/
def terrainAt (position : Vec2 K) (frequency : K) : K :=
  terrain (position / (100.0 : K) + ⟨3.14, 5.01⟩) frequency

end GrowthGrammar.Noise
