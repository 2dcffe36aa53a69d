import GrowthGrammar.Random.Stream
import GrowthGrammar.Scene

/-!
# Settings of a drawing

The settings of one run: how many passes the axiom goes through, which random
values are used, the colours, the limits, and the shape of a branch.
-/

namespace GrowthGrammar

/-- The colours of a drawn plant. -/
structure Palette where
  /-- Trunk and branches. -/
  wood : Vec4 Float32
  /-- Tips of branches. -/
  leaf : Vec4 Float32
  /-- Meshes hung on branches. -/
  fruit : Vec4 Float32
deriving DecidableEq

/-- Brown wood, green leaves, yellow fruit. -/
def Palette.standard : Palette :=
  { wood := ⟨0.36, 0.25, 0.18, 1.0⟩
    leaf := ⟨0.22, 0.45, 0.20, 1.0⟩
    fruit := ⟨0.85, 0.80, 0.25, 1.0⟩ }

/-- The settings of one run. -/
structure Settings where
  /-- The number of passes. -/
  passes : Nat
  mode : DrawMode
  seed : Int64
  palette : Palette
  /-- The greatest number of saved turtles. -/
  stackLimit : Nat
  /-- The number of placements above which a run is reported. -/
  budget : Budget
  /-- The number of sides of a branch. -/
  sides : Nat
  /-- The factor by which a segment narrows from its base to its top. -/
  taper : Float32
deriving DecidableEq

namespace Settings

/-- The settings used where nothing else is said. -/
def standard : Settings :=
  { passes := 12
    mode := .stochastic
    seed := 0
    palette := Palette.standard
    stackLimit := 1024
    budget := none
    sides := 6
    taper := 0.98 }

/-- A random stream in the chosen mode, at the chosen seed. -/
def stream (settings : Settings) (ambient : Nat → Float) :
    DrawStream Float :=
  DrawStream.start ambient settings.mode settings.seed

end Settings

end GrowthGrammar
