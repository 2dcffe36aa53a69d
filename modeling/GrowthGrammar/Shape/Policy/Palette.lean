import GrowthGrammar.Random.Drawn
import GrowthGrammar.Shape.Basic

/-!
# Building colours

A random value picks one of a list of colours.  The value is shrunk slightly
before it is scaled to the list, so that values close to one stay inside.
-/

namespace GrowthGrammar

/-- The place that a random value picks in a list of a given length. -/
def pickIndex {D : Type} [Scalar D] (length : Nat) (draw : D) : Nat :=
  min (Scalar.count (draw * 0.99999 * Scalar.ofNat length)) (length - 1)

theorem pickIndex_lt {D : Type} [Scalar D] {length : Nat} (draw : D)
    (hlength : 0 < length) : pickIndex length draw < length := by
  unfold pickIndex
  omega

/-- The entry that a random value picks from a list that is not empty. -/
def pickFrom {D α : Type} [Scalar D] (choices : List α)
    (nonempty : 0 < choices.length) (draw : D) : α :=
  choices.get
    ⟨pickIndex choices.length draw, pickIndex_lt draw nonempty⟩

namespace Shape

variable {D K : Type} [Scalar D] [Scalar K]

/-- Grey, white and blue. -/
def towerColors : List (Vec4 K) :=
  [⟨0.75, 0.75, 0.75, 1.0⟩,
    ⟨0.85, 0.85, 0.85, 1.0⟩,
    ⟨0.85, 0.85, 0.97, 1.0⟩]

/-- Yellow, orange, white, red and blue. -/
def houseColors : List (Vec4 K) :=
  [⟨0.9, 0.9, 0.8, 1.0⟩,
    ⟨0.95, 0.8, 0.7, 1.0⟩,
    ⟨0.85, 0.85, 0.85, 1.0⟩,
    ⟨0.95, 0.75, 0.75, 1.0⟩,
    ⟨0.85, 0.85, 0.97, 1.0⟩]

/-- The shaded colour of a tower. -/
def towerColor (draw : D) : Vec4 K :=
  let base : Vec4 K := pickFrom towerColors (by simp [towerColors]) draw
  { base * (0.85 : K) with w := 1.0 }

/-- The colour of the walls of a house. -/
def houseColor (draw : D) : Vec4 K :=
  pickFrom houseColors (by simp [houseColors]) draw

/-- A fresh tower; its colour takes one random value. -/
def tower (position rotation extents : Vec3 K) :
    StateM (DrawStream D) (Shape K) := do
  let draw ← DrawStream.next
  let fresh := ofKind (.tower ⟨false, false⟩) position rotation extents
  return { fresh with color := towerColor draw }

/-- A fresh house; its colour takes one random value. -/
def house (position rotation extents : Vec3 K) :
    StateM (DrawStream D) (Shape K) := do
  let draw ← DrawStream.next
  let fresh := ofKind .house position rotation extents
  return { fresh with color := houseColor draw }

end Shape

end GrowthGrammar
