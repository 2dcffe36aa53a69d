import GrowthGrammar.Shape.Policy.Tower

/-!
# How blocks grow

A block is divided along random axes.  Pieces at its corners are eroded: what
stands on the ground becomes a column one round later, and what reaches the top
is taken out.
-/

namespace GrowthGrammar.Block

variable {D K : Type} [Scalar D] [Scalar K]

/-- The depth at which pieces are no longer divided. -/
def depthLimit : Nat := 4

/-- The axis that a random value chooses. -/
def divisionAxis (draw : D) : Axis :=
  if draw < 0.333 then .x
  else if draw < 0.466 then .y
  else .z

/-- Divides a piece, or settles it if it is deep enough. -/
def divide : GrowthStep D K := fun shape draw => do
  if depthLimit ≤ shape.depth then
    return [shape.meetFate]
  else
    shape.divide (divisionAxis draw) PieceRange.standard

/-- Erodes a piece for a high random value, and divides it otherwise. -/
def erodeOrDivide : GrowthStep D K := fun shape draw => do
  if shape.fate ≠ .keep then
    return [shape.meetFate]
  else if 0.8 < draw then
    if 1 < shape.depth ∧ shape.boundary.bottom ∧ ¬ shape.boundary.top then
      return [{ shape.deepen with fate := .column }]
    else if 1 < shape.depth ∧ shape.atCorner then
      return [shape.remove]
    else
      divide shape draw
  else
    divide shape (draw / 0.8)

/-- Carries out the fate of a piece that is deeper than pieces get. -/
def settle : GrowthStep D K := fun shape _ =>
  return [shape.meetFate]

/-- The step of a block at a depth. -/
def step (depth : Nat) : Option (GrowthStep D K) :=
  if depth ≤ depthLimit then some erodeOrDivide else some settle

end GrowthGrammar.Block
