import GrowthGrammar.Shape.Policy.Block
import GrowthGrammar.Shape.Policy.House

/-!
# Expansion

The kind of a shape and its depth choose the step that it takes.  A shape for
which there is no step is finished.
-/

namespace GrowthGrammar

variable {D K : Type} [Scalar D] [Scalar K] [Narrowing D K]

/-- The step of a kind at a depth. -/
def Kind.step (kind : Kind) (depth : Nat) : Option (GrowthStep D K) :=
  match kind with
  | .tower _ => Tower.step depth
  | .block => Block.step depth
  | .house => House.step depth
  | .roof => House.roofStep depth
  | .spike => none
  | .column => none

/-- What a shape becomes for a random value drawn for it.  A finished shape stays
and draws nothing. -/
def Shape.expand : GrowthStep D K := fun shape draw => do
  if shape.isSettled then
    return [shape]
  else
    match shape.kind.step shape.depth with
    | some step => step shape draw
    | none => return [shape.finish]

end GrowthGrammar
