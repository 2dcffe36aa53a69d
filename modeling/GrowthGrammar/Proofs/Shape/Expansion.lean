import GrowthGrammar.Proofs.Shape.Policy.Erosion
import GrowthGrammar.Proofs.Shape.Policy.Floors
import GrowthGrammar.Proofs.Shape.Policy.Storeys

/-!
# What a shape becomes

Towers, blocks, houses and roofs have each their own ways to be expanded; spikes and
columns have none.  What growth keeps is proved for each of these ways, and the steps
themselves need not be looked at again.
-/

namespace GrowthGrammar

variable {D K : Type} [Scalar D] [Scalar K] [Narrowing D K]

/-- What a shape of a kind that expands can become. -/
def Kind.Becomes (allowed : D → Prop) : Kind → Shape K → List (Shape K) → Prop
  | .tower _ => Tower.Becomes allowed
  | .block => Block.Becomes
  | .house => House.Becomes allowed
  | .roof => House.RoofBecomes allowed
  | .spike => fun _ _ => False
  | .column => fun _ _ => False

/-- What follows from each of the ways to expand follows for every kind. -/
theorem Kind.Becomes.imp {kind : Kind} {allowed : D → Prop} {shape : Shape K}
    {parts : List (Shape K)} {conclusion : Prop}
    (becomes : kind.Becomes allowed shape parts)
    (tower : Tower.Becomes allowed shape parts → conclusion)
    (block : Block.Becomes shape parts → conclusion)
    (house : House.Becomes allowed shape parts → conclusion)
    (roof : House.RoofBecomes allowed shape parts → conclusion) : conclusion := by
  cases kind with
  | tower form => exact tower becomes
  | block => exact block becomes
  | house => exact house becomes
  | roof => exact roof becomes
  | spike => exact becomes.elim
  | column => exact becomes.elim

/-- A shape that expands becomes what its kind allows. -/
theorem Shape.expand_deliversFrom {fits : DrawStream D → Prop} {allowed : D → Prop}
    (values : DeliversFrom fits Drawn.value allowed) {shape : Shape K}
    (expands : shape.expands = true) (draw : D) :
    DeliversFrom fits (shape.expand draw) (shape.kind.Becomes allowed shape) := by
  have active := isSettled_of_expands expands
  cases isKind : shape.kind with
  | tower form => exact Tower.expand_deliversFrom values isKind active draw
  | block => exact Block.expand_deliversFrom values isKind active draw
  | house => exact House.expand_deliversFrom values isKind active draw
  | roof => exact House.expand_roof_deliversFrom values isKind active draw
  | spike => simp [Shape.expands, isKind] at expands
  | column => simp [Shape.expands, isKind] at expands

end GrowthGrammar
