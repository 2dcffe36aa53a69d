import GrowthGrammar.Space.Transform

/-!
# Kinds of shapes

The kind of a shape decides how it grows and which prism stands for it.  Every
kind maps the prism of the scene onto the unit cube centred at the origin, so
that the extents of a shape can be applied to it afterwards.
-/

namespace GrowthGrammar

/-- What a tower decides once for all its pieces. -/
structure TowerForm where
  /-- Whether floors have eight sides instead of four. -/
  round : Bool
  /-- Whether floors are divided again into bands. -/
  banded : Bool
deriving DecidableEq

/-- The kind of a shape. -/
inductive Kind where
  | tower (form : TowerForm)
  /-- A block that is eroded at its corners. -/
  | block
  | house
  | roof
  /-- The antenna of a tower. -/
  | spike
  /-- A thin round support. -/
  | column
deriving DecidableEq

namespace Kind

/-- The name of a kind. -/
def name : Kind → String
  | tower _ => "tower"
  | block => "block"
  | house => "house"
  | roof => "roof"
  | spike => "spike"
  | column => "column"

/-- The number of sides that a fresh shape has. -/
def sides : Kind → Nat
  | roof => 3
  | column => 8
  | spike => 12
  | _ => 4

variable {K : Type} [Scalar K]

/-- The ratio of top to base that a fresh shape has. -/
def top : Kind → K
  | spike => 0.1
  | _ => 1.0

/-- The transform of the unit prism of a kind onto the unit cube centred at the
origin.  A roof lies on its side, along the third axis. -/
def unitPlacement : Kind → Transform K
  | roof =>
      Transform.displacement ⟨0.0, -0.5 + 0.28867513, -0.5⟩
        * Transform.rotationX (Scalar.pi / 2.0)
        * Transform.rotationY (Scalar.pi / 2.0)
        * Transform.scaling ⟨0.57735026, 1.0, 0.57735026⟩
  | _ =>
      Transform.stretchedFrame ⟨Scalar.sqrtHalf, 1.0, Scalar.sqrtHalf⟩
        (Rotation.aboutY (Scalar.pi / 4.0)) ⟨0.0, -0.5, 0.0⟩

end Kind

end GrowthGrammar
