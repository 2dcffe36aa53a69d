import GrowthGrammar.Space.Transform

/-!
# Scenes

Growth builds no meshes: it asks for placements.  A scene is the list of such
requests in the order in which they were made.  A change of colour is a request
too, but places nothing.
-/

namespace GrowthGrammar

/-- How the sides of a prism are dressed. -/
inductive Facade where
  | plain
  /-- Windows, with the lights on or off. -/
  | windows (lit : Bool)
deriving DecidableEq

/-- A tapered prism over a regular polygon.  Before it is transformed it stands
on the ground plane, one unit high, over a polygon of circumradius one. -/
structure Prism (K : Type) where
  /-- The number of sides of the polygon. -/
  sides : Nat
  /-- The factor of the lower polygon. -/
  base : K
  /-- The factor of the upper polygon. -/
  top : K
  height : K
  facade : Facade
deriving DecidableEq

/-- A request to the scene. -/
inductive Call (K : Type) where
  /-- Sets the colour of what is placed from here on. -/
  | color (rgba : Vec4 K)
  /-- Places a prism; its normals may be recomputed after the transform. -/
  | prism (transform : Transform K) (prism : Prism K) (normalCorrect : Bool)
  /-- Places a plane on the ground by its half extents. -/
  | plane (halfExtents : Vec2 K)
  /-- Places a mesh of the host. -/
  | decoration (mesh : Nat) (transform : Transform K)
deriving DecidableEq

namespace Call

variable {K : Type}

/-- Whether the request places something. -/
def places : Call K → Bool
  | .color _ => false
  | .prism .. => true
  | .plane _ => true
  | .decoration .. => true

/-- Whether the request places a prism. -/
def isPrism : Call K → Bool
  | .prism .. => true
  | _ => false

end Call

/-- The requests made so far, in order. -/
structure Scene (K : Type) where
  calls : Array (Call K)
deriving DecidableEq

/-- The number of placements above which a run is reported; it cuts nothing
off. -/
abbrev Budget := Option Nat

/-- Whether a number of placements goes beyond a budget. -/
def Budget.isExceededBy (budget : Budget) (placements : Nat) : Bool :=
  match budget with
  | none => false
  | some most => most < placements

/-- A number is beyond a budget if there is one, and the number is greater. -/
theorem Budget.isExceededBy_iff (budget : Budget) (placements : Nat) :
    budget.isExceededBy placements = true ↔
      ∃ most, budget = some most ∧ most < placements := by
  cases budget with
  | none => simp [isExceededBy]
  | some most => simp [isExceededBy]

namespace Scene

variable {K : Type}

/-- The scene in which nothing was requested. -/
def empty : Scene K :=
  ⟨#[]⟩

/-- The scene after one more request. -/
def add (scene : Scene K) (call : Call K) : Scene K :=
  ⟨scene.calls.push call⟩

/-- The scene after some more requests. -/
def extend (scene : Scene K) (calls : List (Call K)) : Scene K :=
  ⟨scene.calls ++ calls⟩

/-- The number of placements. -/
def placements (scene : Scene K) : Nat :=
  scene.calls.countP Call.places

/-- The number of prisms. -/
def prisms (scene : Scene K) : Nat :=
  scene.calls.countP Call.isPrism

end Scene

end GrowthGrammar
