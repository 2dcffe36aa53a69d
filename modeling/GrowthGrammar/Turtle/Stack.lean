import GrowthGrammar.Error
import GrowthGrammar.Turtle.Basic

/-!
# The branch stack

A branch stack holds the active turtle and the turtles saved at the branch
points that are still open.  Saving fails at the limit of the stack, restoring
fails when nothing is saved, and either failure leaves the stack as it was.
-/

namespace GrowthGrammar

/-- The active turtle above the saved ones. -/
structure BranchStack where
  active : Turtle
  /-- The saved turtles, the latest first. -/
  saved : List Turtle
  /-- The greatest number of saved turtles. -/
  limit : Nat
deriving DecidableEq

namespace BranchStack

/-- A stack on which nothing is saved. -/
def start (root : Turtle) (limit : Nat) : BranchStack :=
  { active := root
    saved := []
    limit := limit }

/-- The number of saved turtles. -/
def depth (stack : BranchStack) : Nat :=
  stack.saved.length

/-- Changes the active turtle. -/
def steer (move : Turtle → Turtle) (stack : BranchStack) : BranchStack :=
  { stack with active := move stack.active }

/-- Saves the active turtle and goes on with a copy one branch point
deeper. -/
def save (stack : BranchStack) : Except GrowthError BranchStack :=
  if stack.limit ≤ stack.depth then
    .error (.branchLimit stack.limit)
  else
    .ok
      { stack with
        active := { stack.active with depth := stack.active.depth + 1 }
        saved := stack.active :: stack.saved }

/-- Drops the active turtle and goes on with the one saved last. -/
def restore (stack : BranchStack) : Except GrowthError BranchStack :=
  match stack.saved with
  | [] => .error .noOpenBranch
  | turtle :: saved => .ok { stack with active := turtle, saved := saved }

/-- Restoring undoes saving, whatever the active turtle did in between. -/
theorem restore_steer_of_save {stack deeper : BranchStack}
    (move : Turtle → Turtle) (hsave : stack.save = .ok deeper) :
    (deeper.steer move).restore = .ok stack := by
  unfold save at hsave
  split at hsave
  · simp at hsave
  · cases hsave
    rfl

end BranchStack

end GrowthGrammar
