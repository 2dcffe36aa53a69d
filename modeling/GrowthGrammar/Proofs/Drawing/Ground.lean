import GrowthGrammar.Turtle.Stack

/-!
# The turtle on the ground

Under all open branches there is one turtle that waits on the ground: the one
saved first, or the active one if nothing is saved.  Opening and closing branches
leaves it, and so does everything that is done in a branch.
-/

namespace GrowthGrammar.BranchStack

/-- The turtle under all open branches. -/
def ground (stack : BranchStack) : Turtle :=
  stack.saved.getLastD stack.active

theorem ground_of_save {stack deeper : BranchStack}
    (saving : stack.save = .ok deeper) : deeper.ground = stack.ground := by
  unfold save at saving
  split at saving
  · contradiction
  · cases saving
    rw [ground, ground, List.getLastD_cons]

/-- In a branch the active turtle is not the one on the ground. -/
theorem ground_of_depth_pos {stack : BranchStack} (inBranch : 0 < stack.depth)
    (active : Turtle) : { stack with active := active }.ground = stack.ground := by
  rcases stack with ⟨active, _ | ⟨turtle, saved⟩, limit⟩
  · contradiction
  · rfl

/-- Two branch stacks with equally many open branches over one turtle. -/
structure SameGround (first second : BranchStack) : Prop where
  ground_eq : first.ground = second.ground
  depth_eq : first.depth = second.depth
  limit_eq : first.limit = second.limit

/-- Where no branch is open there is only the turtle on the ground. -/
theorem SameGround.eq_of_depth_eq_zero {first second : BranchStack}
    (same : first.SameGround second) (closed : first.depth = 0) :
    first = second := by
  rcases first with ⟨firstActive, firstSaved, limit⟩
  rcases second with ⟨secondActive, secondSaved, _⟩
  obtain ⟨ground, depth, rfl⟩ := same
  obtain rfl : firstSaved = [] := List.eq_nil_of_length_eq_zero closed
  obtain rfl : secondSaved = [] :=
    List.eq_nil_of_length_eq_zero (depth.symm.trans closed)
  obtain rfl : firstActive = secondActive := ground
  rfl

namespace SameGround

variable {first second : BranchStack}

/-- A branch opens in both or in neither. -/
theorem save (same : first.SameGround second) :
    (∃ error, first.save = .error error ∧ second.save = .error error) ∨
      ∃ firstDeeper secondDeeper,
        first.save = .ok firstDeeper ∧ second.save = .ok secondDeeper ∧
          firstDeeper.SameGround secondDeeper ∧
            firstDeeper.depth = first.depth + 1 := by
  by_cases full : first.limit ≤ first.depth
  · left
    have secondFull : second.limit ≤ second.depth := by
      rwa [← same.limit_eq, ← same.depth_eq]
    refine ⟨.branchLimit first.limit, if_pos full, ?_⟩
    rw [same.limit_eq]
    exact if_pos secondFull
  · right
    have secondFree : ¬ second.limit ≤ second.depth := by
      rwa [← same.limit_eq, ← same.depth_eq]
    have firstSaving : first.save = .ok _ := if_neg full
    have secondSaving : second.save = .ok _ := if_neg secondFree
    refine ⟨_, _, firstSaving, secondSaving, ⟨?_, ?_, same.limit_eq⟩, rfl⟩
    · rw [ground_of_save firstSaving, ground_of_save secondSaving,
        same.ground_eq]
    · exact congrArg (· + 1) same.depth_eq

/-- An open branch closes in both. -/
theorem restore (same : first.SameGround second) (inBranch : 0 < first.depth) :
    ∃ firstShallower secondShallower,
      first.restore = .ok firstShallower ∧
        second.restore = .ok secondShallower ∧
          firstShallower.SameGround secondShallower ∧
            firstShallower.depth = first.depth - 1 := by
  rcases first with ⟨firstActive, _ | ⟨firstTurtle, firstSaved⟩, firstLimit⟩
  · contradiction
  rcases second with ⟨secondActive, _ | ⟨secondTurtle, secondSaved⟩, secondLimit⟩
  · exact absurd same.depth_eq (Nat.succ_ne_zero _)
  · refine ⟨_, _, rfl, rfl, ⟨?_, ?_, same.limit_eq⟩, rfl⟩
    · have ground := same.ground_eq
      simpa only [BranchStack.ground, List.getLastD_cons] using ground
    · exact Nat.succ.inj same.depth_eq

/-- What is done in a branch leaves the ground. -/
theorem activate (same : first.SameGround second) (inBranch : 0 < first.depth)
    (firstActive secondActive : Turtle) :
    { first with active := firstActive }.SameGround
      { second with active := secondActive } := by
  have secondInBranch : 0 < second.depth := by
    rwa [← same.depth_eq]
  refine ⟨?_, same.depth_eq, same.limit_eq⟩
  rw [ground_of_depth_pos inBranch, ground_of_depth_pos secondInBranch,
    same.ground_eq]

end SameGround

end GrowthGrammar.BranchStack
