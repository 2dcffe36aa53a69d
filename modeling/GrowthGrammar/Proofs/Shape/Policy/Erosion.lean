import GrowthGrammar.Proofs.Shape.Division
import GrowthGrammar.Shape.Expansion

/-!
# What a block becomes

A round leaves a block as it is, carries out its fate, decides that it becomes a
column, takes it out, or divides it.  The conditions under which each of these can
happen are read off the depth and the boundary of the block; which of them does
happen is up to the random values.
-/

namespace GrowthGrammar.Block

variable {D K : Type} [Scalar D] [Scalar K]

/-- What a block that expands can become. -/
inductive Becomes (shape : Shape K) : List (Shape K) → Prop where
  /-- Its fate is carried out, or it is finished at the depth limit. -/
  | settled (due : shape.fate ≠ .keep ∨ depthLimit ≤ shape.depth) :
      Becomes shape [shape.meetFate]
  /-- On the ground and below the top it is to become a column. -/
  | fated (undecided : shape.fate = .keep) (deep : 1 < shape.depth)
      (grounded : shape.boundary.bottom = true)
      (belowTop : shape.boundary.top = false) :
      Becomes shape [{ shape.deepen with fate := .column }]
  /-- At a corner it is taken out. -/
  | removed (undecided : shape.fate = .keep) (deep : 1 < shape.depth)
      (atCorner : shape.atCorner = true)
      (notFated : shape.boundary.bottom = true → shape.boundary.top = true) :
      Becomes shape [shape.remove]
  | divided (undecided : shape.fate = .keep)
      (shallow : shape.depth < depthLimit) (axis : Axis) {count : Nat}
      (several : 2 ≤ count) : Becomes shape (shape.pieces axis count)

section Steps

variable {fits : DrawStream D → Prop} {allowed : D → Prop} {shape : Shape K}
  (values : DeliversFrom fits Drawn.value allowed)

include values

theorem divide_deliversFrom (undecided : shape.fate = .keep) (draw : D) :
    DeliversFrom fits (divide shape draw) (Becomes shape) := by
  rw [divide]
  split
  · next deep => exact .pure (.settled (Or.inr deep))
  · next deep =>
      apply (Shape.divide_deliversFrom values shape _ (by decide)).weaken
      rintro _ ⟨count, _, rfl⟩
      have several := PieceRange.standard.least_le_pieces (divisionAxis draw) count
      exact .divided undecided (Nat.lt_of_not_le deep) _ several

theorem erodeOrDivide_deliversFrom (draw : D) :
    DeliversFrom fits (erodeOrDivide shape draw) (Becomes shape) := by
  rw [erodeOrDivide]
  split
  · next fated => exact .pure (.settled (Or.inl fated))
  · next undecided =>
      rw [not_not] at undecided
      split
      · split
        · next stands =>
            obtain ⟨deep, grounded, belowTop⟩ := stands
            exact .pure (.fated undecided deep grounded (by simpa using belowTop))
        · next notFated =>
            split
            · next corner =>
                obtain ⟨deep, atCorner⟩ := corner
                refine .pure (.removed undecided deep atCorner ?_)
                intro grounded
                by_contra belowTop
                exact notFated ⟨deep, grounded, belowTop⟩
            · exact divide_deliversFrom values undecided draw
      · exact divide_deliversFrom values undecided (draw / 0.8)

/-- A block that a round visits becomes one of these. -/
theorem expand_deliversFrom [Narrowing D K] (isBlock : shape.kind = .block)
    (active : shape.isSettled = false) (draw : D) :
    DeliversFrom fits (shape.expand draw) (Becomes shape) := by
  rw [Shape.expand, if_neg (by simp [active]), isBlock]
  simp only [Kind.step, step]
  by_cases within : shape.depth ≤ depthLimit
  · rw [if_pos within]
    exact erodeOrDivide_deliversFrom values draw
  · rw [if_neg within]
    exact .pure (.settled (Or.inr (Nat.le_of_not_le within)))

end Steps

theorem expand_delivers [Narrowing D K] {shape : Shape K}
    (isBlock : shape.kind = .block) (expands : shape.expands = true) (draw : D) :
    Delivers (shape.expand draw) (Becomes shape) := by
  rw [delivers_iff]
  exact expand_deliversFrom (delivers_iff.mp Drawn.delivers_value) isBlock
    (Shape.isSettled_of_expands expands) draw

end GrowthGrammar.Block
