import GrowthGrammar.Proofs.Shape.Prospects
import GrowthGrammar.Shape.Policy.Block

/-!
# Blocks grow within their prospects

A block becomes at most four blocks side by side.  It may become five blocks one
upon the other, but only the lowest and the highest of them can become more than
one shape.
-/

namespace GrowthGrammar.Block

/-- The shapes that a block can become are enough for four pieces side by side,
and for two pieces with three others at rest between them. -/
theorem leaves_of_shallow {depth : Nat} (shallow : depth < depthLimit) :
    4 * Kind.block.leaves (depth + 1) ≤ Kind.block.leaves depth ∧
      2 * Kind.block.leaves (depth + 1) + 3 ≤ Kind.block.leaves depth := by
  match depth, shallow with
  | 0, _ => decide
  | 1, _ => decide
  | 2, _ => decide
  | 3, _ => decide

theorem rounds_of_shallow {depth : Nat} (shallow : depth < depthLimit) :
    Kind.block.rounds (depth + 1) < Kind.block.rounds depth := by
  simp only [depthLimit, Kind.rounds] at shallow ⊢
  omega

/-- A sum whose terms are small except for the first and the last. -/
theorem sum_range_le_of_ends {count : Nat} {term : Nat → Nat} {outer : Nat}
    (ends : ∀ number, term number ≤ outer)
    (middle : ∀ number, number ≠ 0 → number + 1 ≠ count → term number ≤ 1) :
    ((List.range count).map term).sum ≤ 2 * outer + (count - 2) := by
  rcases count with _ | _ | between
  · exact Nat.zero_le _
  · have first := ends 0
    simp
    omega
  · have first := ends 0
    have last := ends (between + 1)
    have inner := List.sum_le_card_nsmul
      ((List.range between).map fun number => term (number + 1)) 1 (by
        rw [List.forall_mem_map]
        intro number inRange
        rw [List.mem_range] at inRange
        apply middle
        · exact Nat.succ_ne_zero number
        · omega)
    rw [List.length_map, List.length_range, Nat.nsmul_eq_mul,
      Nat.mul_one] at inner
    rw [List.range_succ, List.range_succ_eq_map]
    simp only [List.map_append, List.map_cons, List.map_map, List.map_nil,
      List.sum_append, List.sum_cons, List.sum_nil, Nat.add_zero]
    change term 0 + ((List.range between).map fun number =>
      term (number + 1)).sum + term (between + 1) ≤ _
    omega

variable {K : Type} {shape : Shape K}

/-- The column to be has one round left, in which it becomes one.  A block within
the depth limit has two at least. -/
theorem grows_of_eroded (expands : shape.expands = true)
    (isBlock : shape.kind = .block) (undecided : shape.fate = .keep)
    (within : shape.depth ≤ depthLimit) :
    shape.Grows [{ shape.deepen with fate := .column }] := by
  have unfated := Shape.not_isFated_of_keep undecided
  have fated : Shape.isFated { shape.deepen with fate := .column } :=
    ⟨isBlock, nofun⟩
  obtain ⟨lastRound, alone⟩ := Shape.prospects_of_fated fated
  apply Shape.grows_singleton
  · apply Nat.lt_of_le_of_lt lastRound
    rw [Shape.roundsLeft_of_unfated expands unfated, isBlock]
    simp only [depthLimit, Kind.rounds] at within ⊢
    omega
  · exact Nat.le_trans alone shape.leaves_pos

variable [Scalar K]

/-- The pieces of an upward division. -/
theorem grows_of_upward (expands : shape.expands = true)
    (isBlock : shape.kind = .block) (undecided : shape.fate = .keep)
    (shallow : shape.depth < depthLimit) {count : Nat} (positive : 0 < count)
    (many : count ≤ 5) : shape.Grows (shape.pieces .y count) := by
  have unfated := Shape.not_isFated_of_keep undecided
  constructor
  · rwa [Shape.length_pieces]
  · rw [Shape.roundsLeft_of_unfated expands unfated, isBlock]
    simp only [Shape.pieces, List.map_map, List.forall_mem_map]
    intro number _
    have bound := (shape.prospects_piece .y count number).1
    rw [isBlock] at bound
    apply Nat.le_sub_one_of_lt
    exact Nat.lt_of_le_of_lt bound (rounds_of_shallow shallow)
  · rw [Shape.leaves_of_unfated expands unfated, isBlock, Shape.pieces,
      List.map_map]
    have ends : ∀ number, (Shape.leaves ∘ shape.piece .y count) number ≤
        Kind.block.leaves (shape.depth + 1) := by
      intro number
      have bound := (shape.prospects_piece .y count number).2
      rwa [isBlock] at bound
    have middle : ∀ number, number ≠ 0 → number + 1 ≠ count →
        (Shape.leaves ∘ shape.piece .y count) number ≤ 1 := by
      intro number notFirst notLast
      obtain ⟨offGround, belowTop⟩ :=
        shape.boundary_piece_of_middle count number notFirst notLast
      apply Nat.le_of_eq
      apply Shape.leaves_of_not_expands
      simp [Shape.expands, isBlock, offGround, belowTop]
    have bounded := sum_range_le_of_ends ends middle
    have enough := (leaves_of_shallow shallow).2
    omega

theorem divide_gives (expands : shape.expands = true)
    (isBlock : shape.kind = .block) (undecided : shape.fate = .keep)
    (draw : Float) : Drawn.Gives (divide shape draw) shape.Grows := by
  have unfated := Shape.not_isFated_of_keep undecided
  rw [divide]
  split
  · apply Drawn.Gives.pure
    exact Shape.grows_of_settled expands shape.isSettled_meetFate
  · next deep =>
      have shallow := Nat.lt_of_not_le deep
      apply (shape.divide_gives _ PieceRange.isFair_standard).weaken
      rintro _ ⟨count, positive, bounded, rfl⟩
      generalize divisionAxis draw = axis at bounded
      cases axis
      case y =>
        exact grows_of_upward expands isBlock undecided shallow positive bounded
      all_goals
        apply Shape.grows_of_divided expands unfated _ positive bounded
        · rw [isBlock]
          exact rounds_of_shallow shallow
        · rw [isBlock]
          exact (leaves_of_shallow shallow).1

theorem erodeOrDivide_gives (expands : shape.expands = true)
    (isBlock : shape.kind = .block) (within : shape.depth ≤ depthLimit)
    (draw : Float) :
    Drawn.Gives (erodeOrDivide shape draw) shape.Grows := by
  rw [erodeOrDivide]
  split
  · apply Drawn.Gives.pure
    exact Shape.grows_of_settled expands shape.isSettled_meetFate
  · next undecided =>
      rw [not_not] at undecided
      have unfated := Shape.not_isFated_of_keep undecided
      split
      · split
        · apply Drawn.Gives.pure
          exact grows_of_eroded expands isBlock undecided within
        · split
          · apply Drawn.Gives.pure
            exact Shape.grows_of_settled expands rfl
          · exact divide_gives expands isBlock undecided draw
      · exact divide_gives expands isBlock undecided (draw / 0.8)

/-- Every block that expands does so within its prospects. -/
theorem expand_gives [Narrowing Float K] (expands : shape.expands = true)
    (isBlock : shape.kind = .block) (draw : Float) :
    Drawn.Gives (shape.expand draw) shape.Grows := by
  have active := Shape.isSettled_of_expands expands
  rw [Shape.expand, if_neg (by simp [active]), isBlock]
  simp only [Kind.step, step]
  by_cases within : shape.depth ≤ depthLimit
  · rw [if_pos within]
    exact erodeOrDivide_gives expands isBlock within draw
  · rw [if_neg within]
    apply Drawn.Gives.pure
    exact Shape.grows_of_settled expands shape.isSettled_meetFate

end GrowthGrammar.Block
