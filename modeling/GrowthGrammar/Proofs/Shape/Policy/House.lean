import GrowthGrammar.Proofs.Shape.Policy.Storeys
import GrowthGrammar.Proofs.Shape.Prospects

/-!
# Houses grow within their prospects

A house becomes at most four strips, a strip at most four cells and a cell at most
five storeys, one of which may become a roof with a chimney.
-/

namespace GrowthGrammar.House

variable {K : Type}

/-! ## Storeys one upon the other -/

/-- Whether a shape may stand among the storeys of a cell. -/
def IsStorey (floor : Shape K) : Prop :=
  floor.kind ≠ .block ∧ floor.roundsLeft ≤ 2

/-- Storeys that become no more than a number of shapes. -/
structure Stacked (most : Nat) (floors : List (Shape K)) : Prop where
  present : 0 < floors.length
  storeys : ∀ floor ∈ floors, IsStorey floor
  fits : (floors.map Shape.leaves).sum ≤ most

/-- Whether a change of storeys gives storeys, which become at most a number of
shapes more. -/
def Adds (more : Nat) (change : Shape K → Shape K) : Prop :=
  ∀ floor, IsStorey floor →
    IsStorey (change floor) ∧ (change floor).leaves ≤ floor.leaves + more

/-- What is decided for a storey changes nothing in its prospects. -/
theorem adds_fate (fate : Fate) : Adds (K := K) 0 (withFate fate) := by
  rintro floor ⟨notBlock, rounds⟩
  have before := Shape.not_isFated_of_kind rfl notBlock
  have after : ¬ (withFate fate floor).isFated :=
    Shape.not_isFated_of_kind rfl notBlock
  refine ⟨⟨notBlock, ?_⟩, ?_⟩
  · unfold Shape.roundsLeft at rounds ⊢
    rw [if_neg before] at rounds
    rwa [if_neg after]
  · unfold Shape.leaves
    rw [if_neg before, if_neg after]
    exact Nat.le_refl _

theorem adds_remove : Adds (K := K) 0 Shape.remove := by
  rintro floor ⟨notBlock, _⟩
  have rests : floor.remove.expands = false := Shape.not_expands_of_settled rfl
  refine ⟨⟨notBlock, ?_⟩, ?_⟩
  · rw [(Shape.roundsLeft_eq_zero_iff _).mpr rests]
    exact Nat.zero_le 2
  · rw [Shape.leaves_of_not_expands rests]
    exact floor.leaves_pos

variable [Scalar K]

theorem kind_roofOver (turned : Bool) (storey : Shape K) :
    (roofOver turned storey).kind = .roof := by
  rw [roofOver]
  cases turned <;> rfl

theorem depth_roofOver (turned : Bool) (storey : Shape K) :
    (roofOver turned storey).depth = 4 :=
  rfl

/-- A roof may get a chimney, which is one shape more. -/
theorem adds_roofOver (turned : Bool) : Adds (K := K) 1 (roofOver turned) := by
  intro floor _
  have rounds := (roofOver turned floor).roundsLeft_le_rounds
  have leaves := (roofOver turned floor).leaves_le_leaves
  rw [kind_roofOver, depth_roofOver] at rounds leaves
  refine ⟨⟨?_, ?_⟩, ?_⟩
  · rw [kind_roofOver]
    nofun
  · exact Nat.le_trans rounds Nat.one_le_ofNat
  · exact Nat.le_trans leaves (Nat.add_le_add_right floor.leaves_pos 1)

/-! ## Stacks -/

namespace StackPlan

variable {cell : Shape K} (isHouse : cell.kind = .house) (isCell : cell.depth = 3)
  (plan : StackPlan)

include isHouse isCell

/-- A change of a storey of a cell gives a storey, which becomes at most one shape and
what the change adds. -/
theorem isStorey_of_adds {more : Nat} {change : Shape K → Shape K}
    (adds : Adds more change) (number : Nat) :
    IsStorey (change (plan.floor cell number)) ∧
      (change (plan.floor cell number)).leaves ≤ 1 + more := by
  have bounds := cell.prospects_piece .y plan.count number
  rw [isHouse, isCell] at bounds
  have isStorey : IsStorey (plan.floor cell number) := by
    constructor
    · simp [floor, isHouse]
    · exact bounds.1
  obtain ⟨isChanged, added⟩ := adds _ isStorey
  exact ⟨isChanged, Nat.le_trans added (Nat.add_le_add_right bounds.2 more)⟩

theorem isStorey_storey (number : Nat) :
    IsStorey (plan.storey cell number) ∧ (plan.storey cell number).leaves ≤ 1 := by
  rw [storey]
  split
  · exact plan.isStorey_of_adds isHouse isCell (adds_fate .column) number
  · split
    · exact plan.isStorey_of_adds isHouse isCell (adds_fate .removed) number
    · have unchanged : Adds (K := K) 0 id := fun _ isStorey => ⟨isStorey, Nat.le_refl _⟩
      exact plan.isStorey_of_adds isHouse isCell unchanged number

theorem isStorey_above :
    ∀ floor ∈ plan.above cell, IsStorey floor ∧ floor.leaves ≤ 1 := by
  rw [above]
  split
  · rw [List.forall_mem_singleton]
    exact plan.isStorey_of_adds isHouse isCell adds_remove (plan.roofAt + 1)
  · exact List.forall_mem_nil _

/-- A stack becomes at most one shape for each storey, and a chimney. -/
theorem stacked_stack : Stacked (plan.count + 1) (plan.stack cell) := by
  obtain ⟨roofIsStorey, roofLeaves⟩ :=
    plan.isStorey_of_adds isHouse isCell (adds_roofOver plan.turned) plan.roofAt
  have storeys : ∀ storey ∈ (List.range plan.roofAt).map (plan.storey cell),
      IsStorey storey ∧ storey.leaves ≤ 1 := by
    rw [List.forall_mem_map]
    exact fun number _ => plan.isStorey_storey isHouse isCell number
  have above := plan.isStorey_above isHouse isCell
  constructor
  · simp [stack]
  · rw [stack, List.forall_mem_append, List.forall_mem_cons]
    refine ⟨?_, roofIsStorey, ?_⟩
    · exact fun storey isStorey => (storeys storey isStorey).1
    · exact fun floor isFloor => (above floor isFloor).1
  · have below := Shape.sum_leaves_le (Nat.le_refl _) fun storey isStorey =>
      (storeys storey isStorey).2
    have beyond := Shape.sum_leaves_le (Nat.le_refl _) fun floor isFloor =>
      (above floor isFloor).2
    have total := plan.length_above cell
    rw [List.length_map, List.length_range] at below
    rw [stack, List.map_append, List.sum_append, List.map_cons, List.sum_cons, roof]
    omega

end StackPlan

/-! ## Steps -/

variable {shape : Shape K}

omit [Scalar K] in
theorem grows_of_stacked (expands : shape.expands = true)
    (isHouse : shape.kind = .house) (isCell : shape.depth = 3)
    {floors : List (Shape K)} (stacked : Stacked 6 floors) :
    shape.Grows floors := by
  have unfated := Shape.not_isFated_of_kind isHouse nofun
  constructor
  · exact stacked.present
  · rw [Shape.roundsLeft_of_unfated expands unfated, isHouse, isCell,
      List.forall_mem_map]
    intro floor isFloor
    exact (stacked.storeys floor isFloor).2
  · rw [Shape.leaves_of_unfated expands unfated, isHouse, isCell]
    exact stacked.fits

/-- A division into side by side pieces, by the depth of the house. -/
theorem grows_of_level (expands : shape.expands = true)
    (isHouse : shape.kind = .house) {axis : Axis}
    (level : axis ≠ .y) (shallow : shape.depth < 2) {draw : Float}
    (below : ¬ 1.0 ≤ draw) :
    shape.Grows (shape.pieces axis (PieceRange.standard.pieces axis draw)) := by
  have unfated := Shape.not_isFated_of_kind isHouse nofun
  obtain ⟨several, bounded⟩ := PieceRange.pieces_bounds_of_level level below
  apply Shape.grows_of_divided expands unfated axis (Nat.zero_lt_of_lt several) bounded
  · rw [isHouse]
    simp only [Kind.rounds]
    omega
  · rw [isHouse]
    match shape.depth, shallow with
    | 0, _ => exact Nat.le_refl 96
    | 1, _ => exact Nat.le_refl 24

/-- Whatever a house becomes for values below one keeps within its prospects. -/
theorem Becomes.grows (expands : shape.expands = true)
    (isHouse : shape.kind = .house) {parts : List (Shape K)}
    (becomes : Becomes (fun draw : Float => ¬ 1.0 ≤ draw) shape parts) :
    shape.Grows parts := by
  have unfated := Shape.not_isFated_of_kind isHouse nofun
  cases becomes with
  | strips isGround level below =>
      exact grows_of_level expands isHouse level (by omega) below
  | cells isStrip below =>
      exact grows_of_level expands isHouse (crossAxis_ne_y shape) (by omega) below
  | trimmed _ _ => exact Shape.grows_of_settled expands rfl
  | spared isCell =>
      apply Shape.grows_of_deepened expands unfated
      · rw [Shape.kind_deepen, Shape.depth_deepen, isHouse, isCell]
        exact Nat.lt_add_one 3
      · rw [Shape.kind_deepen, Shape.depth_deepen, isHouse, isCell]
        exact Nat.le_refl 6
  | stacked isCell plan below counted =>
      have many : plan.count ≤ 5 := by
        rw [counted]
        exact (PieceRange.isFair_standard.pieces_bounds .y below).2
      have stack := plan.stacked_stack isHouse isCell
      apply grows_of_stacked expands isHouse isCell
      exact ⟨stack.present, stack.storeys,
        Nat.le_trans stack.fits (Nat.add_le_add_right many 1)⟩
  | fated _ _ => exact Shape.grows_of_settled expands (Shape.isSettled_meetFate _)
  | faced isStorey _ facade =>
      apply Shape.grows_of_deepened expands unfated
      · change shape.kind.rounds (shape.depth + 1) < _
        rw [isHouse, isStorey]
        exact Nat.one_lt_two
      · change shape.kind.leaves (shape.depth + 1) ≤ _
        rw [isHouse, isStorey]
        exact Nat.le_refl 1
  | finished _ => exact Shape.grows_of_settled expands rfl

/-- A roof and its chimney are both at rest. -/
theorem RoofBecomes.grows [Narrowing Float K] (expands : shape.expands = true)
    (isRoof : shape.kind = .roof) {allowed : Float → Prop} {parts : List (Shape K)}
    (becomes : RoofBecomes allowed shape parts) : shape.Grows parts := by
  have unfated := Shape.not_isFated_of_kind isRoof nofun
  cases becomes with
  | finished => exact Shape.grows_of_settled expands rfl
  | crowned isTop _ _ _ =>
      apply Shape.grows_of_all_settled expands
      · exact Nat.zero_lt_two
      · rw [Shape.leaves_of_unfated expands unfated, isRoof, isTop]
        exact Nat.le_refl 2
      · intro part isPart
        rcases List.mem_pair.mp isPart with rfl | rfl <;> rfl

end GrowthGrammar.House
