import GrowthGrammar.Proofs.Massing.Unfolding
import GrowthGrammar.Proofs.Shape.Footprint

/-!
# Houses that have settled

A house is divided into the cells of a footprint, and on every cell there is in the end
either a corner that was taken out or a stack: storeys from the ground up, a roof, a
chimney and a storey that was taken out to make place for the roof, the last two of which
may be missing.
-/

namespace GrowthGrammar

namespace House

section Stacks

variable {K : Type} [Scalar K]

/-- A storey of a stack that has settled, if the cell was divided into so many storeys
and one of them gave its place to the roof.  Only the lowest storey can be left to a
column, and of the others only the one under the roof can be taken out. -/
structure IsStoreyOf (cell : Shape K) (count roofAt number : Nat) (storey : Shape K) :
    Prop where
  position_eq : storey.position = (cell.piece .y count number).position
  deep : 2 < storey.depth
  kind_eq : storey.kind = .house ∨ storey.kind = .column ∧ number = 0
  status_eq : storey.status = .finished ∨
    storey.status = .removed ∧ number ≠ 0 ∧ number + 1 = roofAt

/-- What is left of a roof when it has settled. -/
structure IsRoof (roof : Shape K) : Prop where
  kind_eq : roof.kind = .roof
  status_eq : roof.status = .finished
  sides_eq : roof.sides = 3
  atTop : roof.boundary.top = true

/-- A stack on a cell that has settled. -/
structure IsStack (cell : Shape K) (storeys : List (Shape K)) (roof : Shape K)
    (chimneys above : List (Shape K)) : Prop where
  storeys_few : 1 ≤ storeys.length ∧ storeys.length ≤ 4
  storeys_rise : List.Forall₂
    (IsStoreyOf cell (storeys.length + 1 + above.length) storeys.length)
    (List.range storeys.length) storeys
  roofed : IsRoof roof
  chimneys_few : chimneys.length ≤ 1
  chimneys_finished : ∀ chimney ∈ chimneys,
    chimney.kind = .house ∧ chimney.status = .finished
  above_few : above.length ≤ 1
  above_removed : ∀ storey ∈ above, storey.kind = .house ∧ storey.status = .removed
  deep : ∀ shape ∈ storeys ++ roof :: (chimneys ++ above), 2 < shape.depth

/-- What there is on a cell in the end. -/
inductive IsBuiltOn (cell : Shape K) : List (Shape K) → Prop where
  | trimmed (isCell : cell.depth = 2) (atCorner : cell.atCorner = true) :
      IsBuiltOn cell [cell.remove]
  | stacked {storeys : List (Shape K)} {roof : Shape K} {chimneys above : List (Shape K)}
      (stack : IsStack cell storeys roof chimneys above) :
      IsBuiltOn cell (storeys ++ roof :: (chimneys ++ above))

/-- Whether a shape is a cell that was taken out. -/
def isTrimmed (shape : Shape K) : Bool :=
  shape.status = .removed ∧ shape.depth = 2

/-- A house on a footprint that has settled. -/
structure IsSettledOn (footprint : Footprint) (house : Shape K) (shapes : List (Shape K)) :
    Prop where
  built : ∃ blocks, List.Forall₂ IsBuiltOn (footprint.cells house) blocks ∧
    shapes = blocks.flatten
  cells_counted : (footprint.cells house).length = footprint.counts.sum
  /-- The corners are the first and the last cell of the first and the last strip. -/
  corners : ∀ number count place,
    ((footprint.strip house number).piece footprint.along.across count place).atCorner =
        true ↔
      (number = 0 ∨ number + 1 = footprint.counts.length) ∧
        (place = 0 ∨ place + 1 = count)
  corners_counted : (footprint.cells house).countP Shape.atCorner = 4
  trimmed : ∀ shape ∈ shapes, shape.status = .removed → shape.depth = 2 →
    ∃ cell ∈ footprint.cells house, cell.atCorner = true ∧ shape = cell.remove
  /-- There is one roof on every cell that was not taken out. -/
  roofs_counted :
    footprint.counts.sum =
      shapes.countP (fun shape => shape.kind = .roof) + shapes.countP isTrimmed
  trimmed_few : shapes.countP isTrimmed ≤ 4

/-! ## Counting -/

section Counting

variable {cell roof : Shape K} {storeys chimneys above : List (Shape K)}

/-- A stack has one roof, and none of its shapes counts as a cell that was taken out. -/
theorem IsStack.countP_eq (stack : IsStack cell storeys roof chimneys above) :
    (storeys ++ roof :: (chimneys ++ above)).countP (fun shape => shape.kind = .roof) = 1 ∧
      (storeys ++ roof :: (chimneys ++ above)).countP isTrimmed = 0 := by
  constructor
  · have noneBelow : storeys.countP (fun shape => shape.kind = .roof) = 0 := by
      rw [List.countP_eq_zero]
      refine forall_mem_of_forall₂_right stack.storeys_rise fun rises => ?_
      rcases rises.kind_eq with isHouse | ⟨isColumn, -⟩
      · simp [isHouse]
      · simp [isColumn]
    have noChimney : chimneys.countP (fun shape => shape.kind = .roof) = 0 := by
      rw [List.countP_eq_zero]
      intro chimney isChimney
      simp [(stack.chimneys_finished chimney isChimney).1]
    have noneAbove : above.countP (fun shape => shape.kind = .roof) = 0 := by
      rw [List.countP_eq_zero]
      intro storey isAbove
      simp [(stack.above_removed storey isAbove).1]
    rw [List.countP_append, List.countP_cons, List.countP_append, noneBelow, noChimney,
      noneAbove, if_pos (by simpa using stack.roofed.kind_eq)]
  · rw [List.countP_eq_zero]
    intro shape isShape
    have deep := stack.deep shape isShape
    simp [isTrimmed, (Nat.ne_of_lt deep).symm]

/-- A shape of the depth of a cell, as a house is divided. -/
structure IsHouseAt (depth : Nat) (shape : Shape K) : Prop where
  kind_eq : shape.kind = .house
  status_eq : shape.status = .active
  undecided : shape.fate = .keep
  depth_eq : shape.depth = depth

namespace IsHouseAt

variable {depth : Nat} {shape : Shape K} (isHouse : IsHouseAt depth shape)

include isHouse

omit [Scalar K] in
theorem deepen : IsHouseAt (depth + 1) shape.deepen :=
  { kind_eq := isHouse.kind_eq
    status_eq := isHouse.status_eq
    undecided := isHouse.undecided
    depth_eq := congrArg (· + 1) isHouse.depth_eq }

theorem piece (axis : Axis) (count number : Nat) :
    IsHouseAt (depth + 1) (shape.piece axis count number) := by
  constructor
  · rw [Shape.kind_piece, isHouse.kind_eq]
  · rw [Shape.status_piece, isHouse.status_eq]
  · rw [Shape.fate_piece, isHouse.undecided]
  · rw [Shape.depth_piece, isHouse.depth_eq]

theorem pieces (axis : Axis) (count : Nat) :
    ∀ piece ∈ shape.pieces axis count, IsHouseAt (depth + 1) piece := by
  rw [Shape.pieces, List.forall_mem_map]
  exact fun number _ => isHouse.piece axis count number

end IsHouseAt

variable {cells : List (Shape K)} {blocks : List (List (Shape K))}
  (areCells : ∀ cell ∈ cells, IsHouseAt 2 cell)
  (built : List.Forall₂ IsBuiltOn cells blocks)

include areCells built

/-- There is a roof on every cell that was not taken out, and only corners were. -/
theorem length_eq_of_built :
    cells.length = blocks.flatten.countP (fun shape => shape.kind = .roof) +
        blocks.flatten.countP isTrimmed ∧
      blocks.flatten.countP isTrimmed ≤ cells.countP Shape.atCorner := by
  induction built with
  | nil => exact ⟨rfl, Nat.le_refl 0⟩
  | @cons cell block cells blocks isBuilt _ ih =>
      rw [List.forall_mem_cons] at areCells
      obtain ⟨counted, few⟩ := ih areCells.2
      rw [List.flatten_cons, List.countP_append, List.countP_append, List.length_cons,
        List.countP_cons]
      cases isBuilt with
      | trimmed isCell atCorner =>
          have isHouse : cell.remove.kind = .house := areCells.1.kind_eq
          have isTaken : isTrimmed cell.remove = true := by
            simp [isTrimmed, Shape.remove, isCell]
          have noRoof : [cell.remove].countP (fun shape => shape.kind = .roof) = 0 := by
            simp [isHouse]
          have oneTaken : [cell.remove].countP isTrimmed = 1 := by
            simp [isTaken]
          rw [noRoof, oneTaken, if_pos atCorner]
          omega
      | stacked stack =>
          obtain ⟨oneRoof, noneTaken⟩ := stack.countP_eq
          rw [oneRoof, noneTaken]
          omega

omit areCells in
/-- What was taken out in the place of a cell stood at a corner. -/
theorem exists_corner_of_trimmed {shape : Shape K} (isShape : shape ∈ blocks.flatten)
    (isCell : shape.depth = 2) :
    ∃ cell ∈ cells, cell.atCorner = true ∧ shape = cell.remove := by
  induction built with
  | nil => exact absurd isShape List.not_mem_nil
  | @cons cell _ _ _ isBuilt _ ih =>
      rw [List.flatten_cons, List.mem_append] at isShape
      rcases isShape with isHere | isThere
      · cases isBuilt with
        | trimmed _ atCorner =>
            exact ⟨cell, List.mem_cons_self, atCorner, List.mem_singleton.mp isHere⟩
        | stacked stack =>
            have deep := stack.deep shape isHere
            rw [isCell] at deep
            contradiction
      · obtain ⟨corner, isCorner, isTaken⟩ := ih isThere
        exact ⟨corner, List.mem_cons_of_mem _ isCorner, isTaken⟩

end Counting

end Stacks

/-! ## Rounds -/

section Rounds

variable {D K : Type} [Scalar D] [Scalar K] [Narrowing D K] {allowed : D → Prop}
  {count : Nat} {shape : Shape K} {block : List (Shape K)}

theorem becomes_of_renews (isHouse : shape.kind = .house)
    (active : shape.status = .active) {parts : List (Shape K)}
    (renews : shape.Renews allowed parts) : Becomes allowed shape parts := by
  have expands : shape.expands = true := by
    simp [Shape.expands, Shape.isSettled, active, isHouse]
  have becomes := renews.becomes expands
  rwa [isHouse] at becomes

/-- What is deeper than a storey is finished. -/
theorem unfolds_deep (isHouse : shape.kind = .house) (active : shape.status = .active)
    (deep : 4 < shape.depth)
    (unfolds : Growth.Unfolds (Shape.Renews allowed) (count + 1) shape block) :
    block = [shape.finish] := by
  obtain ⟨parts, blocks, renews, further, rfl⟩ := unfolds
  cases becomes_of_renews isHouse active renews with
  | finished =>
      apply Growth.flatten_eq_of_rest further
      rw [List.forall_mem_singleton]
      rfl
  | _ => omega

/-- What a storey is in the end, by its fate. -/
structure StoreyEnds (storey done : Shape K) : Prop where
  position_eq : done.position = storey.position
  depth_eq : done.depth = storey.depth + 1
  fulfilled : match storey.fate with
    | .keep => done.kind = storey.kind ∧ done.status = .finished
    | .column => done.kind = .column ∧ done.status = .finished
    | .removed => done.kind = storey.kind ∧ done.status = .removed

omit [Scalar D] [Narrowing D K] in
theorem storeyEnds_meetFate (storey : Shape K) :
    StoreyEnds storey storey.deepen.meetFate := by
  have fate : storey.deepen.fate = storey.fate := rfl
  rw [Shape.meetFate, fate]
  constructor
  · cases storey.fate <;> rfl
  · cases storey.fate <;> rfl
  · cases storey.fate <;> exact ⟨rfl, rfl⟩

theorem unfolds_storey (isHouse : shape.kind = .house) (active : shape.status = .active)
    (isStorey : shape.depth = 4)
    (unfolds : Growth.Unfolds (Shape.Renews allowed) (count + 2) shape block) :
    ∃ done, block = [done] ∧ StoreyEnds shape done := by
  obtain ⟨parts, blocks, renews, further, rfl⟩ := unfolds
  cases becomes_of_renews isHouse active renews with
  | fated =>
      refine ⟨shape.deepen.meetFate, ?_, storeyEnds_meetFate shape⟩
      apply Growth.flatten_eq_of_rest further
      rw [List.forall_mem_singleton]
      exact Shape.not_expands_of_settled (Shape.isSettled_meetFate _)
  | faced _ undecided facade =>
      obtain ⟨rest, _, unfoldsRest, none, rfl⟩ := List.forall₂_cons_left_iff.mp further
      cases none
      have deep : 4 < shape.deepen.depth := by
        rw [Shape.depth_deepen, isStorey]
        decide
      have finished : rest = [Shape.finish { shape.deepen with facade := facade }] :=
        unfolds_deep isHouse active deep unfoldsRest
      rw [List.flatten_singleton]
      refine ⟨_, finished, rfl, rfl, ?_⟩
      rw [undecided]
      exact ⟨rfl, rfl⟩
  | _ => omega

/-- A roof is finished, and may be given a chimney. -/
theorem unfolds_roof (isRoof : shape.kind = .roof) (active : shape.status = .active)
    (unfolds : Growth.Unfolds (Shape.Renews allowed) (count + 1) shape block) :
    ∃ chimneys, block = shape.finish :: chimneys ∧ chimneys.length ≤ 1 ∧
      ∀ chimney ∈ chimneys,
        chimney.kind = .house ∧ chimney.status = .finished ∧ chimney.depth = 5 := by
  obtain ⟨parts, blocks, renews, further, rfl⟩ := unfolds
  have expands : shape.expands = true := by
    simp [Shape.expands, Shape.isSettled, active, isRoof]
  have becomes := renews.becomes expands
  rw [isRoof] at becomes
  cases becomes with
  | finished =>
      refine ⟨[], ?_, Nat.zero_le 1, List.forall_mem_nil _⟩
      apply Growth.flatten_eq_of_rest further
      rw [List.forall_mem_singleton]
      rfl
  | @crowned _ paint far sided furtherDraw side =>
      let chimney := chimney shape.finish paint (shiftOf far sided)
        (shiftOf furtherDraw side)
      refine ⟨[chimney], ?_, List.length_singleton.le, ?_⟩
      · apply Growth.flatten_eq_of_rest further
        rw [List.forall_mem_cons, List.forall_mem_singleton]
        exact ⟨rfl, rfl⟩
      · rw [List.forall_mem_singleton]
        exact ⟨rfl, rfl, rfl⟩

/-! ### Stacks -/

section Stack

variable (plan : StackPlan)

omit [Scalar D] [Narrowing D K] in
/-- What is decided for a storey, and where it can be. -/
theorem exists_fate_of_storey (cell : Shape K) (undecided : cell.fate = .keep)
    (number : Nat) :
    ∃ fate, plan.storey cell number = withFate fate (plan.floor cell number) ∧
      (fate = .column → number = 0) ∧
      (fate = .removed → number ≠ 0 ∧ number + 1 = plan.roofAt) := by
  rw [StackPlan.storey]
  split
  · next raised => exact ⟨.column, rfl, fun _ => raised.2, by simp⟩
  · split
    · next opened =>
        have between := plan.opened_between opened.1
        exact ⟨.removed, rfl, by simp, fun _ => ⟨by omega, opened.2⟩⟩
    · have keep : (plan.floor cell number).fate = .keep := by
        rw [StackPlan.floor, Shape.fate_piece, undecided]
      refine ⟨.keep, ?_, by simp, by simp⟩
      rw [withFate, ← keep]

omit [Scalar D] [Narrowing D K] in
theorem position_piece_deepen (cell : Shape K) (axis : Axis) (count number : Nat) :
    (cell.deepen.piece axis count number).position =
      (cell.piece axis count number).position := by
  rw [Shape.piece, Shape.piece]
  split <;> rfl

omit [Scalar D] [Narrowing D K] in
theorem status_roof (cell : Shape K) : (plan.roof cell).status = .active := by
  rw [StackPlan.roof, roofOver]
  cases plan.turned <;> rfl

omit [Scalar D] [Narrowing D K] in
theorem isRoof_finish (cell : Shape K) : IsRoof (plan.roof cell).finish := by
  constructor
  · exact kind_roofOver _ _
  · rfl
  · rw [StackPlan.roof, roofOver]
    cases plan.turned <;> rfl
  · rfl

variable {cell : Shape K} (isCell : IsHouseAt 2 cell)

include isCell

omit [Scalar D] [Narrowing D K] in
theorem isHouseAt_floor (number : Nat) :
    IsHouseAt 4 (plan.floor cell.deepen number) :=
  isCell.deepen.piece .y plan.count number

omit [Scalar D] [Narrowing D K] in
theorem isStoreyOf_of_ends {number : Nat} {storey : Shape K}
    (ends : StoreyEnds (plan.storey cell.deepen number) storey) :
    IsStoreyOf cell plan.count plan.roofAt number storey := by
  have floor := isHouseAt_floor plan isCell number
  obtain ⟨fate, isStorey, columnAt, removedAt⟩ :=
    exists_fate_of_storey plan cell.deepen isCell.undecided number
  rw [isStorey] at ends
  have position := ends.position_eq.trans
    (position_piece_deepen cell .y plan.count number)
  have depth := ends.depth_eq
  have fulfilled := ends.fulfilled
  rw [depth_withFate, floor.depth_eq] at depth
  rw [fate_withFate, kind_withFate, floor.kind_eq] at fulfilled
  have deep : 2 < storey.depth := by
    rw [depth]
    decide
  cases fate with
  | keep => exact ⟨position, deep, Or.inl fulfilled.1, Or.inl fulfilled.2⟩
  | column =>
      exact ⟨position, deep, Or.inr ⟨fulfilled.1, columnAt rfl⟩, Or.inl fulfilled.2⟩
  | removed =>
      exact ⟨position, deep, Or.inl fulfilled.1, Or.inr ⟨fulfilled.2, removedAt rfl⟩⟩

theorem unfolds_storey_of_plan {number : Nat}
    (unfolds : Growth.Unfolds (Shape.Renews allowed) (count + 2)
      (plan.storey cell.deepen number) block) :
    ∃ storey, block = [storey] ∧
      IsStoreyOf cell plan.count plan.roofAt number storey := by
  have floor := isHouseAt_floor plan isCell number
  obtain ⟨fate, isStorey, -⟩ :=
    exists_fate_of_storey plan cell.deepen isCell.undecided number
  rw [isStorey] at unfolds
  obtain ⟨storey, single, ends⟩ := unfolds_storey (by rw [kind_withFate, floor.kind_eq])
    (by rw [status_withFate, floor.status_eq]) (by rw [depth_withFate, floor.depth_eq])
    unfolds
  rw [← isStorey] at ends
  exact ⟨storey, single, isStoreyOf_of_ends plan isCell ends⟩

omit [Scalar D] [Narrowing D K] in
theorem of_mem_above :
    ∀ storey ∈ plan.above cell.deepen,
      storey.kind = .house ∧ storey.status = .removed ∧ storey.depth = 4 := by
  rw [StackPlan.above]
  split
  · have floor := isHouseAt_floor plan isCell (plan.roofAt + 1)
    rw [List.forall_mem_singleton]
    exact ⟨floor.kind_eq, rfl, floor.depth_eq⟩
  · exact List.forall_mem_nil _

omit [Scalar D] [Narrowing D K] in
/-- Settled storeys make a stack with a roof, a chimney if there is one, and the storey
above. -/
theorem isStack_of_rise (few : 3 ≤ plan.count ∧ plan.count ≤ 5)
    {storeys chimneys : List (Shape K)}
    (rise : List.Forall₂ (IsStoreyOf cell plan.count plan.roofAt)
      (List.range plan.roofAt) storeys)
    (chimneysFew : chimneys.length ≤ 1)
    (finished : ∀ chimney ∈ chimneys,
      chimney.kind = .house ∧ chimney.status = .finished ∧ chimney.depth = 5) :
    IsStack cell storeys (plan.roof cell.deepen).finish chimneys
      (plan.above cell.deepen) := by
  have above := of_mem_above plan isCell
  have length : storeys.length = plan.roofAt := by
    rw [← rise.length_eq, List.length_range]
  have counted := plan.length_above cell.deepen
  have high := plan.roof_high
  constructor
  · omega
  · rw [length, counted]
    exact rise
  · exact isRoof_finish plan cell.deepen
  · exact chimneysFew
  · intro chimney isChimney
    obtain ⟨kind, status, -⟩ := finished chimney isChimney
    exact ⟨kind, status⟩
  · omega
  · intro storey isAbove
    obtain ⟨kind, status, -⟩ := above storey isAbove
    exact ⟨kind, status⟩
  · rw [List.forall_mem_append, List.forall_mem_cons, List.forall_mem_append]
    refine ⟨forall_mem_of_forall₂_right rise fun storey => storey.deep, ?_, ?_, ?_⟩
    · change 2 < 4
      decide
    · intro chimney isChimney
      rw [(finished chimney isChimney).2.2]
      decide
    · intro storey isAbove
      rw [(above storey isAbove).2.2]
      decide

/-- Two rounds after a cell was stacked, the stack has settled. -/
theorem unfolds_stack (few : 3 ≤ plan.count ∧ plan.count ≤ 5)
    {blocks : List (List (Shape K))}
    (unfold : List.Forall₂ (Growth.Unfolds (Shape.Renews allowed) (count + 2))
      (plan.stack cell.deepen) blocks) : IsBuiltOn cell blocks.flatten := by
  obtain ⟨ofStoreys, _, rfl, storeysUnfold, roofed⟩ := exists_of_forall₂_append unfold
  obtain ⟨ofRoof, ofAbove, roofUnfolds, aboveUnfold, rfl⟩ :=
    List.forall₂_cons_left_iff.mp roofed
  rw [List.forall₂_map_left_iff] at storeysUnfold
  have rise := exists_related_flatten (storeysUnfold.imp fun _ _ unfolds =>
    unfolds_storey_of_plan plan isCell unfolds)
  have roofKind : (plan.roof cell.deepen).kind = .roof := kind_roofOver _ _
  obtain ⟨chimneys, rfl, chimneysFew, finished⟩ :=
    unfolds_roof roofKind (status_roof plan cell.deepen) roofUnfolds
  have aboveRest : ∀ storey ∈ plan.above cell.deepen, storey.expands = false := by
    intro storey isAbove
    simp [Shape.expands, Shape.isSettled, (of_mem_above plan isCell storey isAbove).2.1]
  rw [List.flatten_append, List.flatten_cons, List.cons_append,
    Growth.flatten_eq_of_rest aboveUnfold aboveRest]
  exact .stacked (isStack_of_rise plan isCell few rise chimneysFew finished)

end Stack

end Rounds

/-! ## The whole house -/

section Whole

variable {K : Type} [Scalar K] {shape : Shape K} {block : List (Shape K)}

theorem crossAxis_piece (undivided : shape.divisions = ⟨0, 0, 0⟩) {axis : Axis}
    (level : axis ≠ .y) (count number : Nat) :
    crossAxis (shape.piece axis count number) = axis.across := by
  rw [crossAxis, Shape.divisions_piece, undivided]
  cases axis with
  | x => rfl
  | y => exact absurd rfl level
  | z => rfl

variable [Narrowing Float K] {count : Nat}

/-- Four rounds after it was divided off, a cell is built on. -/
theorem grown_cell (isCell : IsHouseAt 2 shape)
    (grown : Growth.Grown (count + 4) shape block) : IsBuiltOn shape block := by
  have depth := isCell.depth_eq
  obtain ⟨parts, blocks, renews, further, rfl⟩ := grown
  cases becomes_of_renews isCell.kind_eq isCell.status_eq renews with
  | trimmed _ atCorner =>
      have taken := Growth.flatten_eq_of_rest further (List.forall_mem_singleton.mpr rfl)
      rw [taken]
      exact .trimmed depth atCorner
  | spared =>
      obtain ⟨block, _, ⟨parts, storeys, renewsNext, stacked, rfl⟩, none, rfl⟩ :=
        List.forall₂_cons_left_iff.mp further
      cases none
      have spared := isCell.deepen
      have sparedDepth := spared.depth_eq
      rw [List.flatten_singleton]
      cases becomes_of_renews spared.kind_eq spared.status_eq renewsNext with
      | @stacked _ plan draw below counted =>
          have least := PieceRange.three_le_pieces_standard draw
          have most := (PieceRange.isFair_standard.pieces_bounds .y below).2
          rw [← counted] at least most
          exact unfolds_stack plan isCell ⟨least, most⟩ stacked
      | _ => omega
  | _ => omega

/-- Five rounds after it was divided off, all cells of a strip are built on. -/
theorem grown_strip (isStrip : IsHouseAt 1 shape)
    (grown : Growth.Grown (count + 5) shape block) :
    ∃ cells, (2 ≤ cells ∧ cells ≤ 4) ∧ ∃ blocks,
      List.Forall₂ IsBuiltOn (shape.pieces (crossAxis shape) cells) blocks ∧
      block = blocks.flatten := by
  have depth := isStrip.depth_eq
  obtain ⟨parts, blocks, renews, further, rfl⟩ := grown
  cases becomes_of_renews isStrip.kind_eq isStrip.status_eq renews with
  | @cells _ draw below =>
      have areCells := isStrip.pieces (crossAxis shape)
        (PieceRange.standard.pieces (crossAxis shape) draw)
      have known := (List.forall₂_and_left _ _).mpr ⟨areCells, further⟩
      refine ⟨_, PieceRange.pieces_bounds_of_level (crossAxis_ne_y shape) below, blocks, ?_, rfl⟩
      exact known.imp fun _ _ cell => grown_cell cell.1 cell.2
  | _ => omega

omit [Narrowing Float K] in
/-- The numbers of cells of all strips together. -/
theorem exists_counts {cellsOf : Nat → Nat → List (Shape K)} {numbers : List Nat}
    {groups : List (List (Shape K))}
    (related : List.Forall₂ (fun number group =>
      ∃ count, (2 ≤ count ∧ count ≤ 4) ∧ ∃ blocks,
        List.Forall₂ IsBuiltOn (cellsOf number count) blocks ∧ group = blocks.flatten)
      numbers groups) :
    ∃ counts, counts.length = numbers.length ∧
      (∀ count ∈ counts, 2 ≤ count ∧ count ≤ 4) ∧ ∃ blocks,
        List.Forall₂ IsBuiltOn (List.zipWith cellsOf numbers counts).flatten blocks ∧
        groups.flatten = blocks.flatten := by
  induction related with
  | nil => exact ⟨[], rfl, List.forall_mem_nil _, [], .nil, rfl⟩
  | cons first _ ih =>
      obtain ⟨count, few, blocks, built, rfl⟩ := first
      obtain ⟨counts, length, allFew, others, othersBuilt, joined⟩ := ih
      refine ⟨count :: counts, congrArg (· + 1) length,
        List.forall_mem_cons.mpr ⟨few, allFew⟩, blocks ++ others, ?_, ?_⟩
      · rw [List.zipWith_cons_cons, List.flatten_cons]
        exact List.rel_append built othersBuilt
      · rw [List.flatten_cons, List.flatten_append, joined]

/-- Six rounds build a house on a footprint. -/
theorem grown_house (isHouse : shape.kind = .house) (new : shape.IsNew)
    (grown : Growth.Grown (count + 6) shape block) :
    ∃ footprint : Footprint, ∃ blocks,
      List.Forall₂ IsBuiltOn (footprint.cells shape) blocks ∧ block = blocks.flatten := by
  have depth := new.depth_eq
  have ground : IsHouseAt 0 shape :=
    ⟨isHouse, new.status_eq, new.undecided, new.depth_eq⟩
  obtain ⟨parts, groups, renews, further, rfl⟩ := grown
  cases becomes_of_renews isHouse new.status_eq renews with
  | @strips _ axis level draw below =>
      have few := PieceRange.pieces_bounds_of_level level below
      generalize PieceRange.standard.pieces axis draw = strips at further few
      have areStrips := ground.pieces axis strips
      have known := (List.forall₂_and_left _ _).mpr ⟨areStrips, further⟩
      rw [Shape.pieces, List.forall₂_map_left_iff] at known
      have stripsBuilt := known.imp fun number _ strip =>
        crossAxis_piece new.undivided level strips number ▸ grown_strip strip.1 strip.2
      obtain ⟨counts, length, cellsFew, blocks, built, joined⟩ :=
        exists_counts stripsBuilt
      obtain rfl : counts.length = strips := length.trans List.length_range
      let footprint : Footprint :=
        { along := axis
          counts := counts
          level := level
          strips_few := few
          cells_few := cellsFew }
      exact ⟨footprint, blocks, built, joined⟩
  | _ => omega

omit [Narrowing Float K] in
/-- A house whose cells are built on has settled. -/
theorem isSettledOn_of_built (footprint : Footprint) (ground : IsHouseAt 0 shape)
    (whole : shape.boundary = .full) {blocks : List (List (Shape K))}
    (built : List.Forall₂ IsBuiltOn (footprint.cells shape) blocks) :
    IsSettledOn footprint shape blocks.flatten := by
  have areCells : ∀ cell ∈ footprint.cells shape, IsHouseAt 2 cell := by
    apply footprint.forall_mem_cells
    intro number count place
    have strip := ground.piece footprint.along footprint.counts.length number
    exact strip.piece footprint.along.across count place
  obtain ⟨counted, few⟩ := length_eq_of_built areCells built
  constructor
  · exact ⟨blocks, built, rfl⟩
  · exact footprint.length_cells shape
  · intro number count place
    rw [footprint.atCorner_cell whole]
    simp [Footprint.isEnd]
  · exact footprint.countP_atCorner whole
  · intro piece isPiece _ isCell
    exact exists_corner_of_trimmed built isPiece isCell
  · rw [← footprint.length_cells shape, counted]
  · rwa [footprint.countP_atCorner whole] at few

end Whole

end House

namespace Growth

/-- Whatever the random values are, a fresh house is at rest after six rounds, and once
it is at rest it has settled on a footprint. -/
theorem house_settles_on_footprint {K : Type} [Scalar K] [Narrowing Float K]
    {house : Shape K} {site : Site Float K} (starts : StartsWith site house)
    (isHouse : house.kind = .house) (count : Nat) :
    ∃ later, runFrom site (rounds count) = (.ok (), later) ∧
      (6 ≤ count → later.massing.canGrow = false) ∧
      (later.massing.canGrow = false →
        ∃ footprint, House.IsSettledOn footprint house later.massing.shapes) := by
  have sound : Sound site.massing.shapes.length (320 * site.massing.shapes.length) 6
      site := ⟨Massing.bounded_start _, starts.staysBelowOne⟩
  obtain ⟨later, run, laterSound⟩ := rounds_of_sound count sound
  refine ⟨later, run, ?_, ?_⟩
  · intro enough
    rw [Nat.sub_eq_zero_of_le enough] at laterSound
    exact laterSound.canGrow_eq_false
  · intro rest
    -- Six more rounds change nothing, and after these the house is known to be built.
    obtain ⟨last, lastRun, -, grown⟩ := starts.rounds_grown (count + 6)
    have same := shapes_rounds_of_rest laterSound.stays rest 6
    rw [rounds_add, runFrom_bind_of_ok run] at lastRun
    rw [lastRun] at same
    have new := starts.fresh.isNew
    obtain ⟨footprint, blocks, built, joined⟩ := House.grown_house isHouse new grown
    rw [← same, joined]
    exact ⟨footprint, House.isSettledOn_of_built footprint
      ⟨isHouse, new.status_eq, new.undecided, new.depth_eq⟩ new.whole built⟩

/-- A house that is given the same value over and over. -/
theorem steady_house_settles :
    let stream := DrawStream.start (fun _ => 0.5) .stochastic 0
    let house : Shape Float32 :=
      ((Shape.house Vec3.zero Vec3.zero ⟨8.0, 8.0, 8.0⟩).run stream).1
    let site : Site Float Float32 :=
      { massing := Massing.ofShapes [house] none
        stream := stream }
    StartsWith site house ∧ house.kind = .house ∧
      ∃ later, runFrom site (rounds 6) = (.ok (), later) ∧
        later.massing.canGrow = false ∧
        ∃ footprint, House.IsSettledOn footprint house later.massing.shapes := by
  intro stream house site
  have starts : StartsWith site house := startsWith_steady (.house _ _ _ stream)
  obtain ⟨later, run, rest, settled⟩ := house_settles_on_footprint starts rfl 6
  exact ⟨starts, rfl, later, run, rest (Nat.le_refl 6), settled (rest (Nat.le_refl 6))⟩

end Growth

end GrowthGrammar
