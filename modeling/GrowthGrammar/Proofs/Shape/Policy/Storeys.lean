import Mathlib.Data.List.Basic
import GrowthGrammar.Proofs.Shape.Division
import GrowthGrammar.Shape.Expansion

/-!
# What a house becomes

A house is divided into strips, a strip into cells, and a cell is taken out or
stacked.  A stack is a row of storeys from the ground up, the roof on them, and the
storey above the roof, if the roof was set into a place below.  How a cell is
stacked is up to the random values; the conditions under which anything is decided
for a storey are part of the plan of the stack.
-/

namespace GrowthGrammar.House

variable {D K : Type}

/-! ## Stacks -/

/-- The shape with another fate. -/
def withFate (fate : Fate) (shape : Shape K) : Shape K :=
  { shape with fate := fate }

section WithFate

variable (fate : Fate) (shape : Shape K)

@[simp]
theorem kind_withFate : (withFate fate shape).kind = shape.kind :=
  rfl

@[simp]
theorem depth_withFate : (withFate fate shape).depth = shape.depth :=
  rfl

@[simp]
theorem status_withFate : (withFate fate shape).status = shape.status :=
  rfl

@[simp]
theorem fate_withFate : (withFate fate shape).fate = fate :=
  rfl

end WithFate

/-- How a cell is stacked: into how many storeys it is divided, whose place the roof
takes, and what is decided for the storeys below the roof. -/
structure StackPlan where
  count : Nat
  roofAt : Nat
  turned : Bool
  raised : Bool
  opened : Bool
  roof_high : roofAt + 1 = count ∨ roofAt + 2 = count
  raised_below : raised = true → 0 < roofAt
  opened_between : opened = true → 1 < roofAt

namespace StackPlan

variable [Scalar K] (plan : StackPlan) (cell : Shape K)

/-- A storey of the cell before anything is decided. -/
def floor (number : Nat) : Shape K :=
  cell.piece .y plan.count number

/-- A storey below the roof.  The lowest may be left to columns, and the highest may
be left open. -/
def storey (number : Nat) : Shape K :=
  if plan.raised = true ∧ number = 0 then
    withFate .column (plan.floor cell number)
  else if plan.opened = true ∧ number + 1 = plan.roofAt then
    withFate .removed (plan.floor cell number)
  else
    plan.floor cell number

def roof : Shape K :=
  roofOver plan.turned (plan.floor cell plan.roofAt)

/-- The storey that the roof is set below. -/
def above : List (Shape K) :=
  if plan.roofAt + 2 = plan.count then
    [(plan.floor cell (plan.roofAt + 1)).remove]
  else
    []

omit [Scalar K] in
theorem roofAt_lt : plan.roofAt < plan.count := by
  have high := plan.roof_high
  omega

/-- There is a storey in every place, and one of them is the roof. -/
theorem length_above : plan.roofAt + 1 + (plan.above cell).length = plan.count := by
  rw [above]
  rcases plan.roof_high with highest | lower
  · rw [if_neg (by omega), ← highest]
    rfl
  · rw [if_pos lower, ← lower]
    rfl

/-- The whole stack from the ground up. -/
def stack : List (Shape K) :=
  (List.range plan.roofAt).map (plan.storey cell) ++
    plan.roof cell :: plan.above cell

/-- What stands in the place of a storey. -/
def entry (number : Nat) : Shape K :=
  if number < plan.roofAt then plan.storey cell number
  else if number = plan.roofAt then plan.roof cell
  else (plan.floor cell number).remove

theorem entry_roofAt : plan.entry cell plan.roofAt = plan.roof cell := by
  rw [entry, if_neg (Nat.lt_irrefl _), if_pos rfl]

theorem stack_eq_map_entry :
    plan.stack cell = (List.range plan.count).map (plan.entry cell) := by
  have storeys : (List.range plan.roofAt).map (plan.entry cell) =
      (List.range plan.roofAt).map (plan.storey cell) := by
    apply List.map_congr_left
    intro number below
    rw [entry, if_pos (List.mem_range.mp below)]
  rw [stack, above]
  rcases plan.roof_high with highest | lower
  · have notLower : plan.roofAt + 2 ≠ plan.count := by omega
    rw [if_neg notLower, ← highest, List.range_succ, List.map_append, storeys,
      List.map_singleton, plan.entry_roofAt]
  · have above : plan.entry cell (plan.roofAt + 1) =
        (plan.floor cell (plan.roofAt + 1)).remove := by
      rw [entry, if_neg (by omega), if_neg (Nat.succ_ne_self _)]
    rw [if_pos lower, ← lower, List.range_succ, List.range_succ, List.map_append,
      List.map_append, storeys, List.map_singleton, List.map_singleton, plan.entry_roofAt, above,
      List.append_assoc, List.singleton_append]

/-- Whatever holds of the floors, of the roof, and of a floor with a fate or taken out
holds of the whole stack. -/
theorem forall_mem_stack {holds : Shape K → Prop}
    (floors : ∀ number, holds (plan.floor cell number))
    (roof : holds (plan.roof cell))
    (fated : ∀ fate shape, holds shape → holds (withFate fate shape))
    (removed : ∀ shape, holds shape → holds shape.remove) :
    ∀ part ∈ plan.stack cell, holds part := by
  rw [plan.stack_eq_map_entry, List.forall_mem_map]
  intro number _
  rw [entry]
  split
  · rw [storey]
    split
    · exact fated _ _ (floors number)
    · split
      · exact fated _ _ (floors number)
      · exact floors number
  · split
    · exact roof
    · exact removed _ (floors number)

end StackPlan

/-- A change of one entry of an enumerated list. -/
theorem modify_map_range {α : Type} (entry : Nat → α) (count changed : Nat)
    (change : α → α) :
    ((List.range count).map entry).modify changed change =
      (List.range count).map fun number =>
        if changed = number then change (entry number) else entry number := by
  apply List.ext_getElem?
  intro number
  rw [List.getElem?_modify, List.getElem?_map, List.getElem?_map]
  by_cases inRange : number < count
  · rw [List.getElem?_range inRange]
    by_cases here : changed = number <;> simp [here]
  · rw [List.getElem?_eq_none (by simpa using inRange)]
    rfl

theorem modify_map_range_of {α : Type} (made : Bool) (entry : Nat → α)
    (count changed : Nat) (change : α → α) :
    (if made = true then ((List.range count).map entry).modify changed change
      else (List.range count).map entry) =
      (List.range count).map fun number =>
        if made = true ∧ changed = number then change (entry number)
        else entry number := by
  cases made with
  | false => simp
  | true => simp [modify_map_range]

/-- The changes that are made to the storeys of a cell one after another give the
stack. -/
theorem StackPlan.modified_eq_stack [Scalar K] (plan : StackPlan) (cell : Shape K)
    {lowered : Bool} (isLowered : lowered = true ↔ plan.roofAt + 2 = plan.count) :
    let floors := cell.pieces .y plan.count
    let topped :=
      if lowered = true then floors.modify (plan.count - 1) Shape.remove else floors
    let roofed := topped.modify plan.roofAt (roofOver plan.turned)
    let standing :=
      if plan.raised = true then roofed.modify 0 (withFate .column) else roofed
    (if plan.opened = true then
        standing.modify (plan.roofAt - 1) (withFate .removed)
      else standing) = plan.stack cell := by
  intro floors topped roofed standing
  simp only [standing, roofed, topped, floors, Shape.pieces]
  rw [modify_map_range_of lowered, modify_map_range, modify_map_range_of plan.raised,
    modify_map_range_of plan.opened, stack_eq_map_entry]
  apply List.map_congr_left
  intro number inRange
  rw [List.mem_range] at inRange
  have high := plan.roof_high
  rw [entry]
  by_cases below : number < plan.roofAt
  -- Below the roof only fates are set, and those of two different storeys.
  · have notTopped : ¬ (lowered = true ∧ plan.count - 1 = number) := by omega
    have notRoof : plan.roofAt ≠ number := Nat.ne_of_gt below
    rw [if_pos below, if_neg notTopped, if_neg notRoof, storey, floor]
    by_cases raised : plan.raised = true ∧ number = 0
    · have notOpened : ¬ (plan.opened = true ∧ plan.roofAt - 1 = number) := by
        rintro ⟨opened, isHighest⟩
        have between := plan.opened_between opened
        omega
      rw [if_neg notOpened, if_pos raised, if_pos ⟨raised.1, raised.2.symm⟩]
    · have notRaised : ¬ (plan.raised = true ∧ 0 = number) :=
        fun isRaised => raised ⟨isRaised.1, isRaised.2.symm⟩
      have highest : plan.roofAt - 1 = number ↔ number + 1 = plan.roofAt := by omega
      simp only [notRaised, raised, highest, if_false]
  · have notRaised : ¬ (plan.raised = true ∧ 0 = number) := by
      rintro ⟨raised, rfl⟩
      exact below (plan.raised_below raised)
    have notOpened : ¬ (plan.opened = true ∧ plan.roofAt - 1 = number) := by
      rintro ⟨opened, isHighest⟩
      have between := plan.opened_between opened
      omega
    rw [if_neg below, if_neg notOpened, if_neg notRaised]
    by_cases atRoof : number = plan.roofAt
    · have notTopped : ¬ (lowered = true ∧ plan.count - 1 = number) := by
        rw [isLowered]
        omega
      rw [if_pos atRoof, if_pos atRoof.symm, if_neg notTopped, roof, floor, atRoof]
    · have topped : lowered = true ∧ plan.count - 1 = number := by
        rw [isLowered]
        omega
      rw [if_neg atRoof, if_neg (Ne.symm atRoof), if_pos topped, floor]

/-- Whatever is chosen for a cell, there is a plan for it. -/
theorem exists_plan {count roofAt : Nat} {lowered : Bool} (several : 2 ≤ count)
    (roofIs : (if lowered = true then count - 1 - 1 else count - 1) = roofAt)
    (turned : Bool) {raised opened : Bool} (raises : raised = true → 0 < roofAt)
    (opens : opened = true → 1 < roofAt) :
    ∃ plan : StackPlan, plan.count = count ∧ plan.roofAt = roofAt ∧
      plan.turned = turned ∧ plan.raised = raised ∧ plan.opened = opened ∧
      (lowered = true ↔ plan.roofAt + 2 = plan.count) := by
  have high : lowered = true ∧ roofAt + 2 = count ∨
      lowered = false ∧ roofAt + 1 = count := by
    subst roofIs
    cases lowered with
    | false => exact Or.inr ⟨rfl, Nat.sub_add_cancel (Nat.le_of_succ_le several)⟩
    | true => exact Or.inl ⟨rfl, Nat.sub_add_cancel several⟩
  let plan : StackPlan :=
    { count := count
      roofAt := roofAt
      turned := turned
      raised := raised
      opened := opened
      roof_high := high.symm.imp And.right And.right
      raised_below := raises
      opened_between := opens }
  refine ⟨plan, rfl, rfl, rfl, rfl, rfl, ?_⟩
  rcases high with ⟨rfl, below⟩ | ⟨rfl, highest⟩
  · exact iff_of_true rfl below
  · exact iff_of_false Bool.false_ne_true (by simp [plan, ← highest])

/-! ## Houses -/

section Houses

variable [Scalar D] [Scalar K]

/-- The axis along which a strip is divided. -/
def crossAxis (strip : Shape K) : Axis :=
  if 0 < strip.divisions.x then .z else .x

omit [Scalar K] in
theorem crossAxis_ne_y (strip : Shape K) : crossAxis strip ≠ .y := by
  rw [crossAxis]
  split <;> simp

/-- What decides a plan: the value drawn for the cell, whether the roof is set below the
highest storey; the next value of a stream, how many storeys there are; and the value
behind it, whether the roof is turned. -/
structure StackPlan.IsDrawn (plan : StackPlan) (draw : D) (stream : DrawStream D) :
    Prop where
  count_eq : plan.count = PieceRange.standard.pieces .y stream.value
  lowered_iff : plan.roofAt + 2 = plan.count ↔ draw < 0.4
  turned_iff : plan.turned = true ↔ 0.5 < stream.advance.value

/-- What a house that expands can become.  Numbers of pieces follow from allowed
values. -/
inductive Becomes (allowed : D → Prop) (shape : Shape K) : List (Shape K) → Prop where
  | strips (isGround : shape.depth = 0) {axis : Axis} (level : axis ≠ .y) {draw : D}
      (drawn : allowed draw) :
      Becomes allowed shape
        (shape.pieces axis (PieceRange.standard.pieces axis draw))
  | cells (isStrip : shape.depth = 1) {draw : D} (drawn : allowed draw) :
      Becomes allowed shape
        (shape.pieces (crossAxis shape)
          (PieceRange.standard.pieces (crossAxis shape) draw))
  /-- A corner cell is taken out. -/
  | trimmed (isCell : shape.depth = 2) (atCorner : shape.atCorner = true) :
      Becomes allowed shape [shape.remove]
  | spared (isCell : shape.depth = 2) : Becomes allowed shape [shape.deepen]
  | stacked (isCell : shape.depth = 3) (plan : StackPlan) {draw : D}
      (drawn : allowed draw)
      (counted : plan.count = PieceRange.standard.pieces .y draw) :
      Becomes allowed shape (plan.stack shape)
  /-- The fate of a storey is carried out. -/
  | fated (isStorey : shape.depth = 4) (decided : shape.fate ≠ .keep) :
      Becomes allowed shape [shape.deepen.meetFate]
  | faced (isStorey : shape.depth = 4) (undecided : shape.fate = .keep)
      (facade : Facade) :
      Becomes allowed shape [{ shape.deepen with facade := facade }]
  | finished (isDone : 4 < shape.depth) : Becomes allowed shape [shape.finish]

variable {fits : DrawStream D → Prop} {allowed : D → Prop} {shape : Shape K}
  (values : DeliversFrom fits Drawn.value allowed)

include values

omit values in
/-- What has a chance happens only where the question arises. -/
theorem exists_runFrom_chance (arises : Bool) (bound : D) (stream : DrawStream D) :
    ∃ happens taken, runFrom stream (chance arises bound) =
        (.ok happens, stream.after taken) ∧ (happens = true → arises = true) := by
  cases arises with
  | true => exact ⟨stream.value < bound, 1, rfl, fun _ => rfl⟩
  | false => exact ⟨false, 0, rfl, id⟩

omit values in
/-- A cell is stacked by a plan that the random values decide. -/
theorem exists_runFrom_stackStoreys (cell : Shape K) (draw : D) (stream : DrawStream D) :
    ∃ plan taken, runFrom stream (stackStoreys cell draw) =
        (.ok (StackPlan.stack plan cell), stream.after taken) ∧
      plan.IsDrawn draw stream := by
  have several : 2 ≤ PieceRange.standard.pieces .y stream.value :=
    PieceRange.standard.least_le_pieces .y stream.value
  have divided := Shape.runFrom_divide stream cell .y PieceRange.standard
  generalize counted : PieceRange.standard.pieces .y stream.value = count
    at several divided
  rw [if_neg (by omega)] at divided
  have taken : stream.advance.advance = stream.after 2 := rfl
  rw [stackStoreys, runFrom_bind_of_ok divided, Shape.length_pieces,
    runFrom_bind_of_ok (Drawn.runFrom_value stream.advance), taken]
  dsimp only
  have isLow : decide (draw < 0.4 ∧ 0 < count - 1) = true ↔ draw < 0.4 := by
    rw [decide_eq_true_eq]
    exact and_iff_left (by omega)
  generalize decide (draw < 0.4 ∧ 0 < count - 1) = lowered at isLow ⊢
  generalize roofIs :
    (if lowered = true then count - 1 - 1 else count - 1) = roofAt
  obtain ⟨raised, first, raisedRun, raises⟩ :=
    exists_runFrom_chance (decide (0 < roofAt)) 0.15 (stream.after 2)
  obtain ⟨opened, second, openedRun, opens⟩ :=
    exists_runFrom_chance (decide (1 < roofAt)) 0.1 (stream.after (2 + first))
  rw [DrawStream.after_after] at raisedRun openedRun
  rw [decide_eq_true_eq] at raises opens
  rw [runFrom_bind_of_ok raisedRun, runFrom_bind_of_ok openedRun]
  obtain ⟨plan, rfl, rfl, isTurned, rfl, rfl, isLowered⟩ :=
    exists_plan several roofIs (decide (0.5 < stream.advance.value)) raises opens
  have stacked := plan.modified_eq_stack cell isLowered
  rw [isTurned] at stacked
  refine ⟨plan, 2 + first + second, ?_, ?_⟩
  · rw [← apply_ite pure, runFrom_pure]
    exact congrArg (fun stack => (Except.ok stack, _)) stacked
  · exact
      { count_eq := counted.symm
        lowered_iff := isLowered.symm.trans isLow
        turned_iff := by rw [isTurned, decide_eq_true_eq] }

theorem stackStoreys_deliversFrom (isCell : shape.depth = 3) (draw : D) :
    DeliversFrom fits (stackStoreys shape draw) (Becomes allowed shape) := by
  intro stream fitting
  obtain ⟨plan, taken, run, drawn⟩ := exists_runFrom_stackStoreys shape draw stream
  have isAllowed := (Drawn.deliversFrom_value_iff.mp values fitting).2
  exact ⟨plan.stack shape, stream.after taken, run, Drawn.fits_after values fitting taken,
    .stacked isCell plan isAllowed drawn.count_eq⟩

omit values in
theorem trimCorner_deliversFrom (isCell : shape.depth = 2) (draw : D) :
    DeliversFrom fits (trimCorner shape draw) (Becomes allowed shape) := by
  rw [trimCorner]
  split
  · next corner => exact .pure (.trimmed isCell corner.2)
  · exact .pure (.spared isCell)

theorem finishStorey_deliversFrom (isStorey : shape.depth = 4) (draw : D) :
    DeliversFrom fits (finishStorey shape draw) (Becomes allowed shape) := by
  rw [finishStorey]
  split
  · next decided => exact .pure (.fated isStorey decided)
  · next undecided =>
      rw [not_not] at undecided
      apply values.bind
      intro window _
      dsimp only
      generalize (if shape.boundary.bottom = true then (0.2 : D) else 0.0) = bias
      split
      · exact .pure (.faced isStorey undecided _)
      · exact .pure (.faced isStorey undecided shape.facade)

/-- A house that expands becomes one of these. -/
theorem expand_deliversFrom [Narrowing D K] (isHouse : shape.kind = .house)
    (active : shape.isSettled = false) (draw : D) :
    DeliversFrom fits (shape.expand draw) (Becomes allowed shape) := by
  rw [Shape.expand, if_neg (by simp [active]), isHouse]
  dsimp only [Kind.step]
  match depth : shape.depth with
  | 0 =>
      apply (Shape.divide_deliversFrom values shape _ (by decide)).weaken
      rintro _ ⟨count, drawn, rfl⟩
      apply Becomes.strips depth _ drawn
      split <;> exact nofun
  | 1 =>
      apply (Shape.divide_deliversFrom values shape _ (by decide)).weaken
      rintro _ ⟨count, drawn, rfl⟩
      exact .cells depth drawn
  | 2 => exact trimCorner_deliversFrom depth draw
  | 3 => exact stackStoreys_deliversFrom values depth draw
  | 4 => exact finishStorey_deliversFrom values depth draw
  | deep + 5 => exact .pure (.finished (by omega))

end Houses

/-! ## Roofs -/

section Roofs

variable [Scalar D] [Scalar K] [Narrowing D K]

/-- The shift of a chimney that two values ask for, in widths of the chimney. -/
def shiftOf (far sided : D) : K :=
  (0.75 + 0.75 * Narrowing.narrow far) * if 0.5 < sided then 1.0 else -1.0

/-- The chimney of a colour that stands at two shifts from the middle of a roof. -/
def chimney (roof : Shape K) (paint : D) (aside along : K) : Shape K :=
  let width := Scalar.least roof.extents.x roof.extents.z * 0.2
  { roof.withKind .house with
    color := Shape.houseColor paint
    extents := { roof.extents with x := width, z := width }
    position :=
      { roof.position with
        x := roof.position.x + width * aside
        z := roof.position.z + width * along }
    status := .finished
    depth := 5 }

/-- What a roof that expands can become. -/
inductive RoofBecomes (allowed : D → Prop) (shape : Shape K) :
    List (Shape K) → Prop where
  | finished : RoofBecomes allowed shape [shape.finish]
  | crowned (isTop : shape.depth = 4) {paint far sided further side : D}
      (painted : allowed paint) (aside : allowed far ∧ allowed sided)
      (along : allowed further ∧ allowed side) :
      RoofBecomes allowed shape
        [shape.finish,
          chimney shape.finish paint (shiftOf far sided) (shiftOf further side)]

/-- A chimney takes five values, the first for its colour. -/
theorem runFrom_chimneyOn (roof : Shape K) (stream : DrawStream D) :
    runFrom stream (chimneyOn roof) =
      (.ok (chimney roof stream.value
          (shiftOf (stream.after 1).value (stream.after 2).value)
          (shiftOf (stream.after 3).value (stream.after 4).value)),
        stream.after 5) :=
  rfl

/-- A roof is finished, and the value drawn for it decides whether it has a chimney. -/
theorem runFrom_finishRoof (shape : Shape K) (draw : D) (stream : DrawStream D) :
    runFrom stream (finishRoof shape draw) =
      if 0.3 ≤ draw then (.ok [shape.finish], stream)
      else
        (.ok [shape.finish, chimney shape.finish stream.value
            (shiftOf (stream.after 1).value (stream.after 2).value)
            (shiftOf (stream.after 3).value (stream.after 4).value)],
          stream.after 5) := by
  rw [finishRoof]
  split
  · rfl
  · rw [runFrom_bind_of_ok (runFrom_chimneyOn shape.finish stream)]
    rfl

variable {fits : DrawStream D → Prop} {allowed : D → Prop} {shape : Shape K}
  (values : DeliversFrom fits Drawn.value allowed)

include values

theorem finishRoof_deliversFrom (isTop : shape.depth = 4) (draw : D) :
    DeliversFrom fits (finishRoof shape draw) (RoofBecomes allowed shape) := by
  intro stream fitting
  have run := runFrom_finishRoof shape draw stream
  split at run
  · exact ⟨_, _, run, fitting, .finished⟩
  · have isAllowed : ∀ count, allowed (stream.after count).value := fun count =>
      (Drawn.deliversFrom_value_iff.mp values (Drawn.fits_after values fitting count)).2
    exact ⟨_, _, run, Drawn.fits_after values fitting 5,
      .crowned isTop (isAllowed 0) ⟨isAllowed 1, isAllowed 2⟩ ⟨isAllowed 3, isAllowed 4⟩⟩

omit values in
theorem expand_roof (isRoof : shape.kind = .roof) (active : shape.isSettled = false)
    (isTop : shape.depth = 4) (draw : D) : shape.expand draw = finishRoof shape draw := by
  rw [Shape.expand, if_neg (by simp [active]), isRoof, isTop]
  rfl

/-- A roof that expands becomes one of these. -/
theorem expand_roof_deliversFrom (isRoof : shape.kind = .roof)
    (active : shape.isSettled = false) (draw : D) :
    DeliversFrom fits (shape.expand draw) (RoofBecomes allowed shape) := by
  by_cases isTop : shape.depth = 4
  · rw [expand_roof isRoof active isTop]
    exact finishRoof_deliversFrom values isTop draw
  · have noStep : roofStep (D := D) (K := K) shape.depth = none := by
      rw [roofStep.eq_def]
      split
      · contradiction
      · rfl
    rw [Shape.expand, if_neg (by simp [active]), isRoof]
    dsimp only [Kind.step]
    rw [noStep]
    exact .pure .finished

end Roofs

end GrowthGrammar.House
