import GrowthGrammar.Proofs.Massing.Towers

/-!
# Massings are placed and accounted for

No step gives a shape less than three sides, so what has grown from polygons can always
be placed.  Every shape that is not taken out is placed as one prism of its colour, and
the report counts the shapes that are placed, taken out and settled.
-/

namespace GrowthGrammar

/-! ## Sides -/

theorem Kind.three_le_sides (kind : Kind) : 3 ≤ kind.sides := by
  cases kind <;> simp [sides]

namespace Shape

variable {K : Type}

/-- Whether the cross section of the shape is a polygon. -/
def IsSided (shape : Shape K) : Prop :=
  3 ≤ shape.sides

variable [Scalar K]

theorem isSided_withKind (shape : Shape K) (kind : Kind) :
    (shape.withKind kind).IsSided :=
  kind.three_le_sides

@[simp]
theorem sides_piece (shape : Shape K) (axis : Axis) (count number : Nat) :
    (shape.piece axis count number).sides = shape.sides := by
  rw [piece]
  split <;> rfl

theorem IsSided.piece {shape : Shape K} (sided : shape.IsSided) (axis : Axis)
    (count number : Nat) : (shape.piece axis count number).IsSided := by
  rwa [IsSided, sides_piece]

theorem IsSided.pieces {shape : Shape K} (sided : shape.IsSided) (axis : Axis)
    (count : Nat) : ∀ part ∈ shape.pieces axis count, part.IsSided := by
  rw [Shape.pieces, List.forall_mem_map]
  exact fun number _ => sided.piece axis count number

theorem IsSided.meetFate {shape : Shape K} (sided : shape.IsSided) :
    shape.meetFate.IsSided := by
  rw [Shape.meetFate]
  split
  · exact sided
  · exact shape.isSided_withKind .column
  · exact sided

theorem isSided_roofOver (turned : Bool) (storey : Shape K) :
    (House.roofOver turned storey).IsSided := by
  cases turned <;> exact storey.isSided_withKind .roof

end Shape

section Steps

variable {D K : Type} [Scalar D] [Scalar K] {allowed : D → Prop} {shape : Shape K}
  {parts : List (Shape K)}

theorem Block.Becomes.isSided (becomes : Block.Becomes shape parts)
    (sided : shape.IsSided) : ∀ part ∈ parts, part.IsSided := by
  cases becomes with
  | settled => exact List.forall_mem_singleton.mpr sided.meetFate
  | fated => exact List.forall_mem_singleton.mpr sided
  | removed => exact List.forall_mem_singleton.mpr sided
  | divided _ _ axis => exact sided.pieces axis _

/-- Floors have the sides of the form of their tower, whatever the tower had. -/
theorem Tower.isSided_tapered (form : TowerForm) (floors : List (Shape K)) :
    ∀ floor ∈ tapered form floors, floor.IsSided := by
  obtain ⟨inset, isTapered⟩ := exists_tapered_eq form floors
  rw [isTapered]
  intro floor isFloor
  rw [Shape.IsSided, sides_of_mem_taperFloors floor isFloor, formSides]
  split <;> decide

theorem Tower.Becomes.isSided (becomes : Tower.Becomes allowed shape parts)
    (sided : shape.IsSided) : ∀ part ∈ parts, part.IsSided := by
  cases becomes with
  | floors _ form => exact isSided_tapered form _
  | crowned => exact List.forall_mem_singleton.mpr (shape.isSided_withKind .spike)
  | banded =>
      exact forall_mem_insetBands (fun _ _ _ sided => sided) (sided.pieces .y _)
  | plain => exact List.forall_mem_singleton.mpr sided
  | finished => exact List.forall_mem_singleton.mpr sided

namespace House

theorem Becomes.isSided (becomes : House.Becomes allowed shape parts)
    (sided : shape.IsSided) : ∀ part ∈ parts, part.IsSided := by
  cases becomes with
  | strips => exact sided.pieces _ _
  | cells => exact sided.pieces _ _
  | trimmed => exact List.forall_mem_singleton.mpr sided
  | spared => exact List.forall_mem_singleton.mpr sided
  | stacked _ plan =>
      apply plan.forall_mem_stack
      · exact sided.piece .y plan.count
      · exact Shape.isSided_roofOver _ _
      · exact fun _ _ sided => sided
      · exact fun _ sided => sided
  | fated => exact List.forall_mem_singleton.mpr (Shape.IsSided.meetFate sided)
  | faced => exact List.forall_mem_singleton.mpr sided
  | finished => exact List.forall_mem_singleton.mpr sided

theorem RoofBecomes.isSided [Narrowing D K] (becomes : RoofBecomes allowed shape parts)
    (sided : shape.IsSided) : ∀ part ∈ parts, part.IsSided := by
  cases becomes with
  | finished => exact List.forall_mem_singleton.mpr sided
  | crowned =>
      rw [List.forall_mem_cons, List.forall_mem_singleton]
      exact ⟨sided, shape.finish.isSided_withKind .house⟩

end House

/-- What becomes of a polygon is made of polygons. -/
theorem Shape.Renews.isSided [Narrowing D K] (renews : shape.Renews allowed parts)
    (sided : shape.IsSided) : ∀ part ∈ parts, part.IsSided := by
  cases renews with
  | rests => exact List.forall_mem_singleton.mpr sided
  | grows _ becomes =>
      exact becomes.imp (·.isSided sided) (·.isSided sided) (·.isSided sided)
        (·.isSided sided)

end Steps

/-! ## Placing -/

namespace Shape

variable {K : Type}

theorem isSettled_of_isRemoved {shape : Shape K} (removed : shape.isRemoved = true) :
    shape.isSettled = true := by
  have status : shape.status = .removed := by simpa [isRemoved] using removed
  simp [isSettled, status]

variable [Scalar K]

/-- A polygon has an area. -/
theorem IsSided.exists_volume {shape : Shape K} (sided : shape.IsSided) :
    ∃ volume, shape.volume = some volume := by
  have area : ∃ area : K, crossSection shape.sides = some area := by
    rw [crossSection, polygonArea, if_neg (Nat.not_lt.mpr sided)]
    split <;> exact ⟨_, rfl⟩
  obtain ⟨area, isArea⟩ := area
  rw [volume, isArea]
  split <;> exact ⟨_, rfl⟩

/-- The requests that place a shape which is not taken out. -/
def placing (shape : Shape K) : List (Call K) :=
  [.color shape.color, .prism shape.placement shape.prism true]

theorem flatMap_calls (shapes : List (Shape K)) :
    shapes.flatMap calls = (shapes.filter (!·.isRemoved)).flatMap placing := by
  induction shapes with
  | nil => rfl
  | cons shape shapes ih =>
      rw [List.flatMap_cons, ih, calls]
      cases removed : shape.isRemoved <;> simp [removed, placing]

/-- One request for each shape that is not taken out is a placement. -/
theorem countP_placing (shapes : List (Shape K)) :
    (shapes.flatMap placing).countP Call.places = shapes.length := by
  induction shapes with
  | nil => rfl
  | cons shape shapes ih =>
      rw [List.flatMap_cons, List.countP_append, ih, List.length_cons, Nat.add_comm]
      rfl

end Shape

namespace Massing

variable {K : Type} [Scalar K]

/-- A shape is counted by what it is. -/
theorem exists_countShape {shape : Shape K} (sided : shape.IsSided)
    (report : MassingReport K) :
    ∃ volume, countShape report shape = some
      { report with
        settled := report.settled + if shape.isSettled then 1 else 0
        removed := report.removed + if shape.isRemoved then 1 else 0
        placements := report.placements + if !shape.isRemoved then 1 else 0
        volume := volume } := by
  obtain ⟨volume, isVolume⟩ := sided.exists_volume
  rw [countShape, isVolume]
  cases shape.isRemoved <;> exact ⟨_, rfl⟩

theorem exists_foldlM_countShape {shapes : List (Shape K)}
    (sided : ∀ shape ∈ shapes, shape.IsSided) (report : MassingReport K) :
    ∃ volume, shapes.foldlM countShape report = some
      { report with
        settled := report.settled + shapes.countP Shape.isSettled
        removed := report.removed + shapes.countP Shape.isRemoved
        placements := report.placements + shapes.countP (!·.isRemoved)
        volume := volume } := by
  induction shapes generalizing report with
  | nil => exact ⟨report.volume, rfl⟩
  | cons shape shapes ih =>
      rw [List.forall_mem_cons] at sided
      obtain ⟨_, counted⟩ := exists_countShape sided.1 report
      obtain ⟨volume, others⟩ := ih sided.2 _
      refine ⟨volume, ?_⟩
      rw [List.foldlM_cons, counted]
      refine others.trans ?_
      simp only [List.countP_cons, Nat.add_assoc, Nat.add_comm (List.countP _ _)]

/-- The report on polygons counts them by what they are. -/
theorem exists_report (massing : Massing K)
    (sided : ∀ shape ∈ massing.shapes, shape.IsSided) :
    ∃ report, massing.report = some report ∧
      report.leaves = massing.shapes.length ∧
      report.settled = massing.shapes.countP Shape.isSettled ∧
      report.removed = massing.shapes.countP Shape.isRemoved ∧
      report.placements = massing.shapes.countP (!·.isRemoved) ∧
      report.overBudget = massing.budget.isExceededBy report.placements := by
  obtain ⟨volume, counted⟩ := exists_foldlM_countShape sided massing.emptyReport
  rw [report, counted]
  refine ⟨_, rfl, rfl, ?_⟩
  simp [emptyReport]

/-- Whatever the budget, the report is the same but for the budget. -/
theorem report_withBudget (massing : Massing K) (budget : Budget) :
    { massing with budget := budget }.report =
      massing.report.map fun report =>
        { report with overBudget := budget.isExceededBy report.placements } := by
  simp only [report, Option.map_map]
  rfl

end Massing

namespace Growth

variable {D K : Type} [Scalar D] [Scalar K] [Narrowing D K] {start site : Site D K}

/-- Of polygons nothing but polygons is reached. -/
theorem Reaches.isSided (reached : Reaches start site)
    (sided : ∀ shape ∈ start.massing.shapes, shape.IsSided) :
    ∀ shape ∈ site.massing.shapes, shape.IsSided :=
  reached.forall_of_renewed sided fun renews sided => renews.isSided sided

/-- All that is reached from shapes of three sides or more has three sides or more, and
so there is a report on it.  Behind what is in a scene each shape that is not taken out
is placed in turn, by its colour and one prism.  The report counts every shape once, as
placed or as taken out, and among the settled those that are taken out.  The budget has
an effect on nothing but what is reported of it. -/
theorem placing_accounts_for_shapes (reached : Reaches start site)
    (sided : ∀ shape ∈ start.massing.shapes, 3 ≤ shape.sides) :
    let massing := site.massing
    (∀ shape ∈ massing.shapes, 3 ≤ shape.sides) ∧
    (∀ scene : Scene K, (scene.extend massing.calls).calls.toList =
      scene.calls.toList ++
        (massing.shapes.filter (!·.isRemoved)).flatMap fun shape =>
          [.color shape.color, .prism shape.placement shape.prism true]) ∧
    ∃ report, massing.report = some report ∧
      report.leaves = massing.shapes.length ∧
      report.placements = massing.calls.countP Call.places ∧
      report.placements + report.removed = report.leaves ∧
      report.removed ≤ report.settled ∧ report.settled ≤ report.leaves ∧
      report.removed = massing.shapes.countP Shape.isRemoved ∧
      (report.overBudget = true ↔
        ∃ most, massing.budget = some most ∧ most < report.placements) ∧
      ∀ budget, let other := { massing with budget := budget }
        other.calls = massing.calls ∧
          other.report = some
            { report with
              overBudget := budget.isExceededBy report.placements } := by
  intro massing
  have remain := reached.isSided sided
  obtain ⟨report, reported, leaves, settled, removed, placements, overBudget⟩ :=
    massing.exists_report remain
  refine ⟨remain, ?_, report, reported, leaves, ?_, ?_, ?_, ?_, removed, ?_, ?_⟩
  · intro scene
    rw [Scene.extend, Massing.calls, Shape.flatMap_calls, Array.toList_appendList]
    rfl
  · rw [placements, Massing.calls, Shape.flatMap_calls, Shape.countP_placing,
      List.countP_eq_length_filter]
  · rw [placements, removed, leaves, Nat.add_comm]
    simpa using (List.length_eq_countP_add_countP Shape.isRemoved).symm
  · rw [removed, settled]
    exact List.countP_mono_left fun _ _ => Shape.isSettled_of_isRemoved
  · rw [settled, leaves]
    exact List.countP_le_length
  · rw [overBudget]
    exact Budget.isExceededBy_iff _ _
  · intro budget other
    refine ⟨rfl, ?_⟩
    rw [massing.report_withBudget budget, reported]
    rfl

/-- A tower grows its floors beside a block that is taken out.  All but the block are
placed, which is more than the budget allows. -/
theorem floors_placed_beside_removed_block :
    let tower : Shape ℚ :=
      Shape.ofKind (.tower ⟨false, false⟩) Vec3.zero Vec3.zero ⟨9, 9, 9⟩
    let gone : Shape ℚ := (Shape.block Vec3.zero Vec3.zero ⟨1, 1, 1⟩).remove
    let start : Site ℚ ℚ :=
      { massing := Massing.ofShapes [tower, gone] (some 3)
        stream := DrawStream.start (fun _ => 3 / 10) .stochastic 0 }
    let site := (runFrom start round).2
    Reaches start site ∧ (∀ shape ∈ start.massing.shapes, 3 ≤ shape.sides) ∧
      ∃ report, site.massing.report = some report ∧ report.leaves = 8 ∧
        report.placements = 7 ∧ report.removed = 1 ∧ report.overBudget = true := by
  intro tower gone start site
  have reached : Reaches start site := .round .start
  have sided : ∀ shape ∈ start.massing.shapes, 3 ≤ shape.sides := by decide +kernel
  have length : site.massing.shapes.length = 8 := by decide +kernel
  have taken : site.massing.shapes.countP Shape.isRemoved = 1 := by decide +kernel
  have budget : site.massing.budget = some 3 := by decide +kernel
  obtain ⟨-, -, report, reported, leaves, -, once, -, -, removed, overBudget, -⟩ :=
    placing_accounts_for_shapes reached sided
  rw [length] at leaves
  rw [taken] at removed
  have placements : report.placements = 7 := by omega
  refine ⟨reached, sided, report, reported, leaves, placements, removed, ?_⟩
  exact overBudget.mpr ⟨3, budget, by omega⟩

end Growth

end GrowthGrammar
