import GrowthGrammar.Proofs.Shape.Ground
import GrowthGrammar.Proofs.Shape.Policy.House

/-!
# What a roof covers

A roof takes the place of a storey and has its centre and its height.  If it is turned, its
horizontal extents are exchanged, but it is given a right angle whatever the angle of the
storey is.  So it covers the ground of the storey only if that one stands straight.
-/

namespace GrowthGrammar.House

/-! ## The roof of a stack -/

/-- How a roof stands over the storey whose place it takes. -/
structure RoofsOver {K : Type} [Scalar K] (turned : Bool) (storey roof : Shape K) :
    Prop where
  position_eq : roof.position = storey.position
  height_eq : roof.extents.y = storey.extents.y
  unturned_eq : turned = false →
    roof.rotation = storey.rotation ∧ roof.extents = storey.extents
  turned_eq : turned = true →
    roof.rotation = { storey.rotation with y := 90.0 } ∧
      roof.extents =
        { storey.extents with
          x := storey.extents.z
          z := storey.extents.x }

theorem roofsOver_roofOver {K : Type} [Scalar K] (turned : Bool) (storey : Shape K) :
    RoofsOver turned storey (roofOver turned storey) := by
  cases turned with
  | false =>
      exact
        { position_eq := rfl
          height_eq := rfl
          unturned_eq := fun _ => ⟨rfl, rfl⟩
          turned_eq := nofun }
  | true =>
      exact
        { position_eq := rfl
          height_eq := rfl
          unturned_eq := nofun
          turned_eq := fun _ => ⟨rfl, rfl⟩ }

/-- The roof is the only roof of a stack. -/
theorem StackPlan.kind_entry_eq_roof_iff {K : Type} [Scalar K] (plan : StackPlan)
    {cell : Shape K} (isHouse : cell.kind = .house) (number : Nat) :
    (plan.entry cell number).kind = .roof ↔ number = plan.roofAt := by
  have floors : ∀ place, (plan.floor cell place).kind = .house := by
    intro place
    rw [floor, Shape.kind_piece, isHouse]
  rw [entry]
  split
  · next below =>
      have storeyKind : (plan.storey cell number).kind = .house := by
        rw [storey]
        split
        · exact floors number
        · split <;> exact floors number
      rw [storeyKind]
      exact iff_of_false (by decide) below.ne
  · split
    · next isRoof => exact iff_of_true (kind_roofOver _ _) isRoof
    · next notRoof =>
        have aboveKind : (plan.floor cell number).remove.kind = .house := floors number
        rw [aboveKind]
        exact iff_of_false (by decide) notRoof

theorem StackPlan.getElem?_stack_eq_some_iff {K : Type} [Scalar K] (plan : StackPlan)
    (cell : Shape K) (number : Nat) (shape : Shape K) :
    (plan.stack cell)[number]? = some shape ↔
      number < plan.count ∧ plan.entry cell number = shape := by
  rw [plan.stack_eq_map_entry, List.getElem?_map]
  by_cases inStack : number < plan.count <;> simp [inStack]

/-- A cell is stacked by a plan that the random values decide. -/
theorem exists_runFrom_expand {D K : Type} [Scalar D] [Scalar K] [Narrowing D K]
    {cell : Shape K} (isHouse : cell.kind = .house) (active : cell.status = .active)
    (isCell : cell.depth = 3) (draw : D) (stream : DrawStream D) :
    ∃ plan next, runFrom stream (cell.expand draw) =
        (.ok (StackPlan.stack plan cell), next) ∧ plan.IsDrawn draw stream := by
  have notSettled : cell.isSettled = false := by
    rw [Shape.isSettled, active, bne_self_eq_false]
  rw [Shape.expand, if_neg (by simp [notSettled]), isHouse, isCell]
  obtain ⟨plan, taken, run, drawn⟩ := exists_runFrom_stackStoreys cell draw stream
  exact ⟨plan, stream.after taken, run, drawn⟩

/-! ## The ground under a roof -/

/-- A storey has the angle and the horizontal extents of its cell. -/
theorem rotation_extents_floor {K : Type} [ExactScalar K] (plan : StackPlan) (cell : Shape K)
    (number : Nat) :
    (plan.floor cell number).rotation = cell.rotation ∧
      (plan.floor cell number).extents.x = cell.extents.x ∧
      (plan.floor cell number).extents.z = cell.extents.z :=
  ⟨cell.rotation_piece .y plan.count number, cell.extents_piece .y plan.count number .x,
    cell.extents_piece .y plan.count number .z⟩

theorem standsLevel_floor {cell : Shape ℝ} (level : cell.StandsLevel) (plan : StackPlan)
    (number : Nat) : (plan.floor cell number).StandsLevel := by
  obtain ⟨rotation, width, length⟩ := rotation_extents_floor plan cell number
  exact
    { pitch_eq := rotation ▸ level.pitch_eq
      roll_eq := rotation ▸ level.roll_eq
      width_pos := width ▸ level.width_pos
      length_pos := length ▸ level.length_pos }

/-- A roof covers the ground of its storey if it is not turned or the storey stands
straight. -/
theorem RoofsOver.ground_eq_iff {turned : Bool} {storey roof : Shape ℝ}
    (roofs : RoofsOver turned storey roof) (level : storey.StandsLevel) :
    roof.ground = storey.ground ↔ turned = false ∨
      (∃ halves : ℤ, storey.rotation.y = 180 * halves) ∨
      (∃ halves : ℤ, storey.rotation.y = 90 + 180 * halves) ∧
        storey.extents.x = storey.extents.z := by
  cases turned with
  | false =>
      obtain ⟨rotation, extents⟩ := roofs.unturned_eq rfl
      exact iff_of_true (Shape.ground_congr roofs.position_eq rotation extents) (Or.inl rfl)
  | true =>
      obtain ⟨rotation, extents⟩ := roofs.turned_eq rfl
      have roofLevel : roof.StandsLevel :=
        { pitch_eq := by rw [rotation, level.pitch_eq]
          roll_eq := by rw [rotation, level.roll_eq]
          width_pos := extents ▸ level.length_pos
          length_pos := extents ▸ level.width_pos }
      have quarter : roof.rotation.y = 90 := by
        rw [rotation]
        norm_num
      rw [roofLevel.ground_eq_of_exchanged roofs.position_eq quarter (by rw [extents])
        (by rw [extents]), level.unturnedGround_eq_iff]
      simp

/-- A cell that stands level is stacked by a plan that the random values decide, and the
only roof of the stack has the centre and the height of the storey whose place it takes.  An
unturned roof has the angle and the extents of this storey; a turned one stands at a right
angle and has the horizontal extents exchanged.  So the roof covers the ground of the storey
if and only if it is not turned, the cell is turned by half turns, or it is turned by half
turns from a right angle and its ground is a square. -/
theorem roof_covers_storey_iff {D : Type} [Scalar D] [Narrowing D ℝ] {cell : Shape ℝ}
    (isHouse : cell.kind = .house) (active : cell.status = .active)
    (isCell : cell.depth = 3) (level : cell.rotation.x = 0 ∧ cell.rotation.z = 0)
    (positive : ∀ axis, 0 < cell.extents.along axis) (draw : D)
    (stream : DrawStream D) :
    ∃ plan next, runFrom stream (cell.expand draw) =
        (.ok (StackPlan.stack plan cell), next) ∧ plan.IsDrawn draw stream ∧
      let storey := plan.floor cell plan.roofAt
      let roof := plan.roof cell
      (∀ number shape, (plan.stack cell)[number]? = some shape →
        (shape.kind = .roof ↔ number = plan.roofAt)) ∧
      (plan.stack cell)[plan.roofAt]? = some roof ∧
      RoofsOver plan.turned storey roof ∧
      (roof.ground = storey.ground ↔ plan.turned = false ∨
        (∃ halves : ℤ, cell.rotation.y = 180 * halves) ∨
        (∃ halves : ℤ, cell.rotation.y = 90 + 180 * halves) ∧
          cell.extents.x = cell.extents.z) := by
  obtain ⟨plan, next, run, drawn⟩ :=
    exists_runFrom_expand isHouse active isCell draw stream
  have cellLevel : cell.StandsLevel :=
    { pitch_eq := level.1
      roll_eq := level.2
      width_pos := positive .x
      length_pos := positive .z }
  have roofs : RoofsOver plan.turned (plan.floor cell plan.roofAt) (plan.roof cell) :=
    roofsOver_roofOver plan.turned _
  refine ⟨plan, next, run, drawn, ?_, ?_, roofs, ?_⟩
  · intro number shape isShape
    obtain ⟨-, rfl⟩ := (plan.getElem?_stack_eq_some_iff cell number shape).mp isShape
    exact plan.kind_entry_eq_roof_iff isHouse number
  · rw [plan.getElem?_stack_eq_some_iff]
    exact ⟨plan.roofAt_lt, plan.entry_roofAt cell⟩
  · obtain ⟨rotation, width, length⟩ := rotation_extents_floor plan cell plan.roofAt
    rw [roofs.ground_eq_iff (standsLevel_floor cellLevel plan plan.roofAt), rotation, width,
      length]

/-- A turned roof on a cell that is itself at a right angle stands as the storey does, but
with the extents exchanged. -/
theorem turned_roof_misses_storey :
    let cell : Shape ℝ :=
      { Shape.ofKind .house Vec3.zero ⟨0, 90, 0⟩ ⟨6, 6, 4⟩ with depth := 3 }
    let stream : DrawStream ℚ := DrawStream.start (fun _ => 3 / 4) .stochastic 0
    ∃ plan next, runFrom stream (cell.expand (9 / 10)) =
        (.ok (StackPlan.stack plan cell), next) ∧
      let storey := plan.floor cell plan.roofAt
      let roof := plan.roof cell
      (plan.stack cell)[plan.roofAt]? = some roof ∧
      roof.rotation.y = storey.rotation.y ∧
      (roof.extents.x ≠ storey.extents.x ∧ roof.extents.z ≠ storey.extents.z) ∧
      roof.ground ≠ storey.ground := by
  intro cell stream
  have isHouse : cell.kind = .house := rfl
  obtain ⟨plan, next, run, drawn⟩ :=
    exists_runFrom_expand isHouse rfl rfl (9 / 10) stream
  have turned : plan.turned = true := drawn.turned_iff.mpr (by decide +kernel)
  have level : cell.StandsLevel :=
    { pitch_eq := rfl
      roll_eq := rfl
      width_pos := by norm_num [cell, Shape.ofKind]
      length_pos := by norm_num [cell, Shape.ofKind] }
  obtain ⟨rotation, width, length⟩ := rotation_extents_floor plan cell plan.roofAt
  have roofs : RoofsOver plan.turned (plan.floor cell plan.roofAt) (plan.roof cell) :=
    roofsOver_roofOver plan.turned _
  obtain ⟨roofRotation, roofExtents⟩ := roofs.turned_eq turned
  have wide : cell.extents.x ≠ cell.extents.z := by norm_num [cell, Shape.ofKind]
  have quarter : ¬ ∃ halves : ℤ, cell.rotation.y = 180 * halves := by
    rintro ⟨halves, isHalf⟩
    have doubled : (90 : ℝ) = 180 * halves := isHalf
    have whole : (1 : ℤ) = 2 * halves := by
      exact_mod_cast (show (1 : ℝ) = 2 * halves by linarith)
    omega
  refine ⟨plan, next, run, ?_⟩
  intro storey roof
  refine ⟨?_, ?_, ⟨?_, ?_⟩, ?_⟩
  · exact (plan.getElem?_stack_eq_some_iff cell _ _).mpr
      ⟨plan.roofAt_lt, plan.entry_roofAt cell⟩
  · have right : (90.0 : ℝ) = 90 := by norm_num
    rw [roofRotation, rotation]
    exact right
  · rw [roofExtents, width, length]
    exact wide.symm
  · rw [roofExtents, width, length]
    exact wide
  · rw [Ne, roofs.ground_eq_iff (standsLevel_floor level plan plan.roofAt), turned, rotation,
      width, length]
    simp [quarter, wide]

/-- A turned roof covers its storey on a cell that is turned by half a turn. -/
theorem turned_roof_covers_storey :
    let cell : Shape ℝ :=
      { Shape.ofKind .house Vec3.zero ⟨0, 180, 0⟩ ⟨6, 6, 4⟩ with depth := 3 }
    let stream : DrawStream ℚ := DrawStream.start (fun _ => 3 / 4) .stochastic 0
    cell.kind = .house ∧ cell.status = .active ∧ cell.depth = 3 ∧
      (cell.rotation.x = 0 ∧ cell.rotation.z = 0) ∧
      (∀ axis, 0 < cell.extents.along axis) ∧
      ∃ plan next, runFrom stream (cell.expand (9 / 10)) =
          (.ok (StackPlan.stack plan cell), next) ∧
        let storey := plan.floor cell plan.roofAt
        let roof := plan.roof cell
        (roof.rotation.y = 90 ∧ roof.extents.x = storey.extents.z) ∧
        roof.ground = storey.ground := by
  intro cell stream
  have positive : ∀ axis, 0 < cell.extents.along axis := by
    rintro (_ | _ | _) <;> norm_num [cell, Shape.ofKind, Vec3.along]
  obtain ⟨plan, next, run, drawn, -, -, roofs, covers⟩ :=
    roof_covers_storey_iff rfl rfl rfl ⟨rfl, rfl⟩ positive (9 / 10 : ℚ) stream
  have turned : plan.turned = true := drawn.turned_iff.mpr (by decide +kernel)
  obtain ⟨rotation, extents⟩ := roofs.turned_eq turned
  refine ⟨rfl, rfl, rfl, ⟨rfl, rfl⟩, positive, plan, next, run, ⟨?_, ?_⟩, ?_⟩
  · rw [rotation]
    norm_num
  · rw [extents]
  · exact covers.mpr (.inr (.inl ⟨1, by norm_num [cell, Shape.ofKind]⟩))

end GrowthGrammar.House
