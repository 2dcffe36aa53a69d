import Mathlib.Algebra.GroupWithZero.Nat
import GrowthGrammar.City
import GrowthGrammar.Proofs.Random.Stream

/-!
# The layout of a city

A layout takes random values for the colours of houses and towers, and for the turns of
houses and blocks.  All else of a building is decided by its cell: its kind, its
extents, its place and its tint, and also how many values it takes.  So two layouts of
one plan have the same buildings but for these colours and turns, whatever the random
streams are, and they move their streams on by the same number of values.
-/

namespace GrowthGrammar

/-! ## What a random value decides -/

/-- The number of random values that a building takes. -/
def Density.draws : Density → Nat
  | .low => 2
  | .medium => 1
  | .high => 1

/-- Whether two buildings agree in all that no random value decides at a density.
Houses and towers have colours of their own, houses and blocks are turned about the
upward axis. -/
structure Density.Agree (density : Density) (first second : Shape Float32) :
    Prop where
  same : second =
    { first with
      color := second.color
      frameRotation := { first.frameRotation with y := second.frameRotation.y } }
  color_eq : density = .medium → second.color = first.color
  yaw_eq : density = .high → second.frameRotation.y = first.frameRotation.y

namespace Density.Agree

variable {density : Density} {first second third : Shape Float32}

theorem symm (agree : density.Agree first second) : density.Agree second first := by
  refine ⟨?_, fun isBlock => (agree.color_eq isBlock).symm,
    fun isTower => (agree.yaw_eq isTower).symm⟩
  rw [agree.same]

theorem trans (agree : density.Agree first second)
    (next : density.Agree second third) : density.Agree first third := by
  refine ⟨?_, fun isBlock => (next.color_eq isBlock).trans (agree.color_eq isBlock),
    fun isTower => (next.yaw_eq isTower).trans (agree.yaw_eq isTower)⟩
  rw [next.same, agree.same]

end Density.Agree

namespace CityPlan

variable (plan : CityPlan)

/-- The terrain at the centre of a cell. -/
def terrainOf (cell : Nat × Nat) : Float32 :=
  plan.terrain (plan.center cell.1 cell.2)

/-- How densely a cell is built. -/
def densityOf (cell : Nat × Nat) : Density :=
  .ofTerrain (plan.terrainOf cell)

/-- The building of a cell as it is planned: in the colour of a fresh shape, and not
turned. -/
def blueprint (cell : Nat × Nat) : Shape Float32 :=
  let center := plan.center cell.1 cell.2
  let terrain := plan.terrainOf cell
  let size (height : Float32) : Vec3 Float32 :=
    ⟨plan.footprint, 1.0 + terrain * height, plan.footprint⟩
  let fresh (kind : Kind) (height : Float32) : Shape Float32 :=
    Shape.ofKind kind Vec3.zero Vec3.zero (size height)
  let building :=
    match plan.densityOf cell with
    | .low =>
        (fresh .house plan.houseRise).withTint ⟨0.4, 0.4, 1.0 - terrain, 1.0⟩
    | .medium =>
        (fresh .block plan.blockRise).withTint ⟨0.4, terrain + 0.23, 0.4, 1.0⟩
    | .high =>
        (fresh (.tower ⟨false, false⟩) plan.towerRise).withTint
          ⟨terrain, 0.4, 0.4, 1.0⟩
  building.inFrame ⟨0.0, 0.0, 0.0⟩ ⟨center.x, building.extents.y * 0.5, center.y⟩

/-- The building of a cell agrees with its blueprint, and takes as many values as the
density says. -/
theorem exists_buildCell (cell : Nat × Nat) (stream : DrawStream Float) :
    ∃ building,
      (plan.buildCell cell.1 cell.2).run stream =
          (building, stream.after (plan.densityOf cell).draws) ∧
        (plan.densityOf cell).Agree (plan.blueprint cell) building := by
  have built : (plan.buildCell cell.1 cell.2).run stream =
      (fun drawn : (Shape Float32 × Float32) × DrawStream Float =>
        let center := plan.center cell.1 cell.2
        (drawn.1.1.inFrame ⟨0.0, drawn.1.2, 0.0⟩
          ⟨center.x, drawn.1.1.extents.y * 0.5, center.y⟩, drawn.2))
        ((plan.building (plan.terrainOf cell)).run stream) := rfl
  simp only [built, blueprint, building, densityOf]
  cases Density.ofTerrain (plan.terrainOf cell) with
  | low => exact ⟨_, rfl, rfl, Density.noConfusion, Density.noConfusion⟩
  | medium => exact ⟨_, rfl, rfl, fun _ => rfl, Density.noConfusion⟩
  | high => exact ⟨_, rfl, rfl, Density.noConfusion, fun _ => rfl⟩

/-! ## All cells -/

/-- The densities of all cells, row by row. -/
def densities : List Density :=
  plan.cells.map plan.densityOf

/-- Cells are built one after another, and each of them agrees with its blueprint. -/
theorem exists_buildings (cells : List (Nat × Nat)) (stream : DrawStream Float) :
    ∃ buildings,
      (cells.mapM fun cell => plan.buildCell cell.1 cell.2).run stream =
          (buildings,
            stream.after ((cells.map plan.densityOf).map Density.draws).sum) ∧
        List.Forall₂
          (fun cell building =>
            (plan.densityOf cell).Agree (plan.blueprint cell) building)
          cells buildings := by
  induction cells generalizing stream with
  | nil => exact ⟨[], rfl, .nil⟩
  | cons cell cells ih =>
      obtain ⟨building, built, agrees⟩ := plan.exists_buildCell cell stream
      obtain ⟨buildings, restBuilt, restAgree⟩ :=
        ih (stream.after (plan.densityOf cell).draws)
      refine ⟨building :: buildings, ?_, .cons agrees restAgree⟩
      have unrolled : ((cell :: cells).mapM fun cell =>
          plan.buildCell cell.1 cell.2).run stream =
            (fun rest : List (Shape Float32) × DrawStream Float =>
              (building :: rest.1, rest.2))
              ((cells.mapM fun cell => plan.buildCell cell.1 cell.2).run
                (stream.after (plan.densityOf cell).draws)) := by
        rw [List.mapM_cons, StateT.run_bind, built]
        rfl
      rw [unrolled, restBuilt, DrawStream.after_after]
      rfl

theorem sum_draws (densities : List Density) :
    (densities.map Density.draws).sum =
      2 * densities.count .low + densities.count .medium + densities.count .high := by
  induction densities with
  | nil => rfl
  | cons density densities ih =>
      rw [List.map_cons, List.sum_cons, ih]
      cases density <;> simp [Density.draws] <;> omega

theorem length_cells : plan.cells.length = plan.grid * plan.grid := by
  simp [cells]

/-- The cells of a number of rows stand one row behind the other. -/
theorem getElem?_rows (rows columns : Nat) {i j : Nat} (row : i < rows)
    (column : j < columns) :
    ((List.range rows).flatMap fun i =>
        (List.range columns).map fun j => (i, j))[i * columns + j]? = some (i, j) := by
  induction rows with
  | zero => contradiction
  | succ rows ih =>
      have before : ((List.range rows).flatMap fun i =>
          (List.range columns).map fun j => (i, j)).length = rows * columns := by
        simp
      rw [List.range_succ, List.flatMap_append, List.getElem?_append, before]
      rcases Nat.lt_succ_iff_lt_or_eq.mp row with earlier | rfl
      · have inside : i * columns + j < rows * columns := by
          calc i * columns + j < i * columns + columns := by omega
            _ = (i + 1) * columns := (Nat.succ_mul i columns).symm
            _ ≤ rows * columns := Nat.mul_le_mul_right columns earlier
        rw [if_pos inside]
        exact ih earlier
      · simp [column]

theorem getElem?_cells (i j : Fin plan.grid) :
    plan.cells[i.val * plan.grid + j.val]? = some (i.val, j.val) :=
  getElem?_rows plan.grid plan.grid i.isLt j.isLt

/-- Two layouts of a plan have a building for every cell of the grid, row by row.  The two
buildings of a cell agree with each other and with the blueprint of the cell in all that
no random value decides: in all but the colour and the turn about the upward axis, in
the colour of blocks, and in the turn of towers.  Both layouts take two values for every
cell of low density and one for every other cell. -/
theorem layout_ignores_random_values (first second : DrawStream Float) :
    let one := plan.layout.run first
    let other := plan.layout.run second
    let draws := 2 * plan.densities.count .low + plan.densities.count .medium
      + plan.densities.count .high
    one.1.length = plan.grid * plan.grid ∧
    other.1.length = plan.grid * plan.grid ∧
    (∀ i j : Fin plan.grid, ∃ building twin,
      one.1[i.val * plan.grid + j.val]? = some building ∧
        other.1[i.val * plan.grid + j.val]? = some twin ∧
        (plan.densityOf (i, j)).Agree (plan.blueprint (i, j)) building ∧
        (plan.densityOf (i, j)).Agree building twin) ∧
    (one.2 = first.after draws ∧ one.2.drawn = first.drawn + draws) ∧
    other.2 = second.after draws ∧ other.2.drawn = second.drawn + draws := by
  intro one other draws
  obtain ⟨buildings, built, agree⟩ := plan.exists_buildings plan.cells first
  obtain ⟨twins, twinsBuilt, twinsAgree⟩ := plan.exists_buildings plan.cells second
  have oneIs : one = (buildings, first.after draws) := by
    rw [← densities, sum_draws] at built
    exact built
  have otherIs : other = (twins, second.after draws) := by
    rw [← densities, sum_draws] at twinsBuilt
    exact twinsBuilt
  rw [oneIs, otherIs]
  refine ⟨agree.length_eq.symm.trans plan.length_cells,
    twinsAgree.length_eq.symm.trans plan.length_cells, ?_,
    ⟨rfl, DrawStream.drawn_after _ _⟩, rfl, DrawStream.drawn_after _ _⟩
  intro i j
  have cell := plan.getElem?_cells i j
  obtain ⟨inside, cellIs⟩ := List.getElem?_eq_some_iff.mp cell
  have insideOne := agree.length_eq ▸ inside
  have insideOther := twinsAgree.length_eq ▸ inside
  have one := agree.get inside insideOne
  have other := twinsAgree.get inside insideOther
  simp only [List.get_eq_getElem, cellIs] at one other
  exact ⟨_, _, List.getElem?_eq_getElem insideOne, List.getElem?_eq_getElem insideOther,
    one, one.symm.trans other⟩

/-- Two seeds give the standard city the same place and the same kind of building in the
fourth cell of its third row. -/
theorem standard_layouts_of_two_seeds :
    let layout := fun seed =>
      (standard.layout.run
        (DrawStream.start (fun _ => 0.5) .deterministic seed)).1
    ∃ building twin, (layout 1)[33]? = some building ∧
      (layout 2)[33]? = some twin ∧ twin.framePosition = building.framePosition ∧
        twin.kind = building.kind ∧ twin.extents = building.extents := by
  intro layout
  obtain ⟨_, _, cells, _⟩ := standard.layout_ignores_random_values
    (DrawStream.start (fun _ => 0.5) .deterministic 1)
    (DrawStream.start (fun _ => 0.5) .deterministic 2)
  obtain ⟨building, twin, first, second, _, agree⟩ :=
    cells ⟨2, by decide⟩ ⟨3, by decide⟩
  refine ⟨building, twin, first, second, ?_⟩
  rw [agree.same]
  exact ⟨rfl, rfl, rfl⟩

end CityPlan

end GrowthGrammar
