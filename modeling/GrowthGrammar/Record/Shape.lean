import GrowthGrammar.City
import GrowthGrammar.Record.Drawing

/-!
# Stored shapes and city plans

The stored forms of shapes, of all that they are made of, and of city plans.
Missing entries of a plan take their standard values.
-/

namespace GrowthGrammar

instance : Recorded Axis where
  encode
    | .x => .text "X"
    | .y => .text "Y"
    | .z => .text "Z"
  decode document :=
    match document.caseName with
    | some "X" => some .x
    | some "Y" => some .y
    | some "Z" => some .z
    | _ => none

instance : Recorded Side where
  encode
    | .min => .text "Min"
    | .max => .text "Max"
  decode document :=
    match document.caseName with
    | some "Min" => some .min
    | some "Max" => some .max
    | _ => none

instance : Recorded Face where
  encode
    | .left => .text "Left"
    | .right => .text "Right"
    | .bottom => .text "Bottom"
    | .top => .text "Top"
    | .back => .text "Back"
    | .front => .text "Front"
  decode document :=
    match document.caseName with
    | some "Left" => some .left
    | some "Right" => some .right
    | some "Bottom" => some .bottom
    | some "Top" => some .top
    | some "Back" => some .back
    | some "Front" => some .front
    | _ => none

/-- A boundary is stored as six flags in the order of the faces. -/
instance : Recorded Boundary where
  encode boundary := encode (Face.all.map boundary.touches)
  decode document := do
    let [left, right, bottom, top, back, front] ← decode document | none
    return ⟨left, right, bottom, top, back, front⟩

instance : Recorded Status where
  encode
    | .active => .text "Active"
    | .finished => .text "Terminal"
    | .removed => .text "Deleted"
  decode document :=
    match document.caseName with
    | some "Active" => some .active
    | some "Terminal" => some .finished
    | some "Deleted" => some .removed
    | _ => none

instance : Recorded Fate where
  encode
    | .keep => .text "Keep"
    | .column => .text "Column"
    | .removed => .text "Deleted"
  decode document :=
    match document.caseName with
    | some "Keep" => some .keep
    | some "Column" => some .column
    | some "Deleted" => some .removed
    | _ => none

instance : Recorded TowerForm where
  encode form :=
    .record
      [("round", encode form.round),
        ("alternating", encode form.banded)]
  decode document := do
    let [round, banded] ← document.fields ["round", "alternating"] | none
    return ⟨← required round, ← required banded⟩

instance : Recorded Kind where
  encode
    | .tower form => .ofCase "Tower" (encode form)
    | .block => .text "Block"
    | .house => .text "House"
    | .roof => .text "Roof"
    | .spike => .text "Spike"
    | .column => .text "Column"
  decode document :=
    match document.case with
    | some ("Tower", some content) => return .tower (← decode content)
    | _ =>
        match document.caseName with
        | some "Block" => some .block
        | some "House" => some .house
        | some "Roof" => some .roof
        | some "Spike" => some .spike
        | some "Column" => some .column
        | _ => none

instance : Recorded PieceRange where
  encode range :=
    .record
      [("min", encode range.least),
        ("range", encode range.spread),
        ("odd_only", encode range.onlyOdd),
        ("vertical_bonus", encode range.extraUpwards)]
  decode document := do
    let [least, spread, onlyOdd, extraUpwards] ←
      document.fields ["min", "range", "odd_only", "vertical_bonus"]
      | none
    return {
      least := ← required least
      spread := ← required spread
      onlyOdd := ← required onlyOdd
      extraUpwards := ← required extraUpwards }

instance : Recorded (Shape Float32) where
  encode shape :=
    .record
      [("name", encode shape.name),
        ("kind", encode shape.kind),
        ("position", encode shape.position),
        ("rotation", encode shape.rotation),
        ("scale", encode shape.extents),
        ("depth", encode shape.depth),
        ("status", encode shape.status),
        ("fate", encode shape.fate),
        ("boundary", encode shape.boundary),
        ("subdiv_count", encode shape.divisions),
        ("color", encode shape.tint),
        ("true_color", encode shape.color),
        ("sides", encode shape.sides),
        ("scale_top", encode shape.top),
        ("global_rotation", encode shape.frameRotation),
        ("global_translation", encode shape.framePosition),
        ("facade", encode shape.facade)]
  decode document := do
    let [name, kind, position, rotation, extents, depth, status, fate,
        boundary, divisions, tint, color, sides, top, frameRotation,
        framePosition, facade] ←
      document.fields
        ["name", "kind", "position", "rotation", "scale", "depth", "status",
          "fate", "boundary", "subdiv_count", "color", "true_color", "sides",
          "scale_top", "global_rotation", "global_translation", "facade"]
      | none
    return {
      name := ← required name
      kind := ← required kind
      position := ← required position
      rotation := ← required rotation
      extents := ← required extents
      depth := ← required depth
      status := ← required status
      fate := ← required fate
      boundary := ← required boundary
      divisions := ← required divisions
      tint := ← required tint
      color := ← required color
      sides := ← required sides
      top := ← required top
      frameRotation := ← required frameRotation
      framePosition := ← required framePosition
      facade := ← required facade }

/-- A count of shapes is a natural number of eight bytes. -/
def requiredCount (field : Option Document) : Option Nat :=
  field.bind (decodeBelow UInt64.size)

instance : Recorded (MassingReport Float32) where
  encode report :=
    .record
      [("leaves", encode report.leaves),
        ("terminal", encode report.settled),
        ("deleted", encode report.removed),
        ("placements", encode report.placements),
        ("built_volume", encode report.volume),
        ("budget_exceeded", encode report.overBudget)]
  decode document := do
    let [leaves, settled, removed, placements, volume, overBudget] ←
      document.fields
        ["leaves", "terminal", "deleted", "placements", "built_volume",
          "budget_exceeded"]
      | none
    return {
      leaves := ← requiredCount leaves
      settled := ← requiredCount settled
      removed := ← requiredCount removed
      placements := ← requiredCount placements
      volume := ← required volume
      overBudget := ← required overBudget }

instance : Recorded Density where
  encode
    | .low => .text "Low"
    | .medium => .text "Medium"
    | .high => .text "High"
  decode document :=
    match document.caseName with
    | some "Low" => some .low
    | some "Medium" => some .medium
    | some "High" => some .high
    | _ => none

instance : Recorded CityPlan where
  encode plan :=
    .record
      [("grid", encode plan.grid),
        ("half_extent", encode plan.halfSide),
        ("noise_frequency", encode plan.frequency),
        ("footprint", encode plan.footprint),
        ("house_height", encode plan.houseRise),
        ("block_height", encode plan.blockRise),
        ("tower_height", encode plan.towerRise),
        ("max_rounds", encode plan.rounds),
        ("max_placements", encode (α := Option Nat) plan.budget)]
  decode document := do
    let [grid, halfSide, frequency, footprint, houseRise, blockRise,
        towerRise, rounds, budget] ←
      document.fields
        ["grid", "half_extent", "noise_frequency", "footprint",
          "house_height", "block_height", "tower_height", "max_rounds",
          "max_placements"]
      | none
    let standard := CityPlan.standard
    return {
      grid := ← withDefault standard.grid grid
      halfSide := ← withDefault standard.halfSide halfSide
      frequency := ← withDefault standard.frequency frequency
      footprint := ← withDefault standard.footprint footprint
      houseRise := ← withDefault standard.houseRise houseRise
      blockRise := ← withDefault standard.blockRise blockRise
      towerRise := ← withDefault standard.towerRise towerRise
      rounds := ← withDefault standard.rounds rounds
      budget := ← withDefault (α := Option Nat) standard.budget budget }

end GrowthGrammar
