import GrowthGrammar.Record.Space
import GrowthGrammar.Settings
import GrowthGrammar.Turtle.Basic

/-!
# Stored settings, turtles and scenes

The stored forms of what drawings are made with and made of.  Missing settings
take their standard values.
-/

namespace GrowthGrammar

instance : Recorded DrawMode where
  encode
    | .stochastic => .text "Stochastic"
    | .deterministic => .text "Deterministic"
  decode document :=
    match document.caseName with
    | some "Stochastic" => some .stochastic
    | some "Deterministic" => some .deterministic
    | _ => none

instance : Recorded Palette where
  encode palette :=
    .record
      [("wood", encode palette.wood),
        ("leaf", encode palette.leaf),
        ("fruit", encode palette.fruit)]
  decode document := do
    let [wood, leaf, fruit] ← document.fields ["wood", "leaf", "fruit"] | none
    return {
      wood := ← required wood
      leaf := ← required leaf
      fruit := ← required fruit }

instance : Recorded Settings where
  encode settings :=
    .record
      [("iterations", encode settings.passes),
        ("random_mode", encode settings.mode),
        ("seed", encode settings.seed),
        ("palette", encode settings.palette),
        ("max_stack_depth", encode settings.stackLimit),
        ("max_placements", encode (α := Option Nat) settings.budget),
        ("branch_sides", encode settings.sides),
        ("taper", encode settings.taper)]
  decode document := do
    let [passes, mode, seed, palette, stackLimit, budget, sides, taper] ←
      document.fields
        ["iterations", "random_mode", "seed", "palette", "max_stack_depth",
          "max_placements", "branch_sides", "taper"]
      | none
    let standard := Settings.standard
    return {
      passes := ← withDefault standard.passes passes
      mode := ← withDefault standard.mode mode
      seed := ← withDefault standard.seed seed
      palette := ← withDefault standard.palette palette
      stackLimit :=
        ← match stackLimit with
          | some document => decodeBelow UInt64.size document
          | none => some standard.stackLimit
      budget := ← withDefault (α := Option Nat) standard.budget budget
      sides := ← withDefault standard.sides sides
      taper := ← withDefault standard.taper taper }

instance : Recorded Turtle where
  encode turtle :=
    .record
      [("position", encode turtle.position),
        ("orientation", encode turtle.orientation),
        ("scale_top", encode turtle.radius),
        ("depth", encode turtle.depth)]
  decode document := do
    let [position, orientation, radius, depth] ←
      document.fields ["position", "orientation", "scale_top", "depth"]
      | none
    return {
      position := ← required position
      orientation := ← required orientation
      radius := ← required radius
      depth := ← required depth }

instance : Recorded Facade where
  encode
    | .plain => .text "Plain"
    | .windows lit => .ofCase "Windows" (.record [("lit", encode lit)])
  decode document :=
    match document.case with
    | some ("Windows", some content) => do
        let [lit] ← content.namedFields ["lit"] | none
        return .windows (← required lit)
    | _ => if document.caseName = some "Plain" then some .plain else none

instance : Recorded (Prism Float32) where
  encode prism :=
    .record
      [("sides", encode prism.sides),
        ("base_scale", encode prism.base),
        ("top_scale", encode prism.top),
        ("height_scale", encode prism.height),
        ("facade", encode prism.facade)]
  decode document := do
    let [sides, base, top, height, facade] ←
      document.fields
        ["sides", "base_scale", "top_scale", "height_scale", "facade"]
      | none
    return {
      sides := ← required sides
      base := ← required base
      top := ← required top
      height := ← required height
      facade := ← required facade }

instance : Recorded (Call Float32) where
  encode
    | .color rgba => .ofCase "UseColor" (encode rgba)
    | .prism transform prism normalCorrect =>
        .ofCase "Prism"
          (.record
            [("transform", encode transform),
              ("prism", encode prism),
              ("normal_correct", encode normalCorrect)])
    | .plane halfExtents => .ofCase "Plane" (encode halfExtents)
    | .decoration mesh transform =>
        .ofCase "Decoration"
          (.record
            [("mesh", encode mesh),
              ("transform", encode transform)])
  decode document :=
    match document.case with
    | some ("UseColor", some content) => return .color (← decode content)
    | some ("Prism", some content) => do
        let [transform, prism, normalCorrect] ←
          content.namedFields ["transform", "prism", "normal_correct"]
          | none
        return .prism (← required transform) (← required prism)
          (← required normalCorrect)
    | some ("Plane", some content) => return .plane (← decode content)
    | some ("Decoration", some content) => do
        let [mesh, transform] ← content.namedFields ["mesh", "transform"]
          | none
        let mesh ← mesh.bind (decodeBelow UInt16.size)
        return .decoration mesh (← required transform)
    | _ => none

instance : Recorded (Scene Float32) where
  encode scene := .record [("calls", encode scene.calls.toList)]
  decode document := do
    let [calls] ← document.fields ["calls"] | none
    let calls : List (Call Float32) ← required calls
    return ⟨calls.toArray⟩

end GrowthGrammar
