import GrowthGrammar.Turtle.Program

/-!
# Running a program

A canvas is all that a running program can change: the branch stack, the random
stream, the scene, the number of placements, and the notes.  A failing request
stops the program, and what was done before it stays done.
-/

namespace GrowthGrammar

/-- The state of a drawing in progress. -/
structure Canvas where
  turtles : BranchStack
  stream : DrawStream Float
  scene : Scene Float32
  /-- The number of placements made by this drawing. -/
  placements : Nat
  /-- The notes recorded so far, in order. -/
  notes : Array Note

/-- A step of a drawing: it changes the canvas, and may fail. -/
abbrev Drawing (α : Type) :=
  ExceptT GrowthError (StateM Canvas) α

namespace Canvas

/-- A canvas with a turtle at the root and no placements. -/
def start (settings : Settings) (stream : DrawStream Float)
    (scene : Scene Float32) (notes : Array Note) : Canvas :=
  { turtles := BranchStack.start Turtle.root settings.stackLimit
    stream := stream
    scene := scene
    placements := 0
    notes := notes }

/-- Changes the branch stack, unless that fails. -/
def changeTurtles
    (change : BranchStack → Except GrowthError BranchStack) :
    Drawing Unit := do
  let canvas ← get
  match change canvas.turtles with
  | .error error => throw error
  | .ok turtles => set { canvas with turtles := turtles }

/-- Takes a value from the random stream. -/
def takeRandom : Drawing Float :=
  modifyGet fun canvas =>
    (canvas.stream.value, { canvas with stream := canvas.stream.advance })

/-- Hands a request to the scene and counts it if it is a placement.  The count has
no upper end and nothing is noted when it passes the budget; only the report tells
it. -/
def take (call : Call Float32) : Drawing Unit :=
  modify fun canvas =>
    { canvas with
      scene := canvas.scene.add call
      placements :=
        if call.places then canvas.placements + 1
        else canvas.placements }

end Canvas

/-- Runs a program on the canvas. -/
def Program.run {α : Type} : Program α → Drawing α
  | .done value => pure value
  | .fail error => throw error
  | .look next => do
      let turtles := (← get).turtles
      (next turtles.active turtles.depth).run
  | .steer move next => do
      modify fun canvas =>
        { canvas with turtles := canvas.turtles.steer move }
      next.run
  | .save next => do
      Canvas.changeTurtles BranchStack.save
      next.run
  | .restore next => do
      Canvas.changeTurtles BranchStack.restore
      next.run
  | .draw next => do
      let value ← Canvas.takeRandom
      (next value).run
  | .request call next => do
      Canvas.take call
      next.run
  | .record note next => do
      modify fun canvas => { canvas with notes := canvas.notes.push note }
      next.run

/-- Running one program after another is running their sequence. -/
theorem Program.run_bind {α β : Type} (program : Program α)
    (f : α → Program β) :
    (program.bind f).run = program.run >>= fun value => (f value).run := by
  induction program with
  | done value => simp [bind, run]
  | fail error => simp [bind, run]
  | look next ih => simp [bind, run, ih]
  | steer move next ih => simp [bind, run, ih]
  | save next ih => simp [bind, run, ih]
  | restore next ih => simp [bind, run, ih]
  | draw next ih => simp [bind, run, ih]
  | request call next ih => simp [bind, run, ih]
  | record note next ih => simp [bind, run, ih]

end GrowthGrammar
