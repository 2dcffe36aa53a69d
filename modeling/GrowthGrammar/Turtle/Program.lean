import GrowthGrammar.Settings
import GrowthGrammar.Turtle.Stack

/-!
# Turtle programs

What a symbol does when it is drawn is a program: a tree of requests to the
branch stack, the random stream and the scene.  A program is data.  It can look
at the active turtle and at the number of saved ones, but reaches the random
stream and the scene only through its requests.

Programs form a monad, so that they are written step by step.  An `Action` is a
program that may also read the settings of the run.
-/

namespace GrowthGrammar

/-- What a program records for its host without drawing anything. -/
inductive Note where
  /-- A random value. -/
  | drawn (value : Float)
  /-- The active turtle, the number of saved ones, and the number of sides of a
  branch. -/
  | state (turtle : Turtle) (saved : Nat) (sides : Nat)
deriving DecidableEq

/-- A drawing program that ends in a value of type `α`. -/
inductive Program (α : Type) : Type where
  | done (value : α)
  | fail (error : GrowthError)
  /-- Goes on with the active turtle and the number of saved turtles. -/
  | look (next : Turtle → Nat → Program α)
  /-- Changes the active turtle. -/
  | steer (move : Turtle → Turtle) (next : Program α)
  /-- Saves the active turtle. -/
  | save (next : Program α)
  /-- Restores the turtle saved last. -/
  | restore (next : Program α)
  /-- Goes on with a random value. -/
  | draw (next : Float → Program α)
  /-- Makes a request to the scene. -/
  | request (call : Call Float32) (next : Program α)
  /-- Records a note. -/
  | record (note : Note) (next : Program α)

namespace Program

variable {α β γ : Type}

/-- Runs a second program on the value of the first. -/
def bind : Program α → (α → Program β) → Program β
  | done value, f => f value
  | fail error, _ => fail error
  | look next, f => look fun turtle saved => (next turtle saved).bind f
  | steer move next, f => steer move (next.bind f)
  | save next, f => save (next.bind f)
  | restore next, f => restore (next.bind f)
  | draw next, f => draw fun value => (next value).bind f
  | request call next, f => request call (next.bind f)
  | record note next, f => record note (next.bind f)

instance : Monad Program where
  pure := done
  bind := bind

theorem bind_done (program : Program α) : program.bind done = program := by
  induction program with
  | done value => rfl
  | fail error => rfl
  | look next ih => simp [bind, ih]
  | steer move next ih => simp [bind, ih]
  | save next ih => simp [bind, ih]
  | restore next ih => simp [bind, ih]
  | draw next ih => simp [bind, ih]
  | request call next ih => simp [bind, ih]
  | record note next ih => simp [bind, ih]

theorem bind_assoc (program : Program α) (f : α → Program β)
    (g : β → Program γ) :
    (program.bind f).bind g = program.bind fun value => (f value).bind g := by
  induction program with
  | done value => rfl
  | fail error => rfl
  | look next ih => simp [bind, ih]
  | steer move next ih => simp [bind, ih]
  | save next ih => simp [bind, ih]
  | restore next ih => simp [bind, ih]
  | draw next ih => simp [bind, ih]
  | request call next ih => simp [bind, ih]
  | record note next ih => simp [bind, ih]

instance : LawfulMonad Program :=
  LawfulMonad.mk' Program bind_done (fun _ _ => rfl) bind_assoc

end Program

/-- A program with a value of type `α` that may read the settings. -/
abbrev Act (α : Type) :=
  ReaderT Settings Program α

/-- What a symbol does when it is drawn. -/
abbrev Action :=
  Act Unit

namespace Act

/-- Does nothing. -/
def skip : Action :=
  pure ()

/-- Stops the run with an error. -/
def fail {α : Type} (error : GrowthError) : Act α :=
  fun _ => .fail error

/-- The active turtle. -/
def turtle : Act Turtle :=
  fun _ => .look fun turtle _ => .done turtle

/-- Changes the active turtle. -/
def steer (move : Turtle → Turtle) : Action :=
  fun _ => .steer move (.done ())

/-- Saves the active turtle and goes on with a copy. -/
def save : Action :=
  fun _ => .save (.done ())

/-- Goes back to the turtle saved last. -/
def restore : Action :=
  fun _ => .restore (.done ())

/-- A random value. -/
def random : Act Float :=
  fun _ => .draw .done

/-- A random value as a coordinate. -/
def randomCoordinate : Act Float32 := do
  return Narrowing.narrow (← random)

/-- Makes a request to the scene. -/
def request (call : Call Float32) : Action :=
  fun _ => .request call (.done ())

/-- Sets the colour of what is placed from here on. -/
def color (rgba : Vec4 Float32) : Action :=
  request (.color rgba)

/-- Records a random value. -/
def recordRandom : Action := do
  let value ← random
  fun _ => .record (.drawn value) (.done ())

/-- Records the state of the run. -/
def recordState : Action := fun settings =>
  .look fun turtle saved =>
    .record (.state turtle saved settings.sides) (.done ())

/-- Runs an action a number of times. -/
def times : Nat → Action → Action
  | 0, _ => skip
  | n + 1, action => do
      action
      times n action

/-- Places a branch segment of a base, a top and a length at the turtle. -/
def placeSegment (base top length : Float32) : Action := do
  let settings ← read
  let turtle ← turtle
  let prism : Prism Float32 :=
    { sides := settings.sides
      base := base
      top := top
      height := length
      facade := .plain }
  request (.prism turtle.frame prism false)

/-- Places a segment that narrows to its top; the turtle keeps the narrower
radius. -/
def taperedSegment (length : Float32) : Action := do
  let settings ← read
  let base := (← turtle).radius
  placeSegment base (base * settings.taper) length
  steer (Turtle.withRadius (base * settings.taper))

/-- Places a segment as wide at its top as at its base. -/
def straightSegment (length : Float32) : Action := do
  let base := (← turtle).radius
  placeSegment base base length

/-- Places a short cone that closes a branch. -/
def tipCone : Action := do
  let base := (← turtle).radius
  placeSegment base 0.0 0.4

/-- Hangs a mesh of the host at the turtle. -/
def hang (mesh : Nat) : Action := do
  let turtle ← turtle
  request (.decoration mesh turtle.frame)

end Act

end GrowthGrammar
