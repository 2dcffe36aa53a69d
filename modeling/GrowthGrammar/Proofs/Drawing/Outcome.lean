import GrowthGrammar.Derivation.Basic
import GrowthGrammar.Proofs.Fallible

/-!
# Outcomes of drawings

What a program does depends on the branch stack and the random stream that it
starts from, and on nothing else of the canvas.  The outcome of a program is a
function of these two; running the program puts its requests and its notes behind
those that are there.
-/

namespace GrowthGrammar

/-- How a program ends, and what it did before. -/
structure Outcome (α : Type) where
  result : Except GrowthError α
  turtles : BranchStack
  stream : DrawStream Float
  /-- The requests to the scene, in order. -/
  calls : List (Call Float32)
  /-- The recorded notes, in order. -/
  notes : List Note

namespace Outcome

variable {α β : Type}

/-- The outcome of a program that ends at once. -/
def ended (result : Except GrowthError α) (turtles : BranchStack)
    (stream : DrawStream Float) : Outcome α :=
  { result := result
    turtles := turtles
    stream := stream
    calls := []
    notes := [] }

@[simp]
theorem result_ended (result : Except GrowthError α) (turtles : BranchStack)
    (stream : DrawStream Float) :
    (ended result turtles stream).result = result :=
  rfl

/-- The outcome with one more request at its beginning. -/
def afterCall (call : Call Float32) (rest : Outcome α) : Outcome α :=
  { rest with calls := call :: rest.calls }

/-- The outcome with one more note at its beginning. -/
def afterNote (note : Note) (rest : Outcome α) : Outcome α :=
  { rest with notes := note :: rest.notes }

/-- The outcome of going on with a second program, unless the first failed. -/
def andThen (first : Outcome α)
    (next : α → BranchStack → DrawStream Float → Outcome β) : Outcome β :=
  match first.result with
  | .error error => { first with result := .error error }
  | .ok value =>
      let rest := next value first.turtles first.stream
      { rest with
        calls := first.calls ++ rest.calls
        notes := first.notes ++ rest.notes }

theorem andThen_of_ok {first : Outcome α} {value : α}
    (succeeds : first.result = .ok value)
    (next : α → BranchStack → DrawStream Float → Outcome β) :
    first.andThen next =
      { next value first.turtles first.stream with
        calls := first.calls ++ (next value first.turtles first.stream).calls
        notes :=
          first.notes ++ (next value first.turtles first.stream).notes } := by
  simp [andThen, succeeds]

theorem result_andThen_eq_ok_iff (first : Outcome α)
    (next : α → BranchStack → DrawStream Float → Outcome β) (value : β) :
    (first.andThen next).result = .ok value ↔
      ∃ middle, first.result = .ok middle ∧
        (next middle first.turtles first.stream).result = .ok value := by
  rw [andThen]
  cases first.result <;> simp

theorem result_andThen_eq_error_iff (first : Outcome α)
    (next : α → BranchStack → DrawStream Float → Outcome β)
    (error : GrowthError) :
    (first.andThen next).result = .error error ↔
      first.result = .error error ∨
        ∃ middle, first.result = .ok middle ∧
          (next middle first.turtles first.stream).result = .error error := by
  rw [andThen]
  cases first.result <;> simp

end Outcome

namespace Program

variable {α β : Type}

/-- The outcome of a program from a branch stack and a random stream. -/
def outcome : Program α → BranchStack → DrawStream Float → Outcome α
  | .done value, turtles, stream => .ended (.ok value) turtles stream
  | .fail error, turtles, stream => .ended (.error error) turtles stream
  | .look next, turtles, stream =>
      (next turtles.active turtles.depth).outcome turtles stream
  | .steer move next, turtles, stream =>
      next.outcome (turtles.steer move) stream
  | .save next, turtles, stream =>
      match turtles.save with
      | .error error => .ended (.error error) turtles stream
      | .ok deeper => next.outcome deeper stream
  | .restore next, turtles, stream =>
      match turtles.restore with
      | .error error => .ended (.error error) turtles stream
      | .ok shallower => next.outcome shallower stream
  | .draw next, turtles, stream =>
      (next stream.value).outcome turtles stream.advance
  | .request call next, turtles, stream =>
      (next.outcome turtles stream).afterCall call
  | .record note next, turtles, stream =>
      (next.outcome turtles stream).afterNote note

/-- The outcome of a sequence is put together from those of its parts. -/
theorem outcome_bind (program : Program α) (f : α → Program β)
    (turtles : BranchStack) (stream : DrawStream Float) :
    (program.bind f).outcome turtles stream =
      (program.outcome turtles stream).andThen fun value => (f value).outcome := by
  induction program generalizing turtles stream with
  | done value => rfl
  | fail error => rfl
  | look next ih => exact ih _ _ turtles stream
  | steer move next ih => exact ih (turtles.steer move) stream
  | save next ih =>
      simp only [bind, outcome]
      cases turtles.save with
      | error error => rfl
      | ok deeper => exact ih deeper stream
  | restore next ih =>
      simp only [bind, outcome]
      cases turtles.restore with
      | error error => rfl
      | ok shallower => exact ih shallower stream
  | draw next ih => exact ih _ turtles stream.advance
  | request call next ih =>
      simp only [bind, outcome, ih, Outcome.andThen, Outcome.afterCall]
      cases (next.outcome turtles stream).result <;> rfl
  | record note next ih =>
      simp only [bind, outcome, ih, Outcome.andThen, Outcome.afterNote]
      cases (next.outcome turtles stream).result <;> rfl

end Program

namespace Canvas

variable {α : Type}

/-- The canvas that an outcome leaves. -/
def after (canvas : Canvas) (outcome : Outcome α) : Canvas :=
  { turtles := outcome.turtles
    stream := outcome.stream
    scene := canvas.scene.extend outcome.calls
    placements := canvas.placements + outcome.calls.countP Call.places
    notes := canvas.notes ++ outcome.notes }

@[simp]
theorem after_ended (canvas : Canvas) (result : Except GrowthError α)
    (turtles : BranchStack) (stream : DrawStream Float) :
    canvas.after (.ended result turtles stream) =
      { canvas with turtles := turtles, stream := stream } := by
  simp [after, Outcome.ended, Scene.extend]

theorem after_afterCall (canvas : Canvas) (call : Call Float32)
    (rest : Outcome α) :
    canvas.after (rest.afterCall call) =
      { canvas with
        scene := canvas.scene.add call
        placements :=
          if call.places then canvas.placements + 1
          else canvas.placements }.after rest := by
  simp only [after, Outcome.afterCall, Scene.extend, Scene.add, List.countP_cons,
    mk.injEq, Scene.mk.injEq, true_and, and_true]
  constructor
  · simp
  · split <;> omega

theorem after_afterNote (canvas : Canvas) (note : Note) (rest : Outcome α) :
    canvas.after (rest.afterNote note) =
      { canvas with notes := canvas.notes.push note }.after rest := by
  simp [after, Outcome.afterNote]

theorem runFrom_changeTurtles (canvas : Canvas)
    (change : BranchStack → Except GrowthError BranchStack) :
    runFrom canvas (changeTurtles change) =
      match change canvas.turtles with
      | .error error => (.error error, canvas)
      | .ok turtles => (.ok (), { canvas with turtles := turtles }) := by
  rw [changeTurtles, runFrom_bind, runFrom_get]
  cases changed : change canvas.turtles <;> simp [changed]

end Canvas

/-- A program ends as its outcome says. -/
theorem Program.runFrom_run {α : Type} (program : Program α) (canvas : Canvas) :
    runFrom canvas program.run =
      ((program.outcome canvas.turtles canvas.stream).result,
        canvas.after (program.outcome canvas.turtles canvas.stream)) := by
  induction program generalizing canvas with
  | done value => simp [run, outcome]
  | fail error => simp [run, outcome]
  | look next ih =>
      rw [run, runFrom_bind, runFrom_get]
      exact ih _ _ canvas
  | steer move next ih =>
      rw [run, runFrom_bind, runFrom_modify]
      exact ih { canvas with turtles := canvas.turtles.steer move }
  | save next ih =>
      rw [run, runFrom_bind, Canvas.runFrom_changeTurtles, outcome]
      cases canvas.turtles.save with
      | error error => simp
      | ok deeper => exact ih { canvas with turtles := deeper }
  | restore next ih =>
      rw [run, runFrom_bind, Canvas.runFrom_changeTurtles, outcome]
      cases canvas.turtles.restore with
      | error error => simp
      | ok shallower => exact ih { canvas with turtles := shallower }
  | draw next ih =>
      rw [run, runFrom_bind, Canvas.takeRandom, runFrom_modifyGet]
      exact ih canvas.stream.value { canvas with stream := canvas.stream.advance }
  | request call next ih =>
      rw [run, runFrom_bind, Canvas.take, runFrom_modify]
      rw [outcome, Canvas.after_afterCall]
      exact ih _
  | record note next ih =>
      rw [run, runFrom_bind, runFrom_modify]
      rw [outcome, Canvas.after_afterNote]
      exact ih _

/-! ## Sentences -/

namespace Derivation

variable (derivation : Derivation)

/-- The program of one letter. -/
def programOf (letter : Letter) : Program Unit :=
  match derivation.alphabet.find letter with
  | .ok symbol => symbol.action derivation.settings
  | .error error => .fail error

/-- The program of a list of letters. -/
def program (letters : List Letter) : Program Unit :=
  letters.forM derivation.programOf

/-- How letters are drawn, from a branch stack and a random stream. -/
def outcome (letters : List Letter) (turtles : BranchStack)
    (stream : DrawStream Float) : Outcome Unit :=
  (derivation.program letters).outcome turtles stream

theorem run_programOf (letter : Letter) :
    (derivation.programOf letter).run = derivation.drawSymbol letter := by
  unfold programOf drawSymbol
  cases derivation.alphabet.find letter <;> rfl

theorem run_program (letters : List Letter) :
    (derivation.program letters).run =
      letters.forM derivation.drawSymbol := by
  rw [program]
  simp only [List.forM_eq_forM]
  induction letters with
  | nil => rfl
  | cons letter rest ih =>
      rw [List.forM_cons, List.forM_cons, ← ih, ← run_programOf]
      exact Program.run_bind _ _

/-- Drawing letters ends as their outcome says. -/
theorem runFrom_forM_drawSymbol (letters : List Letter) (canvas : Canvas) :
    runFrom canvas (letters.forM derivation.drawSymbol) =
      ((derivation.outcome letters canvas.turtles canvas.stream).result,
        canvas.after
          (derivation.outcome letters canvas.turtles canvas.stream)) := by
  rw [← run_program]
  exact Program.runFrom_run _ canvas

theorem runFrom_forM_drawSymbol_eq_ok_iff (letters : List Letter)
    (canvas final : Canvas) :
    runFrom canvas (letters.forM derivation.drawSymbol) = (.ok (), final) ↔
      (derivation.outcome letters canvas.turtles canvas.stream).result =
          .ok () ∧
        canvas.after
            (derivation.outcome letters canvas.turtles canvas.stream) =
          final := by
  rw [runFrom_forM_drawSymbol, Prod.mk.injEq]

@[simp]
theorem outcome_nil (turtles : BranchStack) (stream : DrawStream Float) :
    derivation.outcome [] turtles stream = .ended (.ok ()) turtles stream :=
  rfl

theorem outcome_cons (letter : Letter) (rest : List Letter)
    (turtles : BranchStack) (stream : DrawStream Float) :
    derivation.outcome (letter :: rest) turtles stream =
      ((derivation.programOf letter).outcome turtles stream).andThen
        fun _ => derivation.outcome rest := by
  unfold outcome program
  simp only [List.forM_eq_forM, List.forM_cons]
  exact Program.outcome_bind _ _ turtles stream

theorem outcome_singleton (letter : Letter) (turtles : BranchStack)
    (stream : DrawStream Float) :
    derivation.outcome [letter] turtles stream =
      (derivation.programOf letter).outcome turtles stream := by
  rw [outcome_cons]
  rw [Outcome.andThen]
  rcases (derivation.programOf letter).outcome turtles stream with
    ⟨_ | value, _, _, _, _⟩ <;> simp [Outcome.ended]

/-- Letters are drawn one after another. -/
theorem outcome_append (first second : List Letter) (turtles : BranchStack)
    (stream : DrawStream Float) :
    derivation.outcome (first ++ second) turtles stream =
      (derivation.outcome first turtles stream).andThen
        fun _ => derivation.outcome second := by
  rw [outcome]
  have split : derivation.program (first ++ second) =
      (derivation.program first).bind fun _ => derivation.program second := by
    rw [program]
    simp only [List.forM_eq_forM, List.forM_append]
    rfl
  rw [split]
  exact Program.outcome_bind _ _ turtles stream

/-- The requests to the scene, in order, each with the letter that makes it. -/
def attributed : List Letter → BranchStack → DrawStream Float →
    List (Letter × Call Float32)
  | [], _, _ => []
  | letter :: rest, turtles, stream =>
      let drawn := (derivation.programOf letter).outcome turtles stream
      drawn.calls.map (Prod.mk letter) ++
        match drawn.result with
        | .ok () => attributed rest drawn.turtles drawn.stream
        | .error _ => []

/-- Without the letters these are the requests of the drawing. -/
theorem map_snd_attributed (letters : List Letter) (turtles : BranchStack)
    (stream : DrawStream Float) :
    (derivation.attributed letters turtles stream).map Prod.snd =
      (derivation.outcome letters turtles stream).calls := by
  induction letters generalizing turtles stream with
  | nil => rfl
  | cons letter rest ih =>
      rw [attributed, outcome_cons, Outcome.andThen]
      cases ((derivation.programOf letter).outcome turtles stream).result with
      | error error => simp [Function.comp_def]
      | ok value => simp [Function.comp_def, ih]

end Derivation

/-- A session draws its sentence with a turtle at the root, behind what is in
the scene. -/
theorem Step.runFrom_drawSentence (session : Session) :
    runFrom session Step.drawSentence =
      let derivation := session.derivation
      let outcome := derivation.outcome derivation.sentence
        (BranchStack.start Turtle.root derivation.settings.stackLimit)
        session.stream
      let placements := outcome.calls.countP Call.places
      (outcome.result.map fun _ =>
        { placements := placements
          overBudget := derivation.settings.budget.isExceededBy placements },
        { derivation :=
            { derivation with scene := derivation.scene.extend outcome.calls }
          stream := outcome.stream
          notes := session.notes ++ outcome.notes }) := by
  have drawn := session.derivation.runFrom_forM_drawSymbol
    session.derivation.sentence
    (Canvas.start session.derivation.settings session.stream
      session.derivation.scene session.notes)
  unfold runFrom at drawn ⊢
  simp only [drawSentence, Derivation.drawSentence, ExceptT.run] at drawn ⊢
  rw [drawn]
  simp [Canvas.after, Canvas.start]

/-- A drawing of a sentence fails where its letters do, and keeps their requests. -/
theorem Step.outcome_of_drawSentence_eq_error {session final : Session}
    {error : GrowthError}
    (failed : runFrom session Step.drawSentence = (.error error, final)) :
    let outcome := session.derivation.outcome session.derivation.sentence
      (BranchStack.start Turtle.root session.derivation.settings.stackLimit)
      session.stream
    outcome.result = .error error ∧
      final.derivation =
        { session.derivation with
          scene := session.derivation.scene.extend outcome.calls } := by
  intro outcome
  rw [runFrom_drawSentence, Prod.mk.injEq] at failed
  obtain ⟨failed, rfl⟩ := failed
  cases result : outcome.result with
  | ok value =>
      rw [result] at failed
      cases failed
  | error cause =>
      rw [result] at failed
      cases failed
      exact ⟨rfl, rfl⟩

/-- A drawing that comes to its end reports the placements of its letters. -/
theorem Step.outcome_of_drawSentence_eq_ok {session final : Session}
    {report : DrawingReport}
    (drawn : runFrom session Step.drawSentence = (.ok report, final)) :
    let outcome := session.derivation.outcome session.derivation.sentence
      (BranchStack.start Turtle.root session.derivation.settings.stackLimit)
      session.stream
    outcome.result = .ok () ∧
      report.placements = outcome.calls.countP Call.places ∧
      final.stream = outcome.stream ∧
      final.derivation =
        { session.derivation with
          scene := session.derivation.scene.extend outcome.calls } := by
  intro outcome
  rw [runFrom_drawSentence, Prod.mk.injEq] at drawn
  obtain ⟨drawn, rfl⟩ := drawn
  cases result : outcome.result with
  | error error =>
      rw [result] at drawn
      cases drawn
  | ok value =>
      rw [result] at drawn
      cases drawn
      exact ⟨rfl, rfl, rfl, rfl⟩

end GrowthGrammar
