import GrowthGrammar.Proofs.Drawing.Outcome

/-!
# Level programs

A level program stays on its branch: it saves no turtle and restores none, and it
does not fail.  So it always comes to its end, and it changes the active turtle
and nothing else of the branch stack.
-/

namespace GrowthGrammar

namespace Program

variable {α β : Type}

/-- Whether a program neither saves nor restores a turtle and never fails. -/
def IsLevel : Program α → Prop
  | .done _ => True
  | .fail _ => False
  | .look next => ∀ turtle saved, (next turtle saved).IsLevel
  | .steer _ next => next.IsLevel
  | .save _ => False
  | .restore _ => False
  | .draw next => ∀ value, (next value).IsLevel
  | .request _ next => next.IsLevel
  | .record _ next => next.IsLevel

theorem IsLevel.bind {program : Program α} {f : α → Program β}
    (level : program.IsLevel) (others : ∀ value, (f value).IsLevel) :
    (program.bind f).IsLevel := by
  induction program with
  | done value => exact others value
  | fail error => exact level.elim
  | look next ih => exact fun turtle saved => ih _ _ (level turtle saved)
  | steer move next ih => exact ih level
  | save next => exact level.elim
  | restore next => exact level.elim
  | draw next ih => exact fun value => ih value (level value)
  | request call next ih => exact ih level
  | record note next ih => exact ih level

/-- A level program ends with a value, and with another active turtle above the
same saved ones. -/
theorem IsLevel.exists_active {program : Program α} (level : program.IsLevel)
    (turtles : BranchStack) (stream : DrawStream Float) :
    ∃ value active,
      (program.outcome turtles stream).result = .ok value ∧
        (program.outcome turtles stream).turtles =
          { turtles with active := active } := by
  induction program generalizing turtles stream with
  | done value => exact ⟨value, turtles.active, rfl, rfl⟩
  | fail error => exact level.elim
  | look next ih =>
      exact ih _ _ (level turtles.active turtles.depth) turtles stream
  | steer move next ih => exact ih level (turtles.steer move) stream
  | save next => exact level.elim
  | restore next => exact level.elim
  | draw next ih =>
      exact ih stream.value (level stream.value) turtles stream.advance
  | request call next ih => exact ih level turtles stream
  | record note next ih => exact ih level turtles stream

end Program

/-- A level action done a number of times is level. -/
theorem Act.isLevel_times {action : Action} {settings : Settings}
    (level : (action settings).IsLevel) (count : Nat) :
    (Act.times count action settings).IsLevel := by
  induction count with
  | zero => exact trivial
  | succ count ih => exact level.bind fun _ => ih

end GrowthGrammar
