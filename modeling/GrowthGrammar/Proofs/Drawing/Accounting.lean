import GrowthGrammar.Proofs.Alphabet.Reachable
import GrowthGrammar.Proofs.Drawing.Outcome

/-!
# Drawings are accounted for

The placements are counted by the drawing, while the requests are kept by the scene.  The
two agree for every program: a request that places something is counted once, and a change
of colour is not counted.  The count is compared with the budget when the drawing has come
to its end, so that the budget decides nothing but what is reported.
-/

namespace GrowthGrammar

/-! ## Requests one by one -/

namespace Act

/-- The actions that place one thing each. -/
inductive Places : Action → Prop where
  | prism (transform : Transform Float32) (prism : Prism Float32)
      (normalCorrect : Bool) : Places (request (.prism transform prism normalCorrect))
  | plane (halfExtents : Vec2 Float32) : Places (request (.plane halfExtents))
  | decoration (mesh : Nat) (transform : Transform Float32) :
      Places (request (.decoration mesh transform))
  | tapered (length : Float32) : Places (taperedSegment length)
  | straight (length : Float32) : Places (straightSegment length)
  | tip : Places tipCone
  | hung (mesh : Nat) : Places (hang mesh)

/-- An action that places something makes one request, and steers the active turtle at
most. -/
theorem Places.exists_outcome {action : Action} (places : Places action)
    (settings : Settings) (turtles : BranchStack) (stream : DrawStream Float) :
    ∃ call active, call.places = true ∧
      (action settings).outcome turtles stream =
        { result := .ok ()
          turtles := { turtles with active := active }
          stream := stream
          calls := [call]
          notes := [] } := by
  cases places with
  | prism transform prism normalCorrect => exact ⟨_, turtles.active, rfl, rfl⟩
  | plane halfExtents => exact ⟨_, turtles.active, rfl, rfl⟩
  | decoration mesh transform => exact ⟨_, turtles.active, rfl, rfl⟩
  | tapered length => exact ⟨_, _, rfl, rfl⟩
  | straight length => exact ⟨_, turtles.active, rfl, rfl⟩
  | tip => exact ⟨_, turtles.active, rfl, rfl⟩
  | hung mesh => exact ⟨_, turtles.active, rfl, rfl⟩

/-- What an action places is added to the scene and counted. -/
theorem Places.exists_run {action : Action} (places : Places action)
    (settings : Settings) (canvas : Canvas) :
    ∃ call active, call.places = true ∧
      runFrom canvas (action settings).run = (.ok (),
        { canvas with
          turtles := { canvas.turtles with active := active }
          scene := canvas.scene.add call
          placements := canvas.placements + 1 }) := by
  obtain ⟨call, active, placed, outcome⟩ :=
    places.exists_outcome settings canvas.turtles canvas.stream
  refine ⟨call, active, placed, ?_⟩
  rw [Program.runFrom_run, outcome]
  simp [Canvas.after, Scene.extend, Scene.add, placed]

/-- A colour is added to the scene and not counted. -/
theorem runFrom_color (rgba : Vec4 Float32) (settings : Settings) (canvas : Canvas) :
    runFrom canvas (color rgba settings).run =
      (.ok (), { canvas with scene := canvas.scene.add (.color rgba) }) :=
  rfl

end Act

/-! ## Other budgets -/

/-- The settings with another budget. -/
def Settings.withBudget (settings : Settings) (budget : Budget) : Settings :=
  { settings with budget := budget }

/-- Whether the action of a symbol is the same for all budgets. -/
def Symbol.IgnoresBudget (symbol : Symbol) : Prop :=
  ∀ settings budget, symbol.action (Settings.withBudget settings budget) =
    symbol.action settings

/-- Whether no action of an alphabet looks at the budget. -/
def Alphabet.IgnoresBudget (alphabet : Alphabet) : Prop :=
  ∀ ⦃letter symbol⦄, alphabet.find letter = .ok symbol → symbol.IgnoresBudget

namespace Derivation

/-- The derivation with another budget. -/
def withBudget (derivation : Derivation) (budget : Budget) : Derivation :=
  { derivation with settings := derivation.settings.withBudget budget }

/-- Where no action looks at the budget, sentences are drawn in the same way under all
budgets. -/
theorem outcome_withBudget {derivation : Derivation}
    (ignores : derivation.alphabet.IgnoresBudget) (budget : Budget) :
    (derivation.withBudget budget).outcome = derivation.outcome := by
  have programs : (derivation.withBudget budget).programOf = derivation.programOf := by
    funext letter
    simp only [programOf, withBudget]
    cases found : derivation.alphabet.find letter with
    | error error => rfl
    | ok symbol => exact ignores found derivation.settings budget
  funext letters turtles stream
  simp only [outcome, program, programs]

end Derivation

/-- The session with another budget. -/
def Session.withBudget (session : Session) (budget : Budget) : Session :=
  { session with derivation := session.derivation.withBudget budget }

namespace Step

/-- A drawing that counts to a number reports it. -/
theorem exists_report_of_counted {result : Except GrowthError DrawingReport}
    {placements : Nat}
    (counted : (result.map DrawingReport.placements).toOption = some placements) :
    ∃ report, result = .ok report ∧ report.placements = placements := by
  cases result with
  | error error => cases counted
  | ok report => exact ⟨report, rfl, Option.some.inj counted⟩

/-- A drawing puts its requests behind those of the scene, and reports how many of them
place something. -/
theorem exists_appended (session : Session) :
    ∃ appended : List (Call Float32),
      (runFrom session drawSentence).2.derivation.scene.calls.toList =
          session.derivation.scene.calls.toList ++ appended ∧
        ∀ report, (runFrom session drawSentence).1 = .ok report →
          report.placements = appended.countP Call.places ∧
          (report.overBudget = true ↔
            ∃ most, session.derivation.settings.budget = some most ∧
              most < report.placements) := by
  rw [runFrom_drawSentence]
  dsimp only
  generalize session.derivation.outcome _ _ _ = outcome
  refine ⟨outcome.calls, ?_, ?_⟩
  · simp [Scene.extend]
  · intro report drawn
    cases result : outcome.result with
    | error error =>
        rw [result] at drawn
        cases drawn
    | ok value =>
        rw [result] at drawn
        cases drawn
        exact ⟨rfl, Budget.isExceededBy_iff _ _⟩

/-- Another budget makes no difference to a drawing whose actions do not look at it, but
for what is reported of the budget. -/
theorem runFrom_drawSentence_withBudget {session : Session}
    (ignores : session.derivation.alphabet.IgnoresBudget) (budget : Budget) :
    let drawn := runFrom session drawSentence
    let other := runFrom (session.withBudget budget) drawSentence
    other.2 = drawn.2.withBudget budget ∧
      other.1.map DrawingReport.placements =
        drawn.1.map DrawingReport.placements := by
  intro drawn other
  simp only [drawn, other, runFrom_drawSentence, Session.withBudget,
    Derivation.outcome_withBudget ignores budget]
  refine ⟨rfl, ?_⟩
  dsimp only [Derivation.withBudget, Settings.withBudget]
  generalize session.derivation.outcome _ _ _ = outcome
  cases outcome.result <;> rfl

/-- Whether it fails or not, a drawing leaves what was in the scene and puts its requests
behind.  If it succeeds, it reports the number of those that are not colours, and whether
there is a budget that this number goes beyond.  Under another budget the same requests
are made and the same values drawn, and the drawing ends with the same error or the same
number.  All this holds because each action that places something makes one request and
counts it, while colours are requested without being counted. -/
theorem drawing_accounts_for_placements (session : Session) :
    let drawn := runFrom session drawSentence
    (∃ appended : List (Call Float32),
      drawn.2.derivation.scene.calls.toList =
          session.derivation.scene.calls.toList ++ appended ∧
        ∀ report, drawn.1 = .ok report →
          report.placements = appended.countP Call.places ∧
          (report.overBudget = true ↔
            ∃ most, session.derivation.settings.budget = some most ∧
              most < report.placements)) ∧
    (session.derivation.alphabet.IgnoresBudget → ∀ budget,
      let other := runFrom (session.withBudget budget) drawSentence
      other.2.derivation.scene = drawn.2.derivation.scene ∧
        other.2.stream = drawn.2.stream ∧
        other.1.map DrawingReport.placements = drawn.1.map DrawingReport.placements) ∧
    (∀ action, Act.Places action → ∀ settings canvas, ∃ call active,
      call.places = true ∧
        runFrom canvas (action settings).run = (.ok (),
          { canvas with
            turtles := { canvas.turtles with active := active }
            scene := canvas.scene.add call
            placements := canvas.placements + 1 })) ∧
    ∀ rgba settings canvas, runFrom canvas (Act.color rgba settings).run =
      (.ok (), { canvas with scene := canvas.scene.add (.color rgba) }) := by
  intro drawn
  refine ⟨exists_appended session, ?_, fun _ places => places.exists_run,
    Act.runFrom_color⟩
  intro ignores budget other
  obtain ⟨left, result⟩ := runFrom_drawSentence_withBudget ignores budget
  refine ⟨?_, ?_, result⟩
  · rw [left]
    rfl
  · rw [left]
    rfl

/-- Two segments with tips are four placements and two colours, behind the ground that was
there.  They go beyond a budget of three, which changes nothing of what is drawn. -/
theorem tipped_segments_exceed_budget :
    let action : Action := do
      Act.color ⟨0.0, 1.0, 0.0, 1.0⟩
      Act.taperedSegment 1.0
      Act.tipCone
    let alphabet := Alphabet.empty.append (Symbol.ofAction "A" action)
    let session : Session :=
      { derivation :=
          { Derivation.ofAlphabet alphabet
              { Settings.standard with budget := some 3 } with
            sentence := [0, 0]
            scene := Scene.empty.add (.plane ⟨9.0, 9.0⟩) }
        stream := DrawStream.start (fun _ => 0.5) .deterministic 0
        notes := #[] }
    alphabet.IgnoresBudget ∧
      (∃ appended,
        (runFrom session drawSentence).2.derivation.scene.calls.toList =
            .plane ⟨9.0, 9.0⟩ :: appended ∧
          appended.countP Call.places = 4) ∧
      (∃ report, (runFrom session drawSentence).1 = .ok report ∧
        report.placements = 4 ∧ report.overBudget = true) ∧
      ∃ report,
        (runFrom (session.withBudget none) drawSentence).1 = .ok report ∧
          report.placements = 4 ∧ report.overBudget = false := by
  intro action alphabet session
  have ignores : alphabet.IgnoresBudget := by
    intro letter symbol found
    rcases Alphabet.find_append_eq_ok found with before | rfl
    · simp [Alphabet.find, Alphabet.empty] at before
    · exact fun _ _ => rfl
  have number : ((runFrom session drawSentence).1.map
      DrawingReport.placements).toOption = some 4 := by
    simp only [session, alphabet, Alphabet.append_empty]
    decide +kernel
  obtain ⟨⟨appended, behind, reports⟩, others, _⟩ :=
    drawing_accounts_for_placements session
  obtain ⟨_, _, sameNumber⟩ := others ignores none
  obtain ⟨⟨_, _, otherReports⟩, _⟩ :=
    drawing_accounts_for_placements (session.withBudget none)
  obtain ⟨report, drawn, placements⟩ := exists_report_of_counted number
  obtain ⟨counted, overBudget⟩ := reports report drawn
  obtain ⟨other, otherDrawn, otherPlacements⟩ :=
    exists_report_of_counted ((congrArg Except.toOption sameNumber).trans number)
  have unlimited := (otherReports other otherDrawn).2
  have prior : session.derivation.scene.calls.toList = [.plane ⟨9.0, 9.0⟩] := rfl
  rw [prior] at behind
  refine ⟨ignores, ⟨appended, behind, counted.symm.trans placements⟩,
    ⟨report, drawn, placements, overBudget.mpr ⟨3, rfl, ?_⟩⟩,
    other, otherDrawn, otherPlacements, ?_⟩
  · rw [placements]
    decide
  · rw [Bool.eq_false_iff, Ne, unlimited]
    rintro ⟨_, limited, _⟩
    cases limited

end Step

end GrowthGrammar
