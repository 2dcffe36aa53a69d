import GrowthGrammar.Proofs.Derivation.Failures
import GrowthGrammar.Proofs.Plant.Spawning

/-!
# Regrowths that fail

A regrowth rewrites the axiom and then draws it over.  What it leaves when it fails
depends on which of the two has failed: until the last pass is done the old drawing is
kept, and from then on nothing is left of it.  A staged run makes its last passes with
another alphabet, and may also fail between its passes or after the last of them.
-/

namespace GrowthGrammar

open Alphabet (deriveInTurn)
open MonkeyPuzzle (Leaders plainRunLimit closingPasses)

namespace MonkeyPuzzle

/-- Gives the spawning rule of every piece of the leader a weight. -/
def Leaders.reweigh (leaders : Leaders) (weight : Float) : Edit Unit :=
  leaders.toList.forM fun leader => Edit.reweigh leader weight

/-- The alphabet of the last passes of a staged run, which spawn no whorl. -/
def Leaders.bared (leaders : Leaders) (alphabet : Alphabet) : Alphabet :=
  (runFrom alphabet (leaders.reweigh 0.0)).2

theorem runFrom_setSpawnWeight_eq (leaders : Leaders) (weight : Float)
    (session : Session) :
    runFrom session (setSpawnWeight leaders weight) =
      ((runFrom session.derivation.alphabet (leaders.reweigh weight)).1,
        session.withAlphabet
          (runFrom session.derivation.alphabet (leaders.reweigh weight)).2) := by
  rw [setSpawnWeight_eq, Step.runFrom_edit, Leaders.reweigh]

/-- What a staged run comes to: it fails in its opening passes, while it reads the
weight of the spawning rules, or while it takes this weight away, or it puts the weight
back after its closing passes, whether these have failed or not. -/
inductive StagedRun (leaders : Leaders) (passes : Nat) (session : Session) :
    Except GrowthError Unit → Session → Prop where
  | opening {error : GrowthError} {final : Session}
      (failed : runFrom session (Step.deriveTimes (passes - closingPasses)) =
        (.error error, final)) :
      StagedRun leaders passes session (.error error) final
  | reading {error : GrowthError} {grown : Session}
      (opening : runFrom session (Step.deriveTimes (passes - closingPasses)) =
        (.ok (), grown))
      (unread : session.derivation.alphabet.weightOf leaders.xForth 0 =
        .error error) :
      StagedRun leaders passes session (.error error) grown
  | taking {error : GrowthError} {grown : Session}
      (opening : runFrom session (Step.deriveTimes (passes - closingPasses)) =
        (.ok (), grown))
      (kept : (runFrom session.derivation.alphabet (leaders.reweigh 0.0)).1 =
        .error error) :
      StagedRun leaders passes session (.error error)
        (grown.withAlphabet (leaders.bared session.derivation.alphabet))
  | closing {weight : Float} {result put : Except GrowthError Unit}
      {grown late : Session} {alphabet : Alphabet}
      (opening : runFrom session (Step.deriveTimes (passes - closingPasses)) =
        (.ok (), grown))
      (weightIs : session.derivation.alphabet.weightOf leaders.xForth 0 =
        .ok weight)
      (closing : runFrom
          (grown.withAlphabet (leaders.bared session.derivation.alphabet))
          (Step.deriveTimes closingPasses) =
        (result, late))
      (putBack : runFrom (leaders.bared session.derivation.alphabet)
        (leaders.reweigh weight) = (put, alphabet)) :
      StagedRun leaders passes session (put.bind fun _ => result)
        (late.withAlphabet alphabet)

theorem stagedRun_of_deriveTimes (leaders : Leaders) {passes : Nat}
    (many : plainRunLimit < passes) (session : Session) :
    StagedRun leaders passes session
      (runFrom session (deriveTimes leaders passes)).1
      (runFrom session (deriveTimes leaders passes)).2 := by
  rw [deriveTimes, if_neg (Nat.not_le.mpr many)]
  rcases opening : runFrom session (Step.deriveTimes (passes - closingPasses)) with
    ⟨_ | ⟨⟨⟩⟩, grown⟩
  · rw [runFrom_bind_of_error opening]
    exact .opening opening
  have alphabet := Step.alphabet_of_deriveTimes opening
  rw [runFrom_bind_of_ok opening]
  rcases weightIs : session.derivation.alphabet.weightOf leaders.xForth 0 with
    error | weight
  · have unread : runFrom grown (spawnWeight leaders) = (.error error, grown) := by
      rw [runFrom_spawnWeight_eq, alphabet, weightIs]
    rw [runFrom_bind_of_error unread]
    exact .reading opening weightIs
  have read : runFrom grown (spawnWeight leaders) = (.ok weight, grown) := by
    rw [runFrom_spawnWeight_eq, alphabet, weightIs]
  rw [runFrom_bind_of_ok read]
  have taken : runFrom grown (setSpawnWeight leaders 0.0) =
      ((runFrom session.derivation.alphabet (leaders.reweigh 0.0)).1,
        grown.withAlphabet (leaders.bared session.derivation.alphabet)) := by
    rw [runFrom_setSpawnWeight_eq, alphabet, Leaders.bared]
  rcases taking : (runFrom session.derivation.alphabet (leaders.reweigh 0.0)).1 with
    error | ⟨⟨⟩⟩
  · rw [taking] at taken
    rw [runFrom_bind_of_error taken]
    exact .taking opening taking
  rw [taking] at taken
  rcases closing : runFrom
      (grown.withAlphabet (leaders.bared session.derivation.alphabet))
      (Step.deriveTimes closingPasses) with ⟨result, late⟩
  have attempted : runFrom
      (grown.withAlphabet (leaders.bared session.derivation.alphabet))
      (attempt (Step.deriveTimes closingPasses)) = (.ok result, late) := by
    rw [runFrom_attempt, closing]
  have lateAlphabet : late.derivation.alphabet =
      leaders.bared session.derivation.alphabet :=
    Step.alphabet_of_deriveTimes closing
  have settled := runFrom_setSpawnWeight_eq leaders weight late
  rw [lateAlphabet] at settled
  rw [runFrom_bind_of_ok taken, runFrom_bind_of_ok attempted, runFrom_bind, settled]
  rcases putBack : runFrom (leaders.bared session.derivation.alphabet)
    (leaders.reweigh weight) with ⟨put, alphabet⟩
  have run := StagedRun.closing opening weightIs closing putBack
  rcases put with error | ⟨⟨⟩⟩
  · exact run
  · cases result <;> exact run

end MonkeyPuzzle

/-- How a sentence is grown: by plain passes, or as the tree is. -/
inductive GrowthMode where
  | plain
  | staged (leaders : Leaders)

namespace GrowthMode

/-- A number of passes. -/
def derive : GrowthMode → Nat → Step Unit
  | .plain, passes => Step.deriveTimes passes
  | .staged leaders, passes => MonkeyPuzzle.deriveTimes leaders passes

/-- Grows the axiom by the passes of the settings and draws it over. -/
def regrow : GrowthMode → Step DrawingReport
  | .plain => Step.regrow
  | .staged leaders => MonkeyPuzzle.regrow leaders

theorem runFrom_regrow (growth : GrowthMode) (session : Session) :
    runFrom session growth.regrow =
      runFrom (Step.rewound session) (do
        growth.derive session.derivation.settings.passes
        Step.redraw) := by
  cases growth <;> rfl

/-- The alphabets of the passes, in order. -/
def schedule (alphabet : Alphabet) (passes : Nat) : GrowthMode → List Alphabet
  | .plain => List.replicate passes alphabet
  | .staged leaders =>
      if passes ≤ plainRunLimit then
        List.replicate passes alphabet
      else
        List.replicate (passes - closingPasses) alphabet
          ++ List.replicate closingPasses (leaders.bared alphabet)

theorem schedule_of_many (leaders : Leaders) {passes : Nat}
    (many : plainRunLimit < passes) (alphabet : Alphabet) :
    (staged leaders).schedule alphabet passes =
      List.replicate (passes - closingPasses) alphabet
        ++ List.replicate closingPasses (leaders.bared alphabet) :=
  if_neg (Nat.not_le.mpr many)

/-- Few passes are plain in either way of growing. -/
theorem schedule_of_few (leaders : Leaders) {passes : Nat}
    (few : passes ≤ plainRunLimit) (alphabet : Alphabet) :
    (staged leaders).schedule alphabet passes = List.replicate passes alphabet :=
  if_pos few

/-- The errors with which a growth can fail after a number of passes, when none of these
has failed.  A staged run reads the weight of the spawning rules and takes it away
before its last passes, and puts it back after them. -/
inductive StopsAfter (alphabet : Alphabet) (passes : Nat) :
    GrowthMode → Nat → GrowthError → Prop where
  | reading {leaders : Leaders} {error : GrowthError}
      (many : plainRunLimit < passes)
      (unread : alphabet.weightOf leaders.xForth 0 = .error error) :
      StopsAfter alphabet passes (.staged leaders) (passes - closingPasses) error
  | taking {leaders : Leaders} {error : GrowthError}
      (many : plainRunLimit < passes)
      (kept : (runFrom alphabet (leaders.reweigh 0.0)).1 = .error error) :
      StopsAfter alphabet passes (.staged leaders) (passes - closingPasses) error
  | puttingBack {leaders : Leaders} {error : GrowthError} {weight : Float}
      (many : plainRunLimit < passes)
      (weightIs : alphabet.weightOf leaders.xForth 0 = .ok weight)
      (lost : (runFrom (leaders.bared alphabet) (leaders.reweigh weight)).1 =
        .error error) :
      StopsAfter alphabet passes (.staged leaders) passes error

/-- What a growth leaves that fails with an error: a sentence and a random stream.  The
sentence is what the first passes have made of the axiom, and no other pass has
succeeded. -/
inductive Leaves (growth : GrowthMode) (alphabet : Alphabet) (passes : Nat)
    (start : List Letter) (stream : DrawStream Float) (error : GrowthError)
    (sentence : List Letter) (next : DrawStream Float) : Prop where
  /-- The next pass fails, with this error or before putting back the weights does. -/
  | pass {done rest : List Alphabet} {bearing : Alphabet}
      {middle : DrawStream Float} {cause : GrowthError}
      (splits : growth.schedule alphabet passes = done ++ bearing :: rest)
      (run : runFrom stream (deriveInTurn done start) = (.ok sentence, middle))
      (failed : runFrom middle (bearing.derive sentence) = (.error cause, next))
      (told : error = cause ∨ growth.StopsAfter alphabet passes passes error)
  /-- No other pass is made. -/
  | stop {done rest : List Alphabet}
      (splits : growth.schedule alphabet passes = done ++ rest)
      (run : runFrom stream (deriveInTurn done start) = (.ok sentence, next))
      (stops : growth.StopsAfter alphabet passes done.length error)

variable {session final : Session} {passes : Nat} {error : GrowthError}

/-- What a growth comes to: it makes plain passes, or it is staged. -/
inductive Runs (passes : Nat) (session : Session) :
    GrowthMode → Except GrowthError Unit → Session → Prop where
  | plain {growth : GrowthMode} {result : Except GrowthError Unit} {final : Session}
      (schedule : ∀ alphabet,
        growth.schedule alphabet passes = List.replicate passes alphabet)
      (run : runFrom session (Step.deriveTimes passes) = (result, final)) :
      Runs passes session growth result final
  | staged {leaders : Leaders} {result : Except GrowthError Unit} {final : Session}
      (many : plainRunLimit < passes)
      (run : MonkeyPuzzle.StagedRun leaders passes session result final) :
      Runs passes session (.staged leaders) result final

theorem runs_of_derive (growth : GrowthMode) {result : Except GrowthError Unit}
    (run : runFrom session (growth.derive passes) = (result, final)) :
    growth.Runs passes session result final := by
  cases growth with
  | plain => exact .plain (fun _ => rfl) run
  | staged leaders =>
      rw [derive] at run
      rcases Nat.lt_or_ge plainRunLimit passes with many | few
      · have staged := MonkeyPuzzle.stagedRun_of_deriveTimes leaders many session
        rw [run] at staged
        exact .staged many staged
      · rw [MonkeyPuzzle.runFrom_deriveTimes_of_few leaders few] at run
        exact .plain (schedule_of_few leaders few) run

/-- Plain passes that fail leave the sentence of those that succeeded. -/
theorem leaves_of_deriveTimes {growth : GrowthMode}
    (plain : growth.schedule session.derivation.alphabet passes =
      List.replicate passes session.derivation.alphabet)
    (failed : runFrom session (Step.deriveTimes passes) = (.error error, final)) :
    growth.Leaves session.derivation.alphabet passes session.derivation.sentence
      session.stream error final.derivation.sentence final.stream := by
  obtain ⟨done, rest, middle, splits, run, failed⟩ :=
    Step.exists_deriveInTurn_of_deriveTimes failed
  exact .pass (plain.trans splits) run failed (Or.inl rfl)

/-- A staged run that fails leaves the sentence of the passes that succeeded. -/
theorem leaves_of_stagedRun {leaders : Leaders} (many : plainRunLimit < passes)
    (run : MonkeyPuzzle.StagedRun leaders passes session (.error error) final) :
    (staged leaders).Leaves session.derivation.alphabet passes
      session.derivation.sentence session.stream error final.derivation.sentence
      final.stream := by
  have schedule := schedule_of_many leaders many session.derivation.alphabet
  generalize ended : Except.error error = result at run
  cases run with
  | opening failed =>
      cases ended
      obtain ⟨done, rest, middle, splits, run, failed⟩ :=
        Step.exists_deriveInTurn_of_deriveTimes failed
      rw [splits, List.append_assoc, List.cons_append] at schedule
      exact .pass schedule run failed (Or.inl rfl)
  | reading opening unread =>
      cases ended
      have opened := Step.runFrom_deriveInTurn_of_deriveTimes opening
      refine .stop schedule opened ?_
      rw [List.length_replicate]
      exact .reading many unread
  | taking opening kept =>
      cases ended
      have opened := Step.runFrom_deriveInTurn_of_deriveTimes opening
      refine .stop schedule opened ?_
      rw [List.length_replicate]
      exact .taking many kept
  | closing opening weightIs closing putBack =>
      rename_i weight result put grown late alphabet
      have opened := Step.runFrom_deriveInTurn_of_deriveTimes opening
      rcases result with cause | ⟨⟨⟩⟩
      · obtain ⟨done, rest, middle, splits, run, failed⟩ :=
          Step.exists_deriveInTurn_of_deriveTimes closing
        have reached := (Alphabet.runFrom_deriveInTurn_append opened).trans run
        have split := schedule.trans
          ((congrArg _ splits).trans (List.append_assoc _ _ _).symm)
        refine .pass split reached failed ?_
        -- An error in putting the weights back is told in place of that of the pass.
        rcases put with lost | ⟨⟨⟩⟩
        · cases ended
          exact Or.inr (.puttingBack many weightIs (by rw [putBack]))
        · cases ended
          exact Or.inl rfl
      · rcases put with lost | ⟨⟨⟩⟩
        · cases ended
          have closed := Step.runFrom_deriveInTurn_of_deriveTimes closing
          refine .stop (schedule.trans (List.append_nil _).symm)
            ((Alphabet.runFrom_deriveInTurn_append opened).trans closed) ?_
          rw [List.length_append, List.length_replicate, List.length_replicate,
            Nat.sub_add_cancel
              (Nat.le_trans (by decide : closingPasses ≤ plainRunLimit)
                (Nat.le_of_lt many))]
          exact .puttingBack many weightIs (by rw [putBack])
        · cases ended

/-- A staged run that succeeds has made its opening and its closing passes. -/
theorem runFrom_deriveInTurn_of_stagedRun {leaders : Leaders}
    (many : plainRunLimit < passes)
    (run : MonkeyPuzzle.StagedRun leaders passes session (.ok ()) final) :
    runFrom session.stream
        (deriveInTurn
          ((staged leaders).schedule session.derivation.alphabet passes)
          session.derivation.sentence) =
      (.ok final.derivation.sentence, final.stream) := by
  generalize ended : Except.ok () = result at run
  cases run with
  | opening failed => cases ended
  | reading opening unread => cases ended
  | taking opening kept => cases ended
  | closing opening weightIs closing putBack =>
      rename_i weight result put grown late alphabet
      rcases put with _ | ⟨⟨⟩⟩
      · cases ended
      cases ended
      have opened := Step.runFrom_deriveInTurn_of_deriveTimes opening
      have closed := Step.runFrom_deriveInTurn_of_deriveTimes closing
      rw [schedule_of_many leaders many]
      exact (Alphabet.runFrom_deriveInTurn_append opened).trans closed

/-- A growth that fails leaves the sentence of the passes that succeeded. -/
theorem leaves_of_derive (growth : GrowthMode)
    (failed : runFrom session (growth.derive passes) = (.error error, final)) :
    growth.Leaves session.derivation.alphabet passes session.derivation.sentence
      session.stream error final.derivation.sentence final.stream := by
  cases growth.runs_of_derive failed with
  | plain schedule run => exact leaves_of_deriveTimes (schedule _) run
  | staged many run => exact leaves_of_stagedRun many run

/-- A growth that succeeds has made all of its passes. -/
theorem runFrom_deriveInTurn_of_derive (growth : GrowthMode)
    (run : runFrom session (growth.derive passes) = (.ok (), final)) :
    runFrom session.stream
        (deriveInTurn (growth.schedule session.derivation.alphabet passes)
          session.derivation.sentence) =
      (.ok final.derivation.sentence, final.stream) := by
  cases growth.runs_of_derive run with
  | plain schedule run =>
      rw [schedule]
      exact Step.runFrom_deriveInTurn_of_deriveTimes run
  | staged many run => exact runFrom_deriveInTurn_of_stagedRun many run

/-- What a growth leaves alone, whether it fails or not. -/
structure Frames (first last : Session) : Prop where
  start : last.derivation.start = first.derivation.start
  settings : last.derivation.settings = first.derivation.settings
  scene : last.derivation.scene = first.derivation.scene

theorem Frames.trans {first second third : Session} (before : Frames first second)
    (after : Frames second third) : Frames first third :=
  ⟨after.start.trans before.start, after.settings.trans before.settings,
    after.scene.trans before.scene⟩

theorem Frames.withAlphabet {first last : Session} (frames : Frames first last)
    (alphabet : Alphabet) : Frames first (last.withAlphabet alphabet) :=
  ⟨frames.start, frames.settings, frames.scene⟩

theorem frames_of_deriveTimes {result : Except GrowthError Unit}
    (run : runFrom session (Step.deriveTimes passes) = (result, final)) :
    Frames session final := by
  have kept := Step.derivation_of_deriveTimes passes session
  rw [run] at kept
  dsimp only at kept
  constructor <;> rw [kept]

theorem frames_of_derive (growth : GrowthMode) {result : Except GrowthError Unit}
    (run : runFrom session (growth.derive passes) = (result, final)) :
    Frames session final := by
  cases growth.runs_of_derive run with
  | plain _ run => exact frames_of_deriveTimes run
  | @staged leaders _ _ _ run =>
      cases run with
      | opening failed => exact frames_of_deriveTimes failed
      | reading opening unread => exact frames_of_deriveTimes opening
      | taking opening kept => exact (frames_of_deriveTimes opening).withAlphabet _
      | closing opening weightIs closing putBack =>
          have bared := (frames_of_deriveTimes opening).withAlphabet
            (leaders.bared session.derivation.alphabet)
          exact (bared.trans (frames_of_deriveTimes closing)).withAlphabet _

/-- A regrowth that fails while it rewrites the axiom leaves the scene and the axiom as
they were, and the sentence is what the passes that succeeded have made of the axiom.
A regrowth that fails while it draws has made all of its passes.  Then the scene is what
has been drawn of the new sentence before the error: all of the letters before the one
that failed, and of this one what it had requested by then. -/
theorem failed_regrow_leaves (growth : GrowthMode) (session final : Session)
    (error : GrowthError)
    (failed : runFrom session growth.regrow = (.error error, final)) :
    let passes := session.derivation.settings.passes
    let alphabet := session.derivation.alphabet
    let start := session.derivation.start
    let seed := session.derivation.settings.seed
    let fresh :=
      (session.stream.withMode session.derivation.settings.mode).reseed seed
    (runFrom (Step.rewound session) (growth.derive passes) =
          (.error error, final) ∧
        final.derivation.scene = session.derivation.scene ∧
        final.derivation.start = start ∧
        growth.Leaves alphabet passes start fresh error final.derivation.sentence
          final.stream) ∨
      ∃ grown,
        runFrom (Step.rewound session) (growth.derive passes) = (.ok (), grown) ∧
        runFrom grown Step.redraw = (.error error, final) ∧
        final.derivation.start = start ∧
        runFrom fresh (deriveInTurn (growth.schedule alphabet passes) start) =
          (.ok final.derivation.sentence, grown.stream) ∧
        final.derivation.CutShort final.derivation.sentence
          (BranchStack.start Turtle.root session.derivation.settings.stackLimit)
          (grown.stream.reseed seed) error
          final.derivation.scene.calls.toList := by
  intro passes alphabet start seed fresh
  rw [runFrom_regrow, runFrom_bind_eq_error_iff] at failed
  rcases failed with failed | ⟨⟨⟩, grown, grows, redrawn⟩
  · have frames := growth.frames_of_derive failed
    exact Or.inl ⟨failed, frames.scene, frames.start, growth.leaves_of_derive failed⟩
  · right
    have frames := growth.frames_of_derive grows
    have settings : grown.derivation.settings = session.derivation.settings :=
      frames.settings
    have cutShort := Step.cutShort_of_redraw redrawn
    have drawn := Step.derivation_of_redraw grown
    rw [redrawn] at drawn
    dsimp only at drawn
    rw [settings] at cutShort
    refine ⟨grown, grows, redrawn, ?_, ?_, ?_⟩
    · rw [drawn]
      exact frames.start
    · rw [drawn]
      exact growth.runFrom_deriveInTurn_of_derive grows
    · rw [drawn]
      exact cutShort

/-- A second pass that finds no weights leaves the first sentence and the old scene.  A
bracket that closes nothing leaves the one segment before it, and not the old scene. -/
theorem regrows_fail_in_pass_and_at_bracket :
    let alphabet :=
      ((((((Alphabet.empty.append
          (Symbol.ofAction "F" (Act.taperedSegment 1.0))).append
        (Symbol.ofAction "]" Act.restore)).append
        (Symbol.ofAction "A" Act.skip)).append
        (Symbol.ofAction "B" Act.skip)).after
          (.setRules 2 [⟨1.0, [3]⟩])).after
          (.setRules 3 [⟨0.0, [3]⟩]))
    let session : List Letter → Session := fun start =>
      { derivation :=
          { Derivation.ofAlphabet alphabet { Settings.standard with passes := 2 } with
            start := start
            scene := Scene.empty.add (.plane ⟨9.0, 9.0⟩) }
        stream := DrawStream.start (fun _ => 0.5) .deterministic 0
        notes := #[] }
    (∃ error final,
      runFrom (session [0, 2]) plain.regrow = (.error error, final) ∧
        final.derivation.sentence = [0, 3] ∧
        final.derivation.scene = (session [0, 2]).derivation.scene) ∧
      ∃ error final,
        runFrom (session [0, 1]) plain.regrow = (.error error, final) ∧
          final.derivation.sentence = [0, 1] ∧
          final.derivation.scene.placements = 1 := by
  intro alphabet session
  have symbols := (@Alphabet.foldl_append_empty
    [Symbol.ofAction "F" (Act.taperedSegment 1.0), Symbol.ofAction "]" Act.restore,
      Symbol.ofAction "A" Act.skip, Symbol.ofAction "B" Act.skip] (by decide)).2
  simp only [List.foldl_cons, List.foldl_nil] at symbols
  have inPass :
      (runFrom (session [0, 2]) plain.regrow).1.toOption = none ∧
        (runFrom (session [0, 2]) plain.regrow).2.derivation.sentence = [0, 3] ∧
        (runFrom (Step.rewound (session [0, 2])) (plain.derive 2)).1.toOption =
          none := by
    simp only [session, alphabet, symbols]
    decide +kernel
  have atBracket :
      (runFrom (session [0, 1]) plain.regrow).1.toOption = none ∧
        (runFrom (session [0, 1]) plain.regrow).2.derivation.sentence = [0, 1] ∧
        (runFrom (session [0, 1]) plain.regrow).2.derivation.scene.placements =
          1 := by
    simp only [session, alphabet, symbols]
    decide +kernel
  constructor
  · obtain ⟨error, failed⟩ := exists_runFrom_eq_error inPass.1
    refine ⟨error, _, failed, inPass.2.1, ?_⟩
    rcases failed_regrow_leaves plain _ _ _ failed with
      ⟨_, scene, _⟩ | ⟨grown, grows, _⟩
    · exact scene
    · have stuck := inPass.2.2
      rw [show plain.derive 2 = plain.derive
        (session [0, 2]).derivation.settings.passes from rfl, grows] at stuck
      cases stuck
  · obtain ⟨error, failed⟩ := exists_runFrom_eq_error atBracket.1
    exact ⟨error, _, failed, atBracket.2⟩

end GrowthMode

end GrowthGrammar
