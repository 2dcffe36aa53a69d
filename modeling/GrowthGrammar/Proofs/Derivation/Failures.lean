import GrowthGrammar.Proofs.Derivation.Replay

/-!
# What a failure leaves

A growth fails in one of its passes, and then leaves the sentence of the passes
before.  A drawing fails at one of its letters, and then leaves the requests of the
letters before, and those that this letter made until it failed.
-/

namespace GrowthGrammar

/-! ## Passes in turn -/

namespace Alphabet

/-- One pass after another, each with its own alphabet. -/
def deriveInTurn : List Alphabet → List Letter → Drawn Float (List Letter)
  | [], sentence => pure sentence
  | alphabet :: rest, sentence => do
      let derived ← alphabet.derive sentence
      deriveInTurn rest derived

@[simp]
theorem runFrom_deriveInTurn_nil (sentence : List Letter)
    (stream : DrawStream Float) :
    runFrom stream (deriveInTurn [] sentence) = (.ok sentence, stream) :=
  rfl

theorem deriveInTurn_append (first second : List Alphabet)
    (sentence : List Letter) :
    deriveInTurn (first ++ second) sentence =
      deriveInTurn first sentence >>= deriveInTurn second := by
  induction first generalizing sentence with
  | nil => exact (pure_bind _ _).symm
  | cons alphabet rest ih => simp only [List.cons_append, deriveInTurn, bind_assoc, ih]

/-- Passes that succeed can be followed by others. -/
theorem runFrom_deriveInTurn_append {first second : List Alphabet}
    {sentence middle : List Letter} {stream next : DrawStream Float}
    (run : runFrom stream (deriveInTurn first sentence) = (.ok middle, next)) :
    runFrom stream (deriveInTurn (first ++ second) sentence) =
      runFrom next (deriveInTurn second middle) := by
  rw [deriveInTurn_append, runFrom_bind_of_ok run]

end Alphabet

namespace Step

open Alphabet (deriveInTurn)

/-- The passes of a session are passes of its alphabet over its sentence. -/
theorem runFrom_deriveInTurn_of_deriveTimes {passes : Nat}
    {session final : Session}
    (run : runFrom session (deriveTimes passes) = (.ok (), final)) :
    runFrom session.stream
        (deriveInTurn (List.replicate passes session.derivation.alphabet)
          session.derivation.sentence) =
      (.ok final.derivation.sentence, final.stream) := by
  induction passes generalizing session with
  | zero =>
      cases run
      rfl
  | succ passes ih =>
      rw [deriveTimes, runFrom_bind_eq_ok_iff] at run
      obtain ⟨⟨⟩, next, passRun, run⟩ := run
      have later := ih run
      rw [runFrom_derive] at passRun
      split at passRun
      next derived stream deriveRun =>
        cases passRun
        rw [List.replicate_succ, deriveInTurn, runFrom_bind_of_ok deriveRun]
        exact later
      next => cases passRun

/-- Passes that fail leave the sentence of those that succeeded, and the random
stream of the one that failed. -/
theorem exists_deriveInTurn_of_deriveTimes {passes : Nat}
    {session final : Session} {error : GrowthError}
    (failed : runFrom session (deriveTimes passes) = (.error error, final)) :
    ∃ done rest middle,
      List.replicate passes session.derivation.alphabet =
          done ++ session.derivation.alphabet :: rest ∧
        runFrom session.stream (deriveInTurn done session.derivation.sentence) =
          (.ok final.derivation.sentence, middle) ∧
        runFrom middle
            (session.derivation.alphabet.derive final.derivation.sentence) =
          (.error error, final.stream) := by
  obtain ⟨done, few, reached, run, failed⟩ := runFrom_deriveTimes_eq_error failed
  have sentence : final.derivation.sentence = reached.derivation.sentence :=
    congrArg Derivation.sentence (derivation_of_derive_eq_error failed)
  have alphabet : reached.derivation.alphabet = session.derivation.alphabet :=
    alphabet_of_deriveTimes run
  refine ⟨List.replicate done session.derivation.alphabet,
    List.replicate (passes - done - 1) session.derivation.alphabet,
    reached.stream, ?_, ?_, ?_⟩
  · rw [← List.replicate_succ, List.replicate_append_replicate]
    congr 1
    omega
  · rw [sentence]
    exact runFrom_deriveInTurn_of_deriveTimes run
  · rw [sentence, ← alphabet]
    rw [runFrom_derive] at failed
    split at failed
    next => cases failed
    next _ stream deriveRun =>
      cases failed
      exact deriveRun

end Step

/-! ## Drawings -/

namespace Derivation

/-- A drawing was cut short by an error at one of its letters.  The requests are
those of the letters before, and those that this letter made itself. -/
def CutShort (derivation : Derivation) (letters : List Letter)
    (turtles : BranchStack) (stream : DrawStream Float) (error : GrowthError)
    (calls : List (Call Float32)) : Prop :=
  ∃ before letter rest, letters = before ++ letter :: rest ∧
    let drawn := derivation.outcome before turtles stream
    let cut := (derivation.programOf letter).outcome drawn.turtles drawn.stream
    drawn.result = .ok () ∧ cut.result = .error error ∧
      calls = drawn.calls ++ cut.calls

/-- An error in a drawing comes from one of the letters, and those before are drawn
to their end. -/
theorem cutShort_of_outcome (derivation : Derivation) {letters : List Letter}
    {turtles : BranchStack} {stream : DrawStream Float} {error : GrowthError}
    (failed : (derivation.outcome letters turtles stream).result = .error error) :
    derivation.CutShort letters turtles stream error
      (derivation.outcome letters turtles stream).calls := by
  induction letters generalizing turtles stream with
  | nil => cases failed
  | cons letter letters ih =>
      rw [outcome_cons] at failed ⊢
      cases first : ((derivation.programOf letter).outcome turtles stream).result with
      | error cause =>
          refine ⟨[], letter, letters, rfl, rfl, ?_, ?_⟩
          · rw [Outcome.andThen, first] at failed
            exact first.trans failed
          · rw [Outcome.andThen, first]
            rfl
      | ok value =>
          rw [Outcome.andThen_of_ok first] at failed ⊢
          obtain ⟨before, cause, rest, splits, drawn, cut, calls⟩ := ih failed
          refine ⟨letter :: before, cause, rest, by rw [splits]; rfl, ?_⟩
          rw [outcome_cons, Outcome.andThen_of_ok first]
          refine ⟨drawn, cut, ?_⟩
          rw [calls, List.append_assoc]

end Derivation

namespace Step

/-- A drawing that starts over and fails leaves nothing in the scene but what it has
drawn itself. -/
theorem cutShort_of_redraw {session final : Session} {error : GrowthError}
    (failed : runFrom session redraw = (.error error, final)) :
    session.derivation.CutShort session.derivation.sentence
      (BranchStack.start Turtle.root session.derivation.settings.stackLimit)
      (session.stream.reseed session.derivation.settings.seed) error
      final.derivation.scene.calls.toList := by
  rw [runFrom_redraw] at failed
  obtain ⟨outcomeFailed, finalIs⟩ := outcome_of_drawSentence_eq_error failed
  have calls : ∀ drawn : List (Call Float32),
      (Scene.empty.extend drawn).calls.toList = drawn := by
    simp [Scene.extend, Scene.empty]
  rw [finalIs]
  dsimp only [cleared]
  rw [calls]
  exact (cleared session).derivation.cutShort_of_outcome outcomeFailed

end Step

end GrowthGrammar
