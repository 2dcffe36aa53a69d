import GrowthGrammar.Proofs.Derivation.Choiceless
import GrowthGrammar.Proofs.Derivation.Pass
import GrowthGrammar.Proofs.Drawing.Outcome

/-!
# Replaying a growth

In deterministic mode a session has no memory: what it grows and draws depends on
the symbols of its alphabet, the axiom and the settings.  Two runs are compared
side by side.  Where they work on the same symbols, settings and sentence, with
random streams in step, every step keeps them so, and ends in the same way.
-/

namespace GrowthGrammar

/-! ## Passes and programs side by side -/

namespace Alphabet

theorem find_congr {first second : Alphabet}
    (symbols : first.symbols = second.symbols) (letter : Letter) :
    first.find letter = second.find letter := by
  simp [find, symbols]

theorem derive_congr {first second : Alphabet}
    (symbols : first.symbols = second.symbols) (sentence : List Letter) :
    first.derive sentence = second.derive sentence := by
  have expandEach : first.expand = second.expand := by
    funext letter
    simp [expand, find_congr symbols]
  rw [derive_eq, derive_eq, expandEach]

theorem parallel_expand (alphabet : Alphabet) (letter : Letter) :
    Parallel DrawStream.InStep (alphabet.expand letter)
      (alphabet.expand letter) := by
  rw [expand]
  apply (Drawn.parallel_ofExcept _).bind
  intro symbol
  by_cases expands : symbol.expands
  · rw [if_pos expands]
    apply Drawn.parallel_value.bind
    intro value
    exact Drawn.parallel_ofExcept _
  · rw [if_neg expands]
    exact Parallel.pure [letter]

/-- With streams in step a pass gives the same sentence. -/
theorem parallel_derive (alphabet : Alphabet) (sentence : List Letter) :
    Parallel DrawStream.InStep (alphabet.derive sentence)
      (alphabet.derive sentence) := by
  rw [derive_eq, map_eq_pure_bind]
  apply (Parallel.mapM alphabet.parallel_expand sentence).bind
  intro parts
  exact Parallel.pure parts.flatten

end Alphabet

/-- The same outcome but for the random streams, which are in step. -/
structure Outcome.InStep {α : Type} (first second : Outcome α) : Prop where
  result : first.result = second.result
  turtles : first.turtles = second.turtles
  calls : first.calls = second.calls
  notes : first.notes = second.notes
  stream : first.stream.InStep second.stream

/-- With streams in step a program does the same. -/
theorem Program.outcome_inStep {α : Type} (program : Program α)
    (turtles : BranchStack) {first second : DrawStream Float}
    (inStep : first.InStep second) :
    (program.outcome turtles first).InStep (program.outcome turtles second) := by
  induction program generalizing turtles first second with
  | done value => exact ⟨rfl, rfl, rfl, rfl, inStep⟩
  | fail error => exact ⟨rfl, rfl, rfl, rfl, inStep⟩
  | look next ih => exact ih _ _ turtles inStep
  | steer move next ih => exact ih (turtles.steer move) inStep
  | save next ih =>
      simp only [outcome]
      cases turtles.save with
      | error error => exact ⟨rfl, rfl, rfl, rfl, inStep⟩
      | ok deeper => exact ih deeper inStep
  | restore next ih =>
      simp only [outcome]
      cases turtles.restore with
      | error error => exact ⟨rfl, rfl, rfl, rfl, inStep⟩
      | ok shallower => exact ih shallower inStep
  | draw next ih =>
      rw [outcome, outcome, inStep.value_eq]
      exact ih _ turtles inStep.advance
  | request call next ih =>
      obtain ⟨result, nextTurtles, calls, notes, stream⟩ := ih turtles inStep
      exact ⟨result, nextTurtles, congrArg (call :: ·) calls, notes, stream⟩
  | record note next ih =>
      obtain ⟨result, nextTurtles, calls, notes, stream⟩ := ih turtles inStep
      exact ⟨result, nextTurtles, calls, congrArg (note :: ·) notes, stream⟩

/-! ## Sessions side by side -/

/-- Two derivations that are drawn in the same way. -/
structure Derivation.Agrees (first second : Derivation) : Prop where
  symbols : first.alphabet.symbols = second.alphabet.symbols
  settings : first.settings = second.settings
  sentence : first.sentence = second.sentence

theorem Derivation.Agrees.outcome_eq {first second : Derivation}
    (agrees : first.Agrees second) (letters : List Letter)
    (turtles : BranchStack) (stream : DrawStream Float) :
    first.outcome letters turtles stream =
      second.outcome letters turtles stream := by
  have programs : first.programOf = second.programOf := by
    funext letter
    simp [programOf, Alphabet.find_congr agrees.symbols, agrees.settings]
  simp [outcome, program, programs]

/-- Two sessions that derive and draw in the same way. -/
structure Session.InStep (first second : Session) : Prop where
  agrees : first.derivation.Agrees second.derivation
  stream : first.stream.InStep second.stream

namespace Step

/-- A pass keeps sessions in step. -/
theorem parallel_derive : Parallel Session.InStep derive derive := by
  intro first second inStep
  rcases inStep with ⟨agrees, stream⟩
  rw [runFrom_derive, runFrom_derive, Alphabet.derive_congr agrees.symbols,
    agrees.sentence]
  have passes := second.derivation.alphabet.parallel_derive
    second.derivation.sentence stream
  generalize runFrom first.stream _ = firstEnd at passes ⊢
  generalize runFrom second.stream _ = secondEnd at passes ⊢
  rcases firstEnd with ⟨result, firstStream⟩
  rcases secondEnd with ⟨_, secondStream⟩
  rcases passes with ⟨rfl, streams⟩
  cases result with
  | error error => exact ⟨rfl, agrees, streams⟩
  | ok sentence =>
      exact ⟨rfl, ⟨agrees.symbols, agrees.settings, rfl⟩, streams⟩

theorem parallel_deriveTimes (passes : Nat) :
    Parallel Session.InStep (deriveTimes passes) (deriveTimes passes) := by
  induction passes with
  | zero => exact Parallel.pure ()
  | succ passes ih =>
      apply parallel_derive.bind
      intro _
      exact ih

/-- Drawing into equal scenes keeps sessions in step and their scenes equal. -/
theorem parallel_drawSentence :
    Parallel
      (fun first second => Session.InStep first second ∧
        first.derivation.scene = second.derivation.scene)
      drawSentence drawSentence := by
  rintro first second ⟨⟨agrees, stream⟩, sameScene⟩
  rw [runFrom_drawSentence, runFrom_drawSentence]
  simp only [agrees.outcome_eq, agrees.settings, agrees.sentence, sameScene]
  obtain ⟨result, _, calls, _, streams⟩ := Program.outcome_inStep
    (second.derivation.program second.derivation.sentence)
    (BranchStack.start Turtle.root second.derivation.settings.stackLimit) stream
  rw [Derivation.outcome, result, calls]
  exact ⟨rfl, ⟨⟨agrees.symbols, rfl, rfl⟩, streams⟩, rfl⟩

/-- Passes change nothing of a derivation but the sentence. -/
theorem derivation_of_deriveTimes (passes : Nat) (session : Session) :
    (runFrom session (deriveTimes passes)).2.derivation =
      { session.derivation with
        sentence :=
          (runFrom session (deriveTimes passes)).2.derivation.sentence } := by
  induction passes generalizing session with
  | zero => rfl
  | succ passes ih =>
      rw [deriveTimes, runFrom_bind]
      have derived : (runFrom session derive).2.derivation =
          { session.derivation with
            sentence := (runFrom session derive).2.derivation.sentence } := by
        rw [runFrom_derive]
        split <;> rfl
      generalize runFrom session derive = ended at derived ⊢
      rcases ended with ⟨result, next⟩
      cases result with
      | error error => exact derived
      | ok value =>
          have grown := ih next
          simp only at derived ⊢
          rw [grown, derived]

/-- Passes leave the alphabet, whether they fail or not. -/
theorem alphabet_of_deriveTimes {session final : Session} {passes : Nat}
    {result : Except GrowthError Unit}
    (run : runFrom session (deriveTimes passes) = (result, final)) :
    final.derivation.alphabet = session.derivation.alphabet := by
  have derivation := derivation_of_deriveTimes passes session
  rw [run] at derivation
  rw [derivation]

/-- The session from which a drawing that starts over draws. -/
def cleared (session : Session) : Session :=
  { session with
    derivation := { session.derivation with scene := Scene.empty }
    stream := session.stream.reseed session.derivation.settings.seed }

theorem runFrom_redraw (session : Session) :
    runFrom session redraw = runFrom (cleared session) drawSentence :=
  rfl

theorem derivation_of_redraw (session : Session) :
    (runFrom session redraw).2.derivation =
      { session.derivation with
        scene := (runFrom session redraw).2.derivation.scene } := by
  rw [runFrom_redraw, runFrom_drawSentence]
  rfl

/-- Whether a drawing that starts over succeeds depends on the sentence and on the
random stream at its seed. -/
theorem exists_redraw_of_drawn {session : Session}
    (drawn : (session.derivation.outcome session.derivation.sentence
      (BranchStack.start Turtle.root session.derivation.settings.stackLimit)
      (cleared session).stream).result = .ok ()) :
    ∃ report final, runFrom session redraw = (.ok report, final) := by
  rw [runFrom_redraw, runFrom_drawSentence]
  have clearedDrawn : ((cleared session).derivation.outcome
      (cleared session).derivation.sentence
      (BranchStack.start Turtle.root
        (cleared session).derivation.settings.stackLimit)
      (cleared session).stream).result = .ok () := drawn
  simp only [clearedDrawn]
  exact ⟨_, _, rfl⟩

/-- The session from which a regrowth starts its passes. -/
def rewound (session : Session) : Session :=
  { session with
    derivation :=
      { session.derivation with sentence := session.derivation.start }
    stream :=
      (session.stream.withMode session.derivation.settings.mode).reseed
        session.derivation.settings.seed }

theorem runFrom_regrow (session : Session) :
    runFrom session regrow =
      runFrom (rewound session) (do
        deriveTimes session.derivation.settings.passes
        redraw) :=
  rfl

/-- A drawing that starts over depends only on what is drawn. -/
theorem exists_redraw {first second final : Session} {report : DrawingReport}
    (agrees : first.derivation.Agrees second.derivation)
    (firstDeterministic : first.stream.mode = .deterministic)
    (secondDeterministic : second.stream.mode = .deterministic)
    (redrawn : runFrom first redraw = (.ok report, final)) :
    ∃ again, runFrom second redraw = (.ok report, again) ∧
      Session.InStep final again ∧
      final.derivation.scene = again.derivation.scene := by
  have inStep : (cleared first).InStep (cleared second) := by
    constructor
    · exact ⟨agrees.symbols, agrees.settings, agrees.sentence⟩
    · constructor
      · exact firstDeterministic
      · exact firstDeterministic.trans secondDeterministic.symm
      · exact congrArg Settings.seed agrees.settings
  rw [runFrom_redraw] at redrawn ⊢
  exact parallel_drawSentence.exists_run ⟨inStep, rfl⟩ redrawn

/-- A growth that starts over depends only on symbols, axiom and settings. -/
theorem rewound_inStep {first second : Session}
    (symbols : first.derivation.alphabet.symbols =
      second.derivation.alphabet.symbols)
    (start : first.derivation.start = second.derivation.start)
    (settings : first.derivation.settings = second.derivation.settings)
    (deterministic : first.derivation.settings.mode = .deterministic) :
    (rewound first).InStep (rewound second) := by
  constructor
  · exact ⟨symbols, settings, start⟩
  · constructor
    · exact deterministic
    · exact congrArg Settings.mode settings
    · exact congrArg Settings.seed settings

/-- A regrowth that succeeds is a growth from the axiom and a drawing of what has
grown; nothing else of the derivation changes. -/
theorem exists_growth_of_regrow {session final : Session}
    {report : DrawingReport}
    (regrown : runFrom session regrow = (.ok report, final)) :
    ∃ grown,
      runFrom (rewound session)
          (deriveTimes session.derivation.settings.passes) = (.ok (), grown) ∧
        runFrom grown redraw = (.ok report, final) ∧
        grown.derivation =
          { session.derivation with sentence := grown.derivation.sentence } ∧
        final.derivation =
          { grown.derivation with scene := final.derivation.scene } := by
  rw [runFrom_regrow, runFrom_bind_eq_ok_iff] at regrown
  rcases regrown with ⟨⟨⟩, grown, growth, redrawn⟩
  refine ⟨grown, growth, redrawn, ?_, ?_⟩
  · have kept := derivation_of_deriveTimes session.derivation.settings.passes
      (rewound session)
    rw [growth] at kept
    exact kept
  · have kept := derivation_of_redraw grown
    rw [redrawn] at kept
    exact kept

/-- A regrowth in deterministic mode forgets what was there before.  Its sentence
is that of the passes from the axiom with a fresh random stream, and its
drawing is that of this sentence with another fresh stream.  Every session with
the same symbols, axiom and settings regrows to the same, and every session with
the same sentence redraws the same. -/
theorem regrow_forgets_history {session final : Session}
    {report : DrawingReport}
    (deterministic : session.derivation.settings.mode = .deterministic)
    (regrown : runFrom session regrow = (.ok report, final)) :
    let settings := session.derivation.settings
    let fresh := fun (ambient : Nat → Float) (sentence : List Letter) =>
      ({ derivation :=
          { session.derivation with
            sentence := sentence
            scene := Scene.empty }
         stream := DrawStream.start ambient .deterministic settings.seed
         notes := #[] } : Session)
    (∀ ambient, ∃ grown,
      runFrom (fresh ambient session.derivation.start)
          (deriveTimes settings.passes) = (.ok (), grown) ∧
        final.derivation.sentence = grown.derivation.sentence) ∧
    (∀ ambient, ∃ drawn,
      runFrom (fresh ambient final.derivation.sentence) drawSentence =
          (.ok report, drawn) ∧
        final.derivation.scene = drawn.derivation.scene ∧
        final.stream.mode = drawn.stream.mode ∧
        final.stream.cursor = drawn.stream.cursor) ∧
    final.derivation =
      { session.derivation with
        sentence := final.derivation.sentence
        scene := final.derivation.scene } ∧
    (∀ other : Session,
      other.derivation.alphabet.symbols = session.derivation.alphabet.symbols →
      other.derivation.start = session.derivation.start →
      other.derivation.settings = session.derivation.settings →
        ∃ again, runFrom other regrow = (.ok report, again) ∧
          again.derivation.sentence = final.derivation.sentence ∧
          again.derivation.scene = final.derivation.scene ∧
          again.stream.mode = final.stream.mode ∧
          again.stream.cursor = final.stream.cursor) ∧
    (∀ other : Session, other.derivation.Agrees final.derivation →
      other.stream.mode = .deterministic →
        ∃ again, runFrom other redraw = (.ok report, again) ∧
          again.derivation.scene = final.derivation.scene ∧
          again.stream.mode = final.stream.mode ∧
          again.stream.cursor = final.stream.cursor) := by
  intro settings fresh
  obtain ⟨grown, growth, redrawn, grownIs, finalIs⟩ :=
    exists_growth_of_regrow regrown
  have grownSymbols : grown.derivation.alphabet.symbols =
      session.derivation.alphabet.symbols := by rw [grownIs]
  have grownSettings : grown.derivation.settings = settings := by rw [grownIs]
  have sentenceIs : final.derivation.sentence = grown.derivation.sentence := by
    rw [finalIs]
  have grownInStep : ∀ other : Session, (rewound session).InStep other →
      ∃ otherGrown,
        runFrom other (deriveTimes settings.passes) = (.ok (), otherGrown) ∧
          grown.InStep otherGrown := by
    intro other inStep
    exact (parallel_deriveTimes settings.passes).exists_run inStep growth
  have grownDeterministic : grown.stream.mode = .deterministic := by
    obtain ⟨_, _, inStep⟩ := grownInStep (rewound session)
      (rewound_inStep rfl rfl rfl deterministic)
    exact inStep.stream.deterministic
  refine ⟨?_, ?_, ?_, ?_, ?_⟩
  · intro ambient
    have inStep : (rewound session).InStep
        (fresh ambient session.derivation.start) :=
      ⟨⟨rfl, rfl, rfl⟩, ⟨deterministic, deterministic, rfl⟩⟩
    obtain ⟨freshGrown, freshGrowth, grownTogether⟩ := grownInStep _ inStep
    exact ⟨freshGrown, freshGrowth,
      sentenceIs.trans grownTogether.agrees.sentence⟩
  · intro ambient
    have freshInStep : (cleared grown).InStep
        (fresh ambient final.derivation.sentence) :=
      ⟨⟨grownSymbols, grownSettings, sentenceIs.symm⟩,
        ⟨grownDeterministic, grownDeterministic,
          congrArg Settings.seed grownSettings⟩⟩
    rw [runFrom_redraw] at redrawn
    obtain ⟨drawn, drawing, inStep, scenes⟩ :=
      parallel_drawSentence.exists_run ⟨freshInStep, rfl⟩ redrawn
    exact ⟨drawn, drawing, scenes, inStep.stream.mode_eq, inStep.stream.cursor_eq⟩
  · rw [sentenceIs, ← congrArg Derivation.sentence grownIs]
    rw [finalIs, grownIs]
  · intro other symbols start sameSettings
    obtain ⟨otherGrown, otherGrowth, grownTogether⟩ := grownInStep (rewound other)
      (rewound_inStep symbols.symm start.symm sameSettings.symm deterministic)
    have otherDeterministic : otherGrown.stream.mode = .deterministic :=
      grownTogether.stream.mode_eq.symm.trans grownDeterministic
    obtain ⟨again, redrawnAgain, inStep, scenes⟩ := exists_redraw
      grownTogether.agrees grownDeterministic otherDeterministic redrawn
    refine ⟨again, ?_, inStep.agrees.sentence.symm, scenes.symm,
      inStep.stream.mode_eq.symm, inStep.stream.cursor_eq.symm⟩
    rw [runFrom_regrow, sameSettings, runFrom_bind_of_ok otherGrowth]
    exact redrawnAgain
  · intro other agrees otherDeterministic
    have grownAgrees : grown.derivation.Agrees other.derivation := by
      rw [finalIs] at agrees
      exact ⟨agrees.symbols.symm, agrees.settings.symm, agrees.sentence.symm⟩
    obtain ⟨again, redrawnAgain, inStep, scenes⟩ := exists_redraw grownAgrees
      grownDeterministic otherDeterministic redrawn
    exact ⟨again, redrawnAgain, scenes.symm, inStep.stream.mode_eq.symm,
      inStep.stream.cursor_eq.symm⟩

/-- Two passes that double a letter take three values, and the drawing of four segments
of random width takes four.  All is the same for a session that has another sentence and
another random stream. -/
theorem regrow_after_other_history :
    let segment : Action := do
      let width ← Act.randomCoordinate
      Act.placeSegment width width 1.0
    let alphabet := Alphabet.empty.afterAll
      [.define "A" segment, .setRules 0 [⟨1.0, [0, 0]⟩]]
    let settings :=
      { Settings.standard with
        mode := .deterministic
        passes := 2
        seed := 7 }
    let session : Session :=
      { derivation :=
          { Derivation.ofAlphabet alphabet settings with start := [0] }
        stream := DrawStream.start (fun _ => 0.5) .deterministic 0
        notes := #[] }
    let other : Session :=
      { derivation := { session.derivation with sentence := [0, 0] }
        stream := DrawStream.start (fun _ => 0.25) .stochastic 3
        notes := #[] }
    ∃ final again,
      runFrom session regrow =
          (.ok { placements := 4, overBudget := false }, final) ∧
        final.derivation.sentence = [0, 0, 0, 0] ∧ final.stream.drawn = 3 + 4 ∧
        runFrom other regrow =
          (.ok { placements := 4, overBudget := false }, again) ∧
        again.derivation.sentence = final.derivation.sentence ∧
        again.derivation.scene = final.derivation.scene := by
  intro segment alphabet settings session other
  have holds : alphabet.Holds _ :=
    (Edit.Makes.holds_after
      ((Edit.Makes.define (by decide) segment).bind (.pure () _)) .empty).after_setRules
        rfl (by decide +kernel) (by decide +kernel)
  have choiceless : alphabet.IsChoiceless := by
    intro letter symbol found _
    rw [holds.find_eq_ok_iff] at found
    cases List.mem_singleton.mp (List.mem_of_getElem? found)
    exact ⟨⟨1.0, [0, 0]⟩, rfl, by decide +kernel⟩
  have found : alphabet.find 0 = .ok _ := holds.find_eq rfl
  have doubles : alphabet.successor 0 = [0, 0] := by
    rw [Alphabet.successor, found]
    rfl
  have takes : alphabet.expandsAt 0 = true := Alphabet.expandsAt_eq found
  have defined : alphabet.contains 0 = true := Alphabet.contains_of_find found
  have grown : alphabet.offspring 2 [0] = [0, 0, 0, 0] ∧
      alphabet.demandTimes 2 [0] = 3 := by
    simp [Alphabet.offspring, Alphabet.demandTimes, Alphabet.demand, doubles, takes]
  have growth := runFrom_deriveTimes_of_choiceless holds.reachable choiceless 2
    (show (rewound session).derivation.alphabet = alphabet from rfl)
    (List.forall_mem_singleton.mpr defined)
  change runFrom (rewound session) (deriveTimes 2) = (.ok (),
    { rewound session with
      derivation :=
        { session.derivation with sentence := alphabet.offspring 2 [0] }
      stream := (rewound session).stream.after (alphabet.demandTimes 2 [0]) }) at growth
  rw [grown.1, grown.2] at growth
  have alphabetIs : alphabet =
      (Alphabet.empty.append (Symbol.ofAction "A" segment)).after
        (.setRules 0 [⟨1.0, [0, 0]⟩]) := by
    rw [← Alphabet.after_define_empty rfl segment]
    rfl
  have grows : runFrom session regrow = _ :=
    (runFrom_regrow session).trans (runFrom_bind_of_ok growth fun _ => redraw)
  have reported : (runFrom session regrow).1.toOption =
        some { placements := 4, overBudget := false } ∧
      (runFrom session regrow).2.derivation.sentence = [0, 0, 0, 0] ∧
      (runFrom session regrow).2.stream.drawn = 7 := by
    rw [grows]
    simp only [session, alphabetIs, Alphabet.append_empty]
    decide +kernel
  have regrown := runFrom_eq_ok reported.1
  obtain ⟨_, _, _, others, _⟩ := regrow_forgets_history rfl regrown
  obtain ⟨again, regrownAgain, sentences, scenes, _⟩ := others other rfl rfl rfl
  exact ⟨_, again, regrown, reported.2.1, reported.2.2, regrownAgain, sentences, scenes⟩

end Step

end GrowthGrammar
