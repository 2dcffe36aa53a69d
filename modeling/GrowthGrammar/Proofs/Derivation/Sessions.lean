import GrowthGrammar.Proofs.Alphabet.Closure
import GrowthGrammar.Proofs.Derivation.Replay
import GrowthGrammar.Proofs.Guarantee

/-!
# Reachable sessions

A host edits the alphabet of a session, sets its axiom, derives and draws, in any
order and whether these steps fail or not.  Letters are checked when an axiom or
rules are set, and never again.  Every letter that a session can come to hold
stands for a symbol all the same, so that neither a pass nor a drawing ever meets
a letter that does not.
-/

namespace GrowthGrammar

/-- A request to a session. -/
inductive SessionRequest where
  | edit (request : EditRequest)
  | setAxiom (sentence : List Letter)
  | resetSentence
  | derive
  | deriveTimes (passes : Nat)
  | drawSentence
  | redraw
  | regrow

/-- The requested step, without its result. -/
def SessionRequest.step : SessionRequest → Step Unit
  | edit request => Step.edit request.edit
  | setAxiom sentence => Step.setAxiom sentence
  | resetSentence => Step.resetSentence
  | derive => Step.derive
  | deriveTimes passes => Step.deriveTimes passes
  | drawSentence => do let _ ← Step.drawSentence
  | redraw => do let _ ← Step.redraw
  | regrow => do let _ ← Step.regrow

namespace Session

/-- The session that a request leaves, whether it failed or not. -/
def after (session : Session) (request : SessionRequest) : Session :=
  (runFrom session request.step).2

/-- The sessions that a host can have.  Between two requests the host may change
the settings and the scene, and use the random stream and the notes for other
purposes. -/
inductive Reachable : Session → Prop where
  | start {alphabet : Alphabet} (reachable : alphabet.Reachable)
      (settings : Settings) (stream : DrawStream Float) (notes : Array Note) :
      Reachable
        { derivation := Derivation.ofAlphabet alphabet settings
          stream := stream
          notes := notes }
  | request {session : Session} (request : SessionRequest)
      (reachable : Reachable session) : Reachable (session.after request)
  | hosted {session : Session} (reachable : Reachable session)
      (settings : Settings) (scene : Scene Float32) (stream : DrawStream Float)
      (notes : Array Note) :
      Reachable
        { derivation :=
            { session.derivation with settings := settings, scene := scene }
          stream := stream
          notes := notes }

/-- All letters of the session stand for symbols of an alphabet that a host can
have. -/
structure Sound (session : Session) : Prop where
  alphabet : session.derivation.alphabet.Reachable
  start : session.derivation.alphabet.Defines session.derivation.start
  sentence : session.derivation.alphabet.Defines session.derivation.sentence

end Session

/-! ## Passes -/

namespace Alphabet

theorem Becomes.defines {alphabet : Alphabet} (closed : alphabet.Closed)
    {letter : Letter} {value : Float} {part : List Letter}
    (becomes : alphabet.Becomes letter value part) : alphabet.Defines part := by
  cases becomes with
  | kept found _ =>
      intro other listed
      rw [List.mem_singleton.mp listed]
      exact contains_of_find found
  | replaced found _ _ ruleFound =>
      exact closed found _ (List.mem_of_getElem? ruleFound)

/-- A pass over letters that stand for symbols gives such letters again, or it
fails at a symbol without weights. -/
theorem runFrom_derive_cases {alphabet : Alphabet}
    (reachable : alphabet.Reachable) {sentence : List Letter}
    (defines : alphabet.Defines sentence) (stream : DrawStream Float) :
    (∃ derived next,
      runFrom stream (alphabet.derive sentence) = (.ok derived, next) ∧
        alphabet.Defines derived) ∨
    ∃ name next,
      runFrom stream (alphabet.derive sentence) =
        (.error (.weightlessRules name), next) := by
  rcases alphabet.no_barren_or_first sentence with
    fertile | ⟨before, letter, rest, splits, fertile, barren⟩
  · left
    obtain ⟨parts, passes, run⟩ := exists_passesInto_of_no_barren
      reachable.tablesFit defines fertile stream
    have joined : runFrom stream (alphabet.derive sentence) =
        (.ok parts.flatten, stream.after (alphabet.demand sentence)) := by
      rw [derive_eq, runFrom_map, run]
      rfl
    refine ⟨parts.flatten, _, joined, ?_⟩
    exact forall_mem_flatten_of_forall₂ passes.forall₂ fun ⟨_, becomes⟩ =>
      becomes.defines reachable.closed
  · right
    have definesBefore : alphabet.Defines before := by
      intro earlier listed
      apply defines
      rw [splits]
      exact List.mem_append_left _ listed
    obtain ⟨symbol, _, run⟩ := exists_runFrom_derive_of_barren
      reachable.tablesFit definesBefore fertile barren stream
    rw [splits]
    exact ⟨symbol.name, _, run⟩

end Alphabet

/-! ## What steps keep -/

namespace Step

theorem runFrom_inspect {α : Type} (session : Session)
    (look : Derivation → Except GrowthError α) :
    runFrom session (inspect look) = (look session.derivation, session) := by
  rw [inspect, runFrom_bind]
  simp only [runFrom_get]
  cases look session.derivation <;> rfl

theorem runFrom_setAxiom (session : Session) (sentence : List Letter) :
    runFrom session (setAxiom sentence) =
      match session.derivation.alphabet.requireLetters sentence with
      | .error error => (.error error, session)
      | .ok _ =>
          (.ok (),
            { session with
              derivation :=
                { session.derivation with
                  start := sentence
                  sentence := sentence } }) := by
  rw [setAxiom, runFrom_bind, runFrom_inspect]
  cases session.derivation.alphabet.requireLetters sentence <;> rfl

end Step

namespace Session.Sound

open Step

variable {session : Session}

/-- The rest of a session does not matter. -/
theorem congr (sound : session.Sound) {other : Session}
    (alphabet : other.derivation.alphabet = session.derivation.alphabet)
    (start : other.derivation.start = session.derivation.start)
    (sentence : other.derivation.sentence = session.derivation.sentence) :
    other.Sound := by
  constructor
  · rw [alphabet]
    exact sound.alphabet
  · rw [alphabet, start]
    exact sound.start
  · rw [alphabet, sentence]
    exact sound.sentence

theorem keeps_edit (request : EditRequest) :
    Preserves Sound (Step.edit request.edit) := by
  intro session sound
  constructor
  · exact .edit request sound.alphabet
  · exact sound.start.after request
  · exact sound.sentence.after request

theorem keeps_setAxiom (sentence : List Letter) :
    Preserves Sound (setAxiom sentence) := by
  intro session sound
  rw [runFrom_setAxiom]
  cases checked : session.derivation.alphabet.requireLetters sentence with
  | error error => exact sound
  | ok passed =>
      have defines :=
        (session.derivation.alphabet.requireLetters_eq_ok_iff sentence).mp checked
      exact ⟨sound.alphabet, defines, defines⟩

theorem keeps_resetSentence : Preserves Sound resetSentence := by
  intro session sound
  exact ⟨sound.alphabet, sound.start, sound.start⟩

theorem keeps_derive : Preserves Sound Step.derive := by
  intro session sound
  rw [runFrom_derive]
  rcases Alphabet.runFrom_derive_cases sound.alphabet sound.sentence
    session.stream with ⟨derived, next, run, defines⟩ | ⟨name, next, run⟩
  · rw [run]
    exact ⟨sound.alphabet, sound.start, defines⟩
  · rw [run]
    exact sound.congr rfl rfl rfl

theorem keeps_deriveTimes (passes : Nat) :
    Preserves Sound (Step.deriveTimes passes) := by
  induction passes with
  | zero => exact .pure ()
  | succ passes ih => exact keeps_derive.bind fun _ => ih

theorem keeps_drawSentence : Preserves Sound Step.drawSentence := by
  intro session sound
  rw [runFrom_drawSentence]
  exact sound.congr rfl rfl rfl

theorem keeps_redraw : Preserves Sound Step.redraw := by
  intro session sound
  rw [runFrom_redraw]
  apply keeps_drawSentence
  exact sound.congr rfl rfl rfl

theorem rewound (sound : session.Sound) : (Step.rewound session).Sound :=
  ⟨sound.alphabet, sound.start, sound.start⟩

theorem keeps_regrow : Preserves Sound Step.regrow := by
  intro session sound
  rw [runFrom_regrow]
  have keeps := (keeps_deriveTimes session.derivation.settings.passes).bind
    fun _ => keeps_redraw
  exact keeps sound.rewound

theorem keeps_request (request : SessionRequest) :
    Preserves Sound request.step := by
  cases request with
  | edit request => exact keeps_edit request
  | setAxiom sentence => exact keeps_setAxiom sentence
  | resetSentence => exact keeps_resetSentence
  | derive => exact keeps_derive
  | deriveTimes passes => exact keeps_deriveTimes passes
  | drawSentence => exact keeps_drawSentence.bind fun _ => .pure ()
  | redraw => exact keeps_redraw.bind fun _ => .pure ()
  | regrow => exact keeps_regrow.bind fun _ => .pure ()

end Session.Sound

theorem Session.Reachable.sound {session : Session}
    (reachable : session.Reachable) : session.Sound := by
  induction reachable with
  | start reachable settings stream notes =>
      exact ⟨reachable, nofun, nofun⟩
  | request request _ sound => exact Sound.keeps_request request sound
  | hosted _ settings scene stream notes sound =>
      exact sound.congr rfl rfl rfl

/-! ## Failures -/

/-- Whether the action of some symbol fails by itself. -/
def Derivation.ActionFails (derivation : Derivation) (error : GrowthError) :
    Prop :=
  ∃ letter symbol turtles stream, derivation.alphabet.find letter = .ok symbol ∧
    ((symbol.action derivation.settings).outcome turtles stream).result =
      .error error

namespace Derivation

variable {derivation : Derivation} {letters : List Letter}

/-- Where all letters stand for symbols, only an action can fail. -/
theorem actionFails_of_outcome (defines : derivation.alphabet.Defines letters)
    {turtles : BranchStack} {stream : DrawStream Float} {error : GrowthError}
    (failed : (derivation.outcome letters turtles stream).result =
      .error error) : derivation.ActionFails error := by
  induction letters generalizing turtles stream with
  | nil => simp at failed
  | cons letter rest ih =>
      rw [Alphabet.Defines, List.forall_mem_cons] at defines
      rw [outcome_cons, Outcome.result_andThen_eq_error_iff] at failed
      rcases failed with failed | ⟨_, _, failed⟩
      · obtain ⟨symbol, found⟩ := Alphabet.exists_find_of_contains defines.1
        rw [programOf, found] at failed
        exact ⟨letter, symbol, turtles, stream, found, failed⟩
      · exact ih defines.2 failed

section Symbols

variable {symbols : List Symbol}
  (found : List.Forall₂
    (fun letter symbol => derivation.alphabet.find letter = .ok symbol)
    letters symbols)

include found

theorem forM_drawSymbol_eq :
    letters.forM derivation.drawSymbol =
      symbols.forM fun symbol => (symbol.action derivation.settings).run := by
  simp only [List.forM_eq_forM]
  induction found with
  | nil => rfl
  | @cons letter symbol _ _ firstFound _ ih =>
      have drawn : derivation.drawSymbol letter =
          (symbol.action derivation.settings).run := by
        rw [drawSymbol, firstFound]
      rw [List.forM_cons, List.forM_cons, drawn, ih]

theorem filterMap_name_eq :
    (letters.filterMap fun letter =>
        (derivation.alphabet.find letter).toOption.map Symbol.name) =
      symbols.map Symbol.name := by
  induction found with
  | nil => rfl
  | cons firstFound _ ih =>
      rw [List.filterMap_cons, firstFound, ih]
      rfl

end Symbols

end Derivation

namespace Session.Sound

variable {session final : Session} {error : GrowthError}
  (sound : session.Sound)

include sound

theorem weightless_of_derive
    (failed : runFrom session Step.derive = (.error error, final)) :
    ∃ name, error = .weightlessRules name := by
  rw [Step.runFrom_derive] at failed
  rcases Alphabet.runFrom_derive_cases sound.alphabet sound.sentence
    session.stream with ⟨derived, next, run, _⟩ | ⟨name, next, run⟩
  · simp [run] at failed
  · rw [run, Prod.mk.injEq, Except.error.injEq] at failed
    exact ⟨name, failed.1.symm⟩

/-- Passes fail for want of weights only. -/
theorem weightless_of_deriveTimes {passes : Nat}
    (failed : runFrom session (Step.deriveTimes passes) = (.error error, final)) :
    ∃ name, error = .weightlessRules name := by
  obtain ⟨done, _, reached, run, failed⟩ :=
    Step.runFrom_deriveTimes_eq_error failed
  have reachedSound := keeps_deriveTimes done sound
  rw [run] at reachedSound
  exact reachedSound.weightless_of_derive failed

theorem actionFails_of_drawSentence
    (failed : runFrom session Step.drawSentence = (.error error, final)) :
    session.derivation.ActionFails error := by
  have drawn := (Step.outcome_of_drawSentence_eq_error failed).1
  exact Derivation.actionFails_of_outcome sound.sentence drawn

theorem actionFails_of_redraw
    (failed : runFrom session Step.redraw = (.error error, final)) :
    session.derivation.ActionFails error := by
  rw [Step.runFrom_redraw] at failed
  have cleared : (Step.cleared session).Sound := sound.congr rfl rfl rfl
  exact cleared.actionFails_of_drawSentence failed

/-- A regrowth fails for want of weights in a pass, or in an action. -/
theorem weightless_or_actionFails_of_regrow
    (failed : runFrom session Step.regrow = (.error error, final)) :
    (∃ name, error = .weightlessRules name) ∨
      session.derivation.ActionFails error := by
  rw [Step.runFrom_regrow, runFrom_bind_eq_error_iff] at failed
  rcases failed with failed | ⟨_, grown, growth, failed⟩
  · exact Or.inl (sound.rewound.weightless_of_deriveTimes failed)
  -- The passes leave the alphabet and the settings, so an action that fails in the
  -- drawing is one of the session before.
  · right
    have grownSound :=
      keeps_deriveTimes session.derivation.settings.passes sound.rewound
    have kept := Step.derivation_of_deriveTimes
      session.derivation.settings.passes (Step.rewound session)
    rw [growth] at grownSound kept
    obtain ⟨letter, symbol, turtles, stream, found, actionFailed⟩ :=
      grownSound.actionFails_of_redraw failed
    rw [kept] at found actionFailed
    exact ⟨letter, symbol, turtles, stream, found, actionFailed⟩

end Session.Sound

/-- All letters of the axiom, of the sentence and of the replacements stand for
symbols.  So a pass never fails for want of a symbol, a drawing is that of the
symbols of the sentence one after another and can fail for want of a symbol only
if the action of one of them says so, and the text of the sentence has the name of
each of them. -/
theorem Session.letters_stand_for_symbols {session : Session}
    (reachable : session.Reachable) :
    let derivation := session.derivation
    let alphabet := derivation.alphabet
    (alphabet.Defines derivation.start ∧ alphabet.Defines derivation.sentence ∧
      alphabet.Closed) ∧
    (∀ letter final,
      runFrom session Step.derive ≠ (.error (.noSuchSymbol letter), final)) ∧
    (∀ passes letter final, runFrom session (Step.deriveTimes passes) ≠
      (.error (.noSuchSymbol letter), final)) ∧
    (∃ symbols,
      List.Forall₂ (fun letter symbol => alphabet.find letter = .ok symbol)
          derivation.sentence symbols ∧
        derivation.drawSentence = (symbols.forM fun symbol =>
          (symbol.action derivation.settings).run) ∧
        derivation.sentenceText = String.join (symbols.map Symbol.name)) ∧
    ∀ step ∈ [Step.drawSentence, Step.redraw, Step.regrow], ∀ letter final,
      runFrom session step = (.error (.noSuchSymbol letter), final) →
        derivation.ActionFails (.noSuchSymbol letter) := by
  intro derivation alphabet
  have sound := reachable.sound
  refine ⟨⟨sound.start, sound.sentence, sound.alphabet.closed⟩, ?_, ?_, ?_, ?_⟩
  · intro letter final failed
    obtain ⟨name, isWeightless⟩ := sound.weightless_of_derive failed
    contradiction
  · intro passes letter final failed
    obtain ⟨name, isWeightless⟩ := sound.weightless_of_deriveTimes failed
    contradiction
  · obtain ⟨symbols, found⟩ := sound.sentence.exists_symbols
    refine ⟨symbols, found, Derivation.forM_drawSymbol_eq found, ?_⟩
    rw [Derivation.sentenceText, Derivation.filterMap_name_eq found]
  · intro step isDrawing letter final failed
    simp only [List.mem_cons, List.not_mem_nil, or_false] at isDrawing
    rcases isDrawing with rfl | rfl | rfl
    · exact sound.actionFails_of_drawSentence failed
    · exact sound.actionFails_of_redraw failed
    · rcases sound.weightless_or_actionFails_of_regrow failed with
        ⟨name, isWeightless⟩ | actionFails
      · contradiction
      · exact actionFails

/-- A sentence of one letter that doubles has been derived once. -/
theorem Session.letters_of_doubled_sentence :
    let alphabet := (Alphabet.empty.after (.defineBare "A")).after
      (.setRules 0 [{ weight := 1.0, replacement := [0, 0] }])
    let start : Session :=
      { derivation := Derivation.ofAlphabet alphabet Settings.standard
        stream := DrawStream.start (fun _ => 0.5) .stochastic 0
        notes := #[] }
    let session := (start.after (.setAxiom [0])).after .derive
    session.Reachable ∧ session.derivation.sentence = [0, 0] ∧
      session.derivation.alphabet.Closed ∧
      ∀ letter final, runFrom session Step.derive ≠
        (.error (.noSuchSymbol letter), final) := by
  intro alphabet start session
  have alphabetIs : alphabet =
      (Alphabet.empty.append (Symbol.ofAction "A" Act.skip)).after
        (.setRules 0 [{ weight := 1.0, replacement := [0, 0] }]) := by
    rw [← Alphabet.after_defineBare_empty rfl]
  have doubled : session.derivation.sentence = [0, 0] := by
    simp only [session, start]
    rw [alphabetIs, Alphabet.append_empty]
    decide +kernel
  have reachable : session.Reachable :=
    .request _ (.request _ (.start (.edit _ (.edit _ .empty)) _ _ _))
  obtain ⟨⟨_, _, closed⟩, passes, _⟩ := letters_stand_for_symbols reachable
  exact ⟨reachable, doubled, closed, passes⟩

end GrowthGrammar
