import GrowthGrammar.Derivation.Pass
import GrowthGrammar.Turtle.Canvas

/-!
# Derivations

A derivation is an alphabet with an axiom, the sentence that the axiom has
become, the settings, and the scene that sentences are drawn into.  A
session drives a derivation with a random stream.

Every step of a session may fail, and keeps what it did before it failed: a
failed pass leaves the sentence as it was but not the random stream, and a
failed drawing keeps the requests made before the failure.
-/

namespace GrowthGrammar

/-- The state of a derivation, and the scene that it is drawn into. -/
structure Derivation where
  alphabet : Alphabet
  /-- The sentence that passes start from. -/
  start : List Letter
  sentence : List Letter
  settings : Settings
  scene : Scene Float32

namespace Derivation

/-- A derivation with an empty axiom and an empty scene. -/
def ofAlphabet (alphabet : Alphabet) (settings : Settings) : Derivation :=
  { alphabet := alphabet
    start := []
    sentence := []
    settings := settings
    scene := Scene.empty }

/-- The names of the symbols of the sentence, one after another. -/
def sentenceText (derivation : Derivation) : String :=
  String.join
    (derivation.sentence.filterMap fun letter =>
      (derivation.alphabet.find letter).toOption.map Symbol.name)

/-- The drawing of one symbol. -/
def drawSymbol (derivation : Derivation) (letter : Letter) : Drawing Unit := do
  match derivation.alphabet.find letter with
  | .ok symbol => (symbol.action derivation.settings).run
  | .error error => throw error

/-- The drawing of the sentence, from the first symbol to the last. -/
def drawSentence (derivation : Derivation) : Drawing Unit :=
  derivation.sentence.forM derivation.drawSymbol

end Derivation

/-- What a drawing amounted to. -/
structure DrawingReport where
  placements : Nat
  /-- Whether there were more placements than the budget allows. -/
  overBudget : Bool
deriving DecidableEq

/-- A derivation, the random stream it is driven with, and the notes that its
actions recorded. -/
structure Session where
  derivation : Derivation
  stream : DrawStream Float
  notes : Array Note

/-- A step of a session that may fail. -/
abbrev Step (α : Type) :=
  ExceptT GrowthError (StateM Session) α

namespace Step

/-- Changes the derivation. -/
def changeDerivation (change : Derivation → Derivation) : Step Unit :=
  modify fun session => { session with derivation := change session.derivation }

/-- Changes the random stream. -/
def changeStream (change : DrawStream Float → DrawStream Float) :
    Step Unit :=
  modify fun session => { session with stream := change session.stream }

/-- Looks something up in the derivation. -/
def inspect {α : Type} (look : Derivation → Except GrowthError α) : Step α := do
  match look (← get).derivation with
  | .ok value => return value
  | .error error => throw error

/-- Edits the alphabet of the derivation. -/
def edit {α : Type} (change : Edit α) : Step α := fun session =>
  let (result, alphabet) := change.run session.derivation.alphabet
  (result,
    { session with
      derivation := { session.derivation with alphabet := alphabet } })

/-- Stores a sentence as the axiom and makes it the current sentence. -/
def setAxiom (sentence : List Letter) : Step Unit := do
  inspect (·.alphabet.requireLetters sentence)
  changeDerivation fun derivation =>
    { derivation with start := sentence, sentence := sentence }

/-- Goes back to the axiom. -/
def resetSentence : Step Unit :=
  changeDerivation fun derivation =>
    { derivation with sentence := derivation.start }

/-- Clears the scene. -/
def clearScene : Step Unit :=
  changeDerivation fun derivation => { derivation with scene := Scene.empty }

/-- One pass over the sentence. -/
def derive : Step Unit := do
  let session ← get
  let derivation := session.derivation
  let (result, stream) := (derivation.alphabet.derive derivation.sentence).run
    session.stream
  changeStream fun _ => stream
  match result with
  | .ok sentence => changeDerivation ({ · with sentence := sentence })
  | .error error => throw error

/-- A number of passes. -/
def deriveTimes : Nat → Step Unit
  | 0 => pure ()
  | n + 1 => do
      derive
      deriveTimes n

/-- Draws the sentence into the scene, behind what is there. -/
def drawSentence : Step DrawingReport := fun session =>
  let derivation := session.derivation
  let canvas :=
    Canvas.start derivation.settings session.stream derivation.scene
      session.notes
  let (result, canvas) := derivation.drawSentence.run canvas
  let report : DrawingReport :=
    { placements := canvas.placements
      overBudget := derivation.settings.budget.isExceededBy canvas.placements }
  (result.map fun _ => report,
    { derivation := { derivation with scene := canvas.scene }
      stream := canvas.stream
      notes := canvas.notes })

/-- Clears the scene and draws the sentence with the random stream at the
seed of the settings. -/
def redraw : Step DrawingReport := do
  let settings := (← get).derivation.settings
  changeStream (·.reseed settings.seed)
  clearScene
  drawSentence

/-- Puts the random stream into the mode and at the seed of the settings, grows
the sentence from the axiom, and draws it.  The random stream is put back to the
seed in between, so that the drawing does not depend on how many values the
growth has taken. -/
def regrowBy (grow : Step Unit) : Step DrawingReport := do
  let settings := (← get).derivation.settings
  changeStream fun stream =>
    (stream.withMode settings.mode).reseed settings.seed
  resetSentence
  grow
  redraw

/-- Grows the sentence by the number of passes in the settings and draws
it. -/
def regrow : Step DrawingReport := do
  let settings := (← get).derivation.settings
  regrowBy (deriveTimes settings.passes)

end Step

end GrowthGrammar
