import Mathlib.Data.List.Infix
import GrowthGrammar.Proofs.Alphabet.Naming
import GrowthGrammar.Proofs.Drawing.Brackets
import GrowthGrammar.Proofs.Drawing.Level

/-!
# The limits of the branch stack

Where only the two brackets touch the branch stack, whether a sentence can be
drawn is a matter of counting.  The number of saved turtles is the number of
opening brackets less that of closing brackets, and the drawing stops at the
first letter at which this number would fall below zero or rise above the limit
of the stack.

No program whatsoever saves more turtles than the limit allows.
-/

namespace GrowthGrammar

/-! ## Counting brackets -/

namespace Brackets

variable (brackets : Brackets)

/-- The number of opening brackets less the number of closing ones. -/
def excess (letters : List Letter) : Int :=
  letters.count brackets.opening - letters.count brackets.closing

/-- How much a letter adds to the excess. -/
def rise (letter : Letter) : Int :=
  if letter = brackets.opening then 1
  else if letter = brackets.closing then -1
  else 0

/-- Whether the excess stays between zero and a limit as the letters are read
one by one. -/
def IsWithin (limit : Nat) (letters : List Letter) : Prop :=
  ∀ ⦃before⦄, before <+: letters →
    0 ≤ brackets.excess before ∧ brackets.excess before ≤ limit

instance (limit : Nat) (letters : List Letter) :
    Decidable (brackets.IsWithin limit letters) :=
  decidable_of_iff
    (∀ before ∈ letters.inits,
      0 ≤ brackets.excess before ∧ brackets.excess before ≤ limit)
    (by simp [IsWithin])

variable {brackets}

@[simp]
theorem excess_nil : brackets.excess [] = 0 := by
  simp [excess]

theorem excess_concat (distinct : brackets.opening ≠ brackets.closing)
    (letters : List Letter) (letter : Letter) :
    brackets.excess (letters ++ [letter]) =
      brackets.excess letters + brackets.rise letter := by
  by_cases opens : letter = brackets.opening
  · simp [excess, rise, opens, distinct]
    omega
  · by_cases closes : letter = brackets.closing
    · simp [excess, rise, closes, Ne.symm distinct]
      omega
    · simp [excess, rise, opens, closes]

theorem isWithin_nil (limit : Nat) : brackets.IsWithin limit [] := by
  intro before isBefore
  rw [List.prefix_nil] at isBefore
  simp [isBefore]

theorem isWithin_concat_iff (limit : Nat) (letters : List Letter)
    (letter : Letter) :
    brackets.IsWithin limit (letters ++ [letter]) ↔
      brackets.IsWithin limit letters ∧
        0 ≤ brackets.excess (letters ++ [letter]) ∧
        brackets.excess (letters ++ [letter]) ≤ limit := by
  constructor
  · intro within
    exact ⟨fun before isBefore =>
      within (isBefore.trans (List.prefix_append letters [letter])),
      within List.prefix_rfl⟩
  · rintro ⟨within, last⟩ before isBefore
    rcases List.prefix_concat_iff.mp isBefore with rfl | isBefore
    · exact last
    · exact within isBefore

/-- If the excess leaves its limits, there is a first letter at which it
does. -/
theorem exists_first_breach {limit : Nat} {letters : List Letter}
    (breached : ¬ brackets.IsWithin limit letters) :
    ∃ before letter after, letters = before ++ letter :: after ∧
      brackets.IsWithin limit before ∧
      ¬ brackets.IsWithin limit (before ++ [letter]) := by
  induction letters using List.reverseRecOn with
  | nil => exact absurd (isWithin_nil limit) breached
  | append_singleton letters letter ih =>
      by_cases within : brackets.IsWithin limit letters
      · exact ⟨letters, letter, [], rfl, within, breached⟩
      · obtain ⟨before, first, after, rfl, beforeWithin, breach⟩ := ih within
        exact ⟨before, first, after ++ [letter], by simp, beforeWithin, breach⟩

end Brackets

/-! ## Programs and the branch stack -/

namespace BranchStack

/-- The turtles stand one branch point above one another, from the root up. -/
def Graded : List Turtle → Prop
  | [] => True
  | turtle :: below => turtle.depth = below.length ∧ Graded below

/-- Every turtle of the stack is as deep as there are turtles saved below it. -/
def IsGraded (stack : BranchStack) : Prop :=
  Graded (stack.active :: stack.saved)

theorem IsGraded.save {stack deeper : BranchStack} (graded : stack.IsGraded)
    (saved : stack.save = .ok deeper) : deeper.IsGraded := by
  unfold BranchStack.save at saved
  split at saved
  · cases saved
  · cases saved
    exact ⟨congrArg (· + 1) graded.1, graded⟩

theorem IsGraded.restore {stack shallower : BranchStack}
    (graded : stack.IsGraded) (restored : stack.restore = .ok shallower) :
    shallower.IsGraded := by
  unfold BranchStack.restore at restored
  split at restored
  · cases restored
  · rename_i turtle saved savedIs
    cases restored
    have below := graded.2
    rwa [savedIs] at below

end BranchStack

namespace Program

variable {α : Type}

/-- Whether a program always comes to its end with the saved turtles that it
started with. -/
def StaysOnBranch (program : Program α) : Prop :=
  ∀ turtles stream, ∃ value active,
    (program.outcome turtles stream).result = .ok value ∧
      (program.outcome turtles stream).turtles = { turtles with active := active }

/-- Whether a program leaves the active turtle as deep as it was. -/
def KeepsDepth (program : Program α) : Prop :=
  ∀ turtles stream,
    (program.outcome turtles stream).turtles.active.depth = turtles.active.depth

/-- No program changes the limit of the stack or saves more turtles than it
allows. -/
theorem depth_outcome_le (program : Program α) {turtles : BranchStack}
    (fits : turtles.depth ≤ turtles.limit) (stream : DrawStream Float) :
    (program.outcome turtles stream).turtles.limit = turtles.limit ∧
      (program.outcome turtles stream).turtles.depth ≤ turtles.limit := by
  induction program generalizing turtles stream with
  | done value => exact ⟨rfl, fits⟩
  | fail error => exact ⟨rfl, fits⟩
  | look next ih => exact ih _ _ fits stream
  | steer move next ih =>
      have steered : (turtles.steer move).depth ≤ (turtles.steer move).limit := fits
      exact ih steered stream
  | save next ih =>
      rw [outcome]
      cases saved : turtles.save with
      | error error => exact ⟨rfl, fits⟩
      | ok deeper =>
          unfold BranchStack.save at saved
          split at saved
          · cases saved
          · rename_i unfilled
            cases saved
            refine ih ?_ stream
            simpa [BranchStack.depth, Nat.succ_le_iff] using unfilled
  | restore next ih =>
      rw [outcome]
      cases restored : turtles.restore with
      | error error => exact ⟨rfl, fits⟩
      | ok shallower =>
          unfold BranchStack.restore at restored
          split at restored
          · cases restored
          · rename_i turtle saved savedIs
            cases restored
            refine ih ?_ stream
            simp only [BranchStack.depth, savedIs, List.length_cons] at fits ⊢
            omega
  | draw next ih => exact ih _ fits stream.advance
  | request call next ih => exact ih fits stream
  | record note next ih => exact ih fits stream

end Program

/-- However far a drawing comes, it has not saved more turtles than the limit
allows. -/
theorem Derivation.depth_outcome_start_le (derivation : Derivation)
    (letters : List Letter) (root : Turtle) (limit : Nat)
    (stream : DrawStream Float) :
    let drawn := derivation.outcome letters (BranchStack.start root limit) stream
    drawn.turtles.limit = limit ∧ drawn.turtles.depth ≤ limit := by
  have unsaved : (BranchStack.start root limit).depth ≤ limit := Nat.zero_le limit
  exact (derivation.program letters).depth_outcome_le unsaved stream

/-! ## Letters -/

/-- One letter saves the turtle, one restores it, and no other letter touches the
saved turtles or fails. -/
structure Derivation.BranchesOnlyAt (derivation : Derivation)
    (brackets : Brackets) : Prop where
  opens : ∃ symbol, derivation.alphabet.find brackets.opening = .ok symbol ∧
    symbol.action = Act.save
  closes : ∃ symbol, derivation.alphabet.find brackets.closing = .ok symbol ∧
    symbol.action = Act.restore
  stays : ∀ letter symbol, letter ≠ brackets.opening →
    letter ≠ brackets.closing → derivation.alphabet.find letter = .ok symbol →
      (symbol.action derivation.settings).StaysOnBranch

/-- No letter but the brackets writes the depth of the turtle. -/
def Derivation.KeepsDepthBut (derivation : Derivation) (brackets : Brackets) :
    Prop :=
  ∀ letter symbol, letter ≠ brackets.opening → letter ≠ brackets.closing →
    derivation.alphabet.find letter = .ok symbol →
      (symbol.action derivation.settings).KeepsDepth

/-- The bracket edit makes such an alphabet of one in which every letter stays on
its branch. -/
theorem Derivation.branchesOnlyAt_of_defineBrackets {alphabet : Alphabet}
    {derivation : Derivation} {brackets : Brackets}
    (stays : ∀ letter symbol, alphabet.find letter = .ok symbol →
      (symbol.action derivation.settings).StaysOnBranch)
    (defined : runFrom alphabet Edit.defineBrackets =
      (.ok (brackets.opening, brackets.closing), derivation.alphabet)) :
    derivation.BranchesOnlyAt brackets := by
  obtain ⟨openingFound, closingFound, others⟩ :=
    Alphabet.find_of_defineBrackets defined
  constructor
  · exact ⟨_, openingFound, rfl⟩
  · exact ⟨_, closingFound, rfl⟩
  · intro letter symbol unopened unclosed found
    exact stays letter symbol (others letter symbol unopened unclosed found)

namespace Derivation.BranchesOnlyAt

variable {derivation : Derivation} {brackets : Brackets}

theorem outcome_opening (branches : derivation.BranchesOnlyAt brackets)
    (turtles : BranchStack) (stream : DrawStream Float) :
    derivation.outcome [brackets.opening] turtles stream =
      match turtles.save with
      | .error error => .ended (.error error) turtles stream
      | .ok deeper => .ended (.ok ()) deeper stream := by
  rcases branches.opens with ⟨symbol, found, action⟩
  simp only [outcome_singleton, programOf, found, action]
  rfl

theorem outcome_closing (branches : derivation.BranchesOnlyAt brackets)
    (turtles : BranchStack) (stream : DrawStream Float) :
    derivation.outcome [brackets.closing] turtles stream =
      match turtles.restore with
      | .error error => .ended (.error error) turtles stream
      | .ok shallower => .ended (.ok ()) shallower stream := by
  rcases branches.closes with ⟨symbol, found, action⟩
  simp only [outcome_singleton, programOf, found, action]
  rfl

theorem exists_active (branches : derivation.BranchesOnlyAt brackets)
    {letter : Letter} (unopened : letter ≠ brackets.opening)
    (unclosed : letter ≠ brackets.closing)
    (defined : derivation.alphabet.contains letter)
    (turtles : BranchStack) (stream : DrawStream Float) :
    ∃ active,
      (derivation.outcome [letter] turtles stream).result = .ok () ∧
        (derivation.outcome [letter] turtles stream).turtles =
          { turtles with active := active } := by
  obtain ⟨symbol, found⟩ := Alphabet.exists_find_of_contains defined
  obtain ⟨_, active, ended⟩ :=
    branches.stays letter symbol unopened unclosed found turtles stream
  refine ⟨active, ?_⟩
  simpa only [outcome_singleton, programOf, found] using ended

theorem distinct (branches : derivation.BranchesOnlyAt brackets) :
    brackets.opening ≠ brackets.closing := by
  intro same
  rcases branches.opens with ⟨opening, openingFound, saves⟩
  rcases branches.closes with ⟨closing, closingFound, restores⟩
  rw [same, closingFound] at openingFound
  cases openingFound
  have equal := congrFun (saves.symm.trans restores) derivation.settings
  cases equal

/-- A letter that keeps the excess within the limits is drawn, and the number of
saved turtles follows the excess. -/
theorem outcome_of_isWithin (branches : derivation.BranchesOnlyAt brackets)
    {letter : Letter} (defined : derivation.alphabet.contains letter)
    {turtles : BranchStack} (stream : DrawStream Float) {excess : Int}
    (excessIs : (turtles.depth : Int) + brackets.rise letter = excess)
    (notBelow : 0 ≤ excess) (notAbove : excess ≤ turtles.limit) :
    (derivation.outcome [letter] turtles stream).result = .ok () ∧
      ((derivation.outcome [letter] turtles stream).turtles.depth : Int) =
        excess := by
  by_cases opens : letter = brackets.opening
  · subst opens
    have room : ¬ turtles.limit ≤ turtles.depth := by
      simp only [Brackets.rise, if_true] at excessIs
      omega
    rw [branches.outcome_opening, BranchStack.save, if_neg room]
    refine ⟨rfl, ?_⟩
    simpa [Brackets.rise, Outcome.ended, BranchStack.depth] using excessIs
  · by_cases closes : letter = brackets.closing
    · subst closes
      simp only [Brackets.rise, opens, if_false, if_true] at excessIs
      rw [branches.outcome_closing, BranchStack.restore]
      cases savedIs : turtles.saved with
      | nil =>
          simp only [BranchStack.depth, savedIs, List.length_nil] at excessIs
          omega
      | cons turtle saved =>
          refine ⟨rfl, ?_⟩
          simp only [BranchStack.depth, savedIs, List.length_cons] at excessIs
          simp only [Outcome.ended, BranchStack.depth]
          omega
    · obtain ⟨active, drawn, turtlesAre⟩ :=
        branches.exists_active opens closes defined turtles stream
      simp only [Brackets.rise, opens, closes, if_false, Int.add_zero] at excessIs
      refine ⟨drawn, ?_⟩
      rw [turtlesAre, ← excessIs]
      rfl

/-- A letter that would take the excess out of the limits stops the drawing and
leaves everything as it was. -/
theorem outcome_of_breach (branches : derivation.BranchesOnlyAt brackets)
    {letter : Letter} {turtles : BranchStack} (stream : DrawStream Float)
    (fits : turtles.depth ≤ turtles.limit) {excess : Int}
    (excessIs : (turtles.depth : Int) + brackets.rise letter = excess)
    (outside : ¬ (0 ≤ excess ∧ excess ≤ turtles.limit)) :
    derivation.outcome [letter] turtles stream =
      .ended (.error
        (if excess < 0 then .noOpenBranch else .branchLimit turtles.limit))
        turtles stream := by
  by_cases opens : letter = brackets.opening
  · subst opens
    simp only [Brackets.rise, if_true] at excessIs
    have full : turtles.limit ≤ turtles.depth := by omega
    have above : ¬ excess < 0 := by omega
    rw [branches.outcome_opening, BranchStack.save, if_pos full, if_neg above]
  · by_cases closes : letter = brackets.closing
    · subst closes
      simp only [Brackets.rise, opens, if_false, if_true] at excessIs
      have below : excess < 0 := by omega
      have unsaved : turtles.saved = [] := by
        rw [← List.length_eq_zero_iff]
        unfold BranchStack.depth at excessIs
        omega
      rw [branches.outcome_closing, BranchStack.restore, unsaved, if_pos below]
    · simp only [Brackets.rise, opens, closes, if_false, Int.add_zero] at excessIs
      omega

/-- Every letter keeps the turtles graded, if none but the brackets writes their
depth. -/
theorem isGraded_outcome_singleton (branches : derivation.BranchesOnlyAt brackets)
    (keeps : derivation.KeepsDepthBut brackets) {letter : Letter}
    (defined : derivation.alphabet.contains letter) {turtles : BranchStack}
    (graded : turtles.IsGraded) (stream : DrawStream Float) :
    (derivation.outcome [letter] turtles stream).turtles.IsGraded := by
  by_cases opens : letter = brackets.opening
  · rw [opens, branches.outcome_opening]
    cases saved : turtles.save with
    | error error => exact graded
    | ok deeper => exact graded.save saved
  · by_cases closes : letter = brackets.closing
    · rw [closes, branches.outcome_closing]
      cases restored : turtles.restore with
      | error error => exact graded
      | ok shallower => exact graded.restore restored
    · obtain ⟨active, _, turtlesAre⟩ :=
        branches.exists_active opens closes defined turtles stream
      obtain ⟨symbol, found⟩ := Alphabet.exists_find_of_contains defined
      have depthKept := keeps letter symbol opens closes found turtles stream
      have programIs :
          derivation.programOf letter = symbol.action derivation.settings := by
        simp only [programOf, found]
      rw [← programIs, ← outcome_singleton, turtlesAre] at depthKept
      rw [turtlesAre]
      exact ⟨depthKept.trans graded.1, graded.2⟩

theorem isGraded_outcome (branches : derivation.BranchesOnlyAt brackets)
    (keeps : derivation.KeepsDepthBut brackets) {letters : List Letter}
    (defined : ∀ letter ∈ letters, derivation.alphabet.contains letter)
    {turtles : BranchStack} (graded : turtles.IsGraded)
    (stream : DrawStream Float) :
    (derivation.outcome letters turtles stream).turtles.IsGraded := by
  induction letters generalizing turtles stream with
  | nil => exact graded
  | cons letter rest ih =>
      rw [List.forall_mem_cons] at defined
      have firstGraded :=
        branches.isGraded_outcome_singleton keeps defined.1 graded stream
      rw [outcome_cons, ← outcome_singleton, Outcome.andThen]
      cases (derivation.outcome [letter] turtles stream).result with
      | error error => exact firstGraded
      | ok value => exact ih defined.2 firstGraded _

/-- Letters that keep the excess within the limit are all drawn, and the number
of saved turtles is the excess. -/
theorem outcome_start_of_isWithin (branches : derivation.BranchesOnlyAt brackets)
    {letters : List Letter}
    (defined : ∀ letter ∈ letters, derivation.alphabet.contains letter)
    {limit : Nat} (within : brackets.IsWithin limit letters) (root : Turtle)
    (stream : DrawStream Float) :
    let drawn := derivation.outcome letters (BranchStack.start root limit) stream
    drawn.result = .ok () ∧ (drawn.turtles.depth : Int) = brackets.excess letters := by
  induction letters using List.reverseRecOn with
  | nil => exact ⟨rfl, by simp [BranchStack.depth, BranchStack.start, Outcome.ended]⟩
  | append_singleton letters letter ih =>
      obtain ⟨lettersWithin, notBelow, notAbove⟩ :=
        (Brackets.isWithin_concat_iff limit letters letter).mp within
      rw [List.forall_mem_append] at defined
      obtain ⟨drawn, depthIs⟩ := ih defined.1 lettersWithin
      have limitIs :=
        (derivation.depth_outcome_start_le letters root limit stream).1
      intro ended
      have letterDrawn := branches.outcome_of_isWithin
        (defined.2 letter (List.mem_singleton_self letter))
        (derivation.outcome letters (BranchStack.start root limit) stream).stream
        (by rw [depthIs, ← Brackets.excess_concat branches.distinct])
        notBelow (by rw [limitIs]; exact notAbove)
      have endedIs : ended = _ := derivation.outcome_append letters [letter] _ _
      rw [Outcome.andThen_of_ok drawn] at endedIs
      rw [endedIs]
      exact letterDrawn

/-- At the first letter that takes the excess out of the limit the drawing
stops, with what the letters before it have drawn. -/
theorem outcome_start_of_breach (branches : derivation.BranchesOnlyAt brackets)
    {before : List Letter} {letter : Letter}
    (defined : ∀ other ∈ before, derivation.alphabet.contains other)
    {limit : Nat} (within : brackets.IsWithin limit before)
    (breach : ¬ brackets.IsWithin limit (before ++ [letter]))
    (after : List Letter) (root : Turtle) (stream : DrawStream Float) :
    derivation.outcome (before ++ letter :: after) (BranchStack.start root limit)
        stream =
      { derivation.outcome before (BranchStack.start root limit) stream with
        result := .error
          (if brackets.excess (before ++ [letter]) < 0 then .noOpenBranch
            else .branchLimit limit) } := by
  obtain ⟨drawn, depthIs⟩ :=
    branches.outcome_start_of_isWithin defined within root stream
  obtain ⟨limitIs, fits⟩ :=
    derivation.depth_outcome_start_le before root limit stream
  simp only [Brackets.isWithin_concat_iff, within, true_and] at breach
  have stopped := @outcome_of_breach _ _ branches letter _
    (derivation.outcome before (BranchStack.start root limit) stream).stream
    (by rwa [limitIs]) _
    (by rw [depthIs, ← Brackets.excess_concat branches.distinct])
    (by rw [limitIs]; exact breach)
  rw [outcome_append, Outcome.andThen_of_ok drawn, outcome_cons,
    ← outcome_singleton, stopped, limitIs]
  simp [Outcome.andThen, Outcome.ended, BranchStack.start]

end Derivation.BranchesOnlyAt

/-! ## Sentences -/

/-- How a session draws its sentence. -/
def Session.drawing (session : Session) : Outcome Unit :=
  session.derivation.outcome session.derivation.sentence
    (BranchStack.start Turtle.root session.derivation.settings.stackLimit)
    session.stream

theorem Step.drawSentence_succeeds_iff (session : Session) :
    (∃ report, (runFrom session drawSentence).1 = .ok report) ↔
      session.drawing.result = .ok () := by
  rw [runFrom_drawSentence]
  change (∃ report, session.drawing.result.map _ = .ok report) ↔ _
  cases session.drawing.result <;> simp [Except.map]

theorem Step.drawSentence_fails_iff (session : Session) (error : GrowthError) :
    (runFrom session drawSentence).1 = .error error ↔
      session.drawing.result = .error error := by
  rw [runFrom_drawSentence]
  change session.drawing.result.map _ = .error error ↔ _
  cases session.drawing.result <;> simp [Except.map]

theorem Step.scene_drawSentence (session : Session) :
    (runFrom session drawSentence).2.derivation.scene =
      session.derivation.scene.extend session.drawing.calls := by
  rw [runFrom_drawSentence]
  rfl

namespace Derivation.BranchesOnlyAt

variable {session : Session} {brackets : Brackets}

/-- The drawing of a sentence stops at the first letter that takes the excess out
of the limits. -/
theorem drawing_of_breach (branches : session.derivation.BranchesOnlyAt brackets)
    (defined : ∀ letter ∈ session.derivation.sentence,
      session.derivation.alphabet.contains letter)
    {before after : List Letter} {letter : Letter}
    (splits : session.derivation.sentence = before ++ letter :: after)
    (within :
      brackets.IsWithin session.derivation.settings.stackLimit before)
    (breach : ¬ brackets.IsWithin session.derivation.settings.stackLimit
      (before ++ [letter])) :
    session.drawing.result = .error
        (if brackets.excess (before ++ [letter]) < 0 then .noOpenBranch
          else .branchLimit session.derivation.settings.stackLimit) ∧
      session.drawing.calls =
        (session.derivation.outcome before
          (BranchStack.start Turtle.root
            session.derivation.settings.stackLimit) session.stream).calls := by
  have definedBefore : ∀ other ∈ before,
      session.derivation.alphabet.contains other := by
    intro other isIn
    exact defined other (by simp [splits, isIn])
  rw [Session.drawing, splits,
    branches.outcome_start_of_breach definedBefore within breach]
  exact ⟨rfl, rfl⟩

theorem drawing_succeeds_iff (branches : session.derivation.BranchesOnlyAt brackets)
    (defined : ∀ letter ∈ session.derivation.sentence,
      session.derivation.alphabet.contains letter) :
    session.drawing.result = .ok () ↔
      brackets.IsWithin session.derivation.settings.stackLimit
        session.derivation.sentence := by
  constructor
  · intro drawn
    by_contra breached
    obtain ⟨before, letter, after, splits, within, breach⟩ :=
      Brackets.exists_first_breach breached
    rw [(branches.drawing_of_breach defined splits within breach).1] at drawn
    cases drawn
  · intro within
    exact (branches.outcome_start_of_isWithin defined within _ _).1

end Derivation.BranchesOnlyAt

/-- A sentence can be drawn exactly when the excess of opening brackets stays
between zero and the limit of the stack.  Otherwise the first letter that takes
it out of these bounds decides the error, and the scene has got the requests of
the letters before.  However far the drawing comes, it does not save more
turtles than the limit allows; within the bounds their number is the excess, and
the depth of the active turtle if no action writes it. -/
theorem Step.drawSentence_stops_at_first_breach (session : Session)
    {brackets : Brackets} (branches : session.derivation.BranchesOnlyAt brackets)
    (defined : ∀ letter ∈ session.derivation.sentence,
      session.derivation.alphabet.contains letter) :
    let derivation := session.derivation
    let limit := derivation.settings.stackLimit
    let start := Canvas.start derivation.settings session.stream derivation.scene
      session.notes
    let ended := runFrom session drawSentence
    ((∃ report, ended.1 = .ok report) ↔
        brackets.IsWithin limit derivation.sentence) ∧
      (∀ before letter after,
        derivation.sentence = before ++ letter :: after →
        brackets.IsWithin limit before →
        ¬ brackets.IsWithin limit (before ++ [letter]) →
          ended.1 = .error
            (if brackets.excess (before ++ [letter]) < 0 then .noOpenBranch
              else .branchLimit limit) ∧
          (runFrom start (before.forM derivation.drawSymbol)).1 = .ok () ∧
          ended.2.derivation.scene =
            (runFrom start (before.forM derivation.drawSymbol)).2.scene ∧
          ended.2.derivation.scene = derivation.scene.extend
            ((derivation.attributed before start.turtles start.stream).map
              Prod.snd)) ∧
      ∀ before, before <+: derivation.sentence →
        let here := (runFrom start (before.forM derivation.drawSymbol)).2
        here.turtles.depth ≤ limit ∧
          (brackets.IsWithin limit before →
            (here.turtles.depth : Int) = brackets.excess before) ∧
          (derivation.KeepsDepthBut brackets →
            here.turtles.active.depth = here.turtles.depth) := by
  intro derivation limit start ended
  have definedBefore : ∀ before, before <+: derivation.sentence →
      ∀ letter ∈ before, derivation.alphabet.contains letter :=
    fun before isBefore letter isIn => defined letter (isBefore.subset isIn)
  refine ⟨?_, ?_, ?_⟩
  · exact (drawSentence_succeeds_iff session).trans
      (branches.drawing_succeeds_iff defined)
  · intro before letter after splits within breach
    have drawn := (branches.outcome_start_of_isWithin
      (definedBefore before (by simp [splits])) within Turtle.root
      session.stream).1
    obtain ⟨stopped, calls⟩ :=
      branches.drawing_of_breach defined splits within breach
    have sceneIs := scene_drawSentence session
    rw [calls] at sceneIs
    rw [derivation.runFrom_forM_drawSymbol, derivation.map_snd_attributed]
    exact ⟨(drawSentence_fails_iff session _).mpr stopped, drawn, sceneIs, sceneIs⟩
  · intro before isBefore
    rw [derivation.runFrom_forM_drawSymbol]
    refine ⟨(derivation.depth_outcome_start_le before _ _ _).2, ?_, ?_⟩
    · intro within
      exact (branches.outcome_start_of_isWithin (definedBefore before isBefore)
        within Turtle.root session.stream).2
    · intro keeps
      have rooted : start.turtles.IsGraded := ⟨rfl, trivial⟩
      exact (branches.isGraded_outcome keeps (definedBefore before isBefore)
        rooted session.stream).1

/-- With room for one saved turtle the second open branch is one too many: the
two segments before it are drawn, and the one behind it is not. -/
theorem Step.drawSentence_stops_at_second_branch :
    let segment := Symbol.ofAction "F" (Act.taperedSegment 1.0)
    let alphabet :=
      ((Alphabet.empty.append segment).append
        (Symbol.ofAction "[" Act.save)).append
        (Symbol.ofAction "]" Act.restore)
    let settings := { Settings.standard with stackLimit := 1 }
    let derivation :=
      { Derivation.ofAlphabet alphabet settings with
        sentence := [0, 1, 0, 1, 0, 2, 2] }
    let session : Session :=
      { derivation := derivation
        stream := DrawStream.start (fun _ => 0.5) .deterministic 0
        notes := #[] }
    derivation.BranchesOnlyAt ⟨1, 2⟩ ∧ derivation.KeepsDepthBut ⟨1, 2⟩ ∧
      (runFrom session drawSentence).1 = .error (.branchLimit 1) ∧
      (runFrom session drawSentence).2.derivation.scene.calls.size = 2 := by
  intro segment alphabet settings derivation session
  have only : ∀ letter symbol,
      (Alphabet.empty.append segment).find letter = .ok symbol →
        symbol = segment := by
    intro letter symbol found
    rcases Alphabet.find_append_eq_ok found with foundBefore | same
    · simp [Alphabet.find, Alphabet.empty] at foundBefore
    · exact same
  have edited :
      runFrom (Alphabet.empty.append segment) Edit.defineBrackets =
        (.ok (1, 2), alphabet) :=
    Alphabet.runFrom_defineBrackets_of_append_empty (by decide) (by decide)
  have branches : derivation.BranchesOnlyAt ⟨1, 2⟩ := by
    apply Derivation.branchesOnlyAt_of_defineBrackets _ edited
    intro letter symbol found
    rw [only letter symbol found]
    exact fun turtles _ => ⟨(), turtles.active.withRadius _, rfl, rfl⟩
  have keeps : derivation.KeepsDepthBut ⟨1, 2⟩ := by
    intro letter symbol unopened unclosed found
    rw [only letter symbol
      ((Alphabet.find_of_defineBrackets edited).2.2 letter symbol unopened unclosed
        found)]
    exact fun _ _ => rfl
  have distinct : [segment.name, "[", "]"].Nodup := by decide
  have symbols := Alphabet.append_brackets_eq distinct
  have defined : ∀ letter ∈ derivation.sentence, alphabet.contains letter := by
    simp only [derivation, alphabet, symbols]
    decide
  have breach := (drawSentence_stops_at_first_breach session branches
    defined).2.1 [0, 1, 0] 1 [0, 2, 2] rfl
  obtain ⟨failed, _, _, sceneIs⟩ := breach (by decide) (by decide)
  refine ⟨branches, keeps, failed, ?_⟩
  rw [sceneIs]
  simp only [session, derivation, alphabet, symbols]
  rfl

end GrowthGrammar
