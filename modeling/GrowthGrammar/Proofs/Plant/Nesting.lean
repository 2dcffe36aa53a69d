import GrowthGrammar.Proofs.Drawing.Level
import GrowthGrammar.Proofs.Plant.Growth

/-!
# Branches in branches

Every part of the tree has its place: the trunk and the leader stand on the
ground, where no branch is open, and everything that is drawn with random values
stands in a branch.  A tip stands at most one branch deeper than the number of
passes, and no branch opens deeper than that number.  Each pass keeps this for
the next number.  So the brackets of the tree always match, and the tree can be
drawn wherever the limit of saved turtles exceeds the number of passes.
-/

namespace GrowthGrammar.MonkeyPuzzle

/-! ## Places -/

/-- Where a part may stand after a number of passes, by the number of branches
that are open before it. -/
def Part.MayStand (passes depth : Nat) : Part → Prop
  | opening => depth ≤ passes
  | closing => 1 ≤ depth
  | trunk | short | middle | bend | upright => depth = 0
  | twistForth | twistBack | twistStart | leaderStart => depth = 0
  | xForth | xBack | yForth | yBack => depth = 0 ∧ 1 ≤ passes
  | whorl => depth = 0 ∧ 2 ≤ passes
  | fruit | level | anywhere | long => 1 ≤ depth
  | tip => 1 ≤ depth ∧ depth ≤ passes + 1

theorem Part.MayStand.succ {passes depth : Nat} {part : Part}
    (stands : part.MayStand passes depth) : part.MayStand (passes + 1) depth := by
  cases part <;> simp only [MayStand] at stands ⊢ <;> omega

/-- The number of branches that are open behind a part. -/
def Part.depthAfter (depth : Nat) : Part → Nat
  | opening => depth + 1
  | closing => depth - 1
  | _ => depth

theorem Part.depthAfter_of_level {part : Part} (unopened : part ≠ opening)
    (unclosed : part ≠ closing) (depth : Nat) : part.depthAfter depth = depth := by
  cases part <;> first | rfl | contradiction

/-- Whether every part has its place after a number of passes, if a number of
branches is open before the first, and whether all branches are closed behind the
last. -/
def Standing (passes : Nat) : Nat → List Part → Prop
  | depth, [] => depth = 0
  | depth, part :: rest =>
      part.MayStand passes depth ∧ Standing passes (part.depthAfter depth) rest

theorem standing_seedling : Standing 0 0 Part.seedling := by
  simp [Part.seedling, Standing, Part.MayStand, Part.depthAfter]

/-- A branch can stand on the ground. -/
theorem Standing.branch {passes : Nat} {rest : List Part}
    (standing : Standing passes 0 rest) (enough : 3 ≤ passes) :
    Standing passes 0 (Part.branch ++ rest) := by
  have opens : 1 ≤ passes ∧ 2 ≤ passes := by omega
  simp [Part.branch, Part.fork, Standing, Part.MayStand, Part.depthAfter,
    standing, enough, opens]

/-- A replacement has its place one pass after the part that it replaces. -/
theorem Standing.replacement {passes depth : Nat} {part : Part}
    (stands : part.MayStand passes depth) {rest : List Part}
    (standing : Standing (passes + 1) (part.depthAfter depth) rest) :
    ∀ shoot ∈ part.replacements, Standing (passes + 1) depth (shoot ++ rest) := by
  cases part with
  | whorl =>
      obtain ⟨rfl, enough⟩ := stands
      have enoughNext : 3 ≤ passes + 1 := by omega
      have twoBranches := (standing.branch enoughNext).branch enoughNext
      have leaderBetween : Standing (passes + 1) 0
          (Part.branch ++ Part.leaderStart :: (Part.branch ++ rest)) :=
        .branch ⟨rfl, standing.branch enoughNext⟩ enoughNext
      simp [Part.replacements, twoBranches, leaderBetween]
  | tip =>
      obtain ⟨inBranch, shallow⟩ := stands
      have shallower : depth ≤ passes + 1 + 1 := by omega
      simp_all [Part.replacements, Standing, Part.MayStand, Part.depthAfter]
  | _ => simp_all [Part.replacements, Standing, Part.MayStand, Part.depthAfter]

/-- A pass keeps every part in its place. -/
theorem Standing.growsInto {passes depth : Nat} {before after : List Part}
    (standing : Standing passes depth before)
    (grows : GrowsInto Part.Sprouts before after) :
    Standing (passes + 1) depth after := by
  induction before generalizing depth after with
  | nil =>
      rw [GrowsInto.nil_iff.mp grows]
      exact standing
  | cons part rest ih =>
      obtain ⟨shoot, others, sprouts, restGrows, rfl⟩ :=
        GrowsInto.cons_iff.mp grows
      have restStanding := ih standing.2 restGrows
      rcases sprouts with replaced | ⟨_, rfl⟩
      · exact restStanding.replacement standing.1 shoot replaced
      · exact ⟨standing.1.succ, restStanding⟩

theorem isKept_standing :
    IsKept Part.Sprouts fun passes parts => Standing passes 0 parts :=
  fun _ _ _ standing grows => standing.growsInto grows

/-! ## Drawing -/

theorem isLevel_placeFruit (settings : Settings) :
    (placeFruit settings).IsLevel :=
  fun _ _ => trivial

theorem isLevel_branchPiece (length : Float32) (settings : Settings) :
    (branchPiece length settings).IsLevel := by
  intro _ _ _ _ value
  change ((if value < 0.15 then placeFruit else pure ()) settings).IsLevel
  split
  · exact isLevel_placeFruit settings
  · exact trivial

/-- All parts but the brackets stay on their branch. -/
theorem Part.isLevel_action {part : Part} (unopened : part ≠ opening)
    (unclosed : part ≠ closing) (settings : Settings) :
    (part.action settings).IsLevel := by
  cases part with
  | opening => exact absurd rfl unopened
  | closing => exact absurd rfl unclosed
  | trunk | short | middle => exact fun _ _ _ _ => trivial
  | bend => exact trivial
  | fruit => exact isLevel_placeFruit settings
  | twistForth | twistBack => exact fun _ _ _ _ => trivial
  | twistStart | leaderStart | whorl => exact trivial
  | xForth | xBack | yForth | yBack => exact fun _ _ _ _ => trivial
  | upright =>
      refine Act.isLevel_times ?_ 3
      exact fun _ _ _ _ => trivial
  | level | anywhere => exact fun _ _ => trivial
  | long => exact fun _ => Act.isLevel_times (isLevel_branchPiece _ settings) 5
  | tip => exact fun _ _ _ _ => trivial

theorem IsTree.programOf_letter {spawn : Float} {derivation : Derivation}
    (tree : IsTree spawn derivation.alphabet) (part : Part) :
    derivation.programOf part.letter = part.action derivation.settings := by
  rw [Derivation.programOf, tree.find_letter]
  simp only [Part.action_symbol]

/-- A part in its place can be drawn and leaves as many saved turtles as there are
open branches behind it. -/
theorem Part.MayStand.drawn {passes depth : Nat} {part : Part}
    (stands : part.MayStand passes depth) (settings : Settings)
    {turtles : BranchStack} (depthIs : turtles.depth = depth)
    (room : passes < turtles.limit) (stream : DrawStream Float) :
    let outcome := (part.action settings).outcome turtles stream
    outcome.result = .ok () ∧
      outcome.turtles.depth = part.depthAfter depth ∧
      outcome.turtles.limit = turtles.limit := by
  subst depthIs
  by_cases opens : part = opening
  · subst opens
    have free : turtles.depth < turtles.limit := Nat.lt_of_le_of_lt stands room
    have saving : turtles.save = .ok _ := if_neg (Nat.not_le.mpr free)
    simp only [action, Act.save, Program.outcome, saving]
    exact ⟨rfl, rfl, rfl⟩
  by_cases closes : part = closing
  · subst closes
    rcases turtles with ⟨active, _ | ⟨turtle, saved⟩, limit⟩
    · exact absurd stands (Nat.not_succ_le_zero 0)
    · exact ⟨rfl, rfl, rfl⟩
  · obtain ⟨value, active, drawn, turtlesAre⟩ :=
      (part.isLevel_action opens closes settings).exists_active turtles stream
    refine ⟨drawn, ?_, ?_⟩
    · rw [turtlesAre, depthAfter_of_level opens closes]
      rfl
    · rw [turtlesAre]

/-- Parts in their places can be drawn, and no branch is open behind them. -/
theorem Standing.drawn {spawn : Float} {derivation : Derivation}
    (tree : IsTree spawn derivation.alphabet) {passes depth : Nat}
    {parts : List Part} (standing : Standing passes depth parts)
    {turtles : BranchStack} (depthIs : turtles.depth = depth)
    (room : passes < turtles.limit) (stream : DrawStream Float) :
    let outcome := derivation.outcome (letters parts) turtles stream
    outcome.result = .ok () ∧ outcome.turtles.depth = 0 := by
  induction parts generalizing depth turtles stream with
  | nil => exact ⟨rfl, depthIs.trans standing⟩
  | cons part rest ih =>
      obtain ⟨partDrawn, depthNext, limitNext⟩ :=
        standing.1.drawn derivation.settings depthIs room stream
      rw [← limitNext] at room
      rw [← tree.programOf_letter part] at partDrawn depthNext room
      simp only [letters, List.map_cons, Derivation.outcome_cons,
        Outcome.andThen_of_ok partDrawn]
      exact ih standing.2 depthNext room _

/-- The sentence of a tree can be drawn from the root. -/
theorem Standing.sentence_drawn {spawn : Float} {derivation : Derivation}
    (tree : IsTree spawn derivation.alphabet) {passes : Nat} {parts : List Part}
    (standing : Standing passes 0 parts)
    (sentenceIs : derivation.sentence = letters parts)
    (room : passes < derivation.settings.stackLimit)
    (stream : DrawStream Float) :
    let outcome := derivation.outcome derivation.sentence
      (BranchStack.start Turtle.root derivation.settings.stackLimit) stream
    outcome.result = .ok () ∧ outcome.turtles.depth = 0 := by
  rw [sentenceIs]
  exact standing.drawn tree rfl room stream

/-- Whatever the random stream is, the tree as it was planted regrows if the limit
of saved turtles exceeds the number of passes.  Of the derivation only sentence
and scene change.  With every random stream, the regrowth's own among them, a
drawing of the sentence from the root ends with all branches closed. -/
theorem planted_tree_regrows {settings : Settings} {young : Derivation}
    {marks : Landmarks} (planted : plant settings = .ok (young, marks))
    {session : Session}
    (sameAlphabet : session.derivation.alphabet = young.alphabet)
    (sameStart : session.derivation.start = young.start)
    (room : session.derivation.settings.passes + 1 ≤
      session.derivation.settings.stackLimit) :
    ∃ report final,
      runFrom session (regrow marks.leaders) = (.ok report, final) ∧
        final.derivation =
          { session.derivation with
            sentence := final.derivation.sentence
            scene := final.derivation.scene } ∧
        ∀ stream scene notes, ∃ canvas,
          runFrom
              (Canvas.start final.derivation.settings stream scene notes)
              final.derivation.drawSentence = (.ok (), canvas) ∧
            canvas.turtles.depth = 0 := by
  obtain ⟨isYoung, rfl⟩ := isYoung_of_plant planted
  have tree : IsTree fullSpawnWeight
      (Step.rewound session).derivation.alphabet := by
    have youngTree := isYoung.tree
    rwa [← sameAlphabet] at youngTree
  obtain ⟨parts, count, standing, growth⟩ := exists_run tree isKept_standing
    (sameStart.trans isYoung.start_eq) standing_seedling
    session.derivation.settings.passes
  let ripe := grown (Step.rewound session) parts count
  have ripeTree : IsTree fullSpawnWeight ripe.derivation.alphabet := tree
  have drawn := standing.sentence_drawn ripeTree rfl room
  obtain ⟨report, final, redrawn⟩ :=
    Step.exists_redraw_of_drawn (drawn (Step.cleared ripe).stream).1
  have derivation := Step.derivation_of_redraw ripe
  rw [redrawn] at derivation
  have finalIs : final.derivation =
      { ripe.derivation with scene := final.derivation.scene } := derivation
  refine ⟨report, final, ?_, ?_, ?_⟩
  · rw [runFrom_regrow, runFrom_bind_of_ok growth, redrawn]
  · rw [finalIs]
    rfl
  · intro stream scene notes
    have finalTree : IsTree fullSpawnWeight final.derivation.alphabet := by
      rw [finalIs]
      exact tree
    have finalSentence : final.derivation.sentence = letters parts := by
      rw [finalIs]
      rfl
    have again := standing.sentence_drawn finalTree finalSentence
      (by rw [finalIs]; exact room) stream
    exact ⟨_, (final.derivation.runFrom_forM_drawSymbol_eq_ok_iff _ _ _).mpr
      ⟨again.1, rfl⟩, again.2⟩

/-- Twelve passes and a limit of thirteen saved turtles are enough for each
other. -/
theorem planted_tree_regrows_at_limit :
    ∃ young, plant Settings.standard = .ok (young, landmarks) ∧
      let session : Session :=
        { derivation :=
            { young with settings := { Settings.standard with stackLimit := 13 } }
          stream := DrawStream.start (fun _ => 0.5) .stochastic 17
          notes := #[] }
      session.derivation.settings.passes + 1 ≤
          session.derivation.settings.stackLimit ∧
        ∃ report final,
          runFrom session (regrow landmarks.leaders) = (.ok report, final) := by
  obtain ⟨alphabet, _, _, planted⟩ := exists_plant Settings.standard
  refine ⟨_, planted, ?_⟩
  intro session
  have room : session.derivation.settings.passes + 1 ≤
      session.derivation.settings.stackLimit := Nat.le_refl 13
  obtain ⟨report, final, run, _⟩ :=
    planted_tree_regrows planted (rfl : session.derivation.alphabet = _) rfl room
  exact ⟨room, report, final, run⟩

end GrowthGrammar.MonkeyPuzzle
