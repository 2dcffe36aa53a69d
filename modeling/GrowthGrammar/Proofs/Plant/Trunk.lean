import GrowthGrammar.Proofs.Drawing.Branches
import GrowthGrammar.Proofs.Drawing.Ground
import GrowthGrammar.Proofs.Plant.Nesting

/-!
# The trunk ignores random values

The trunk and the leader stand on the ground, and everything that is drawn with
random values stands in a branch.  A branch leaves the turtle on the ground as it
found it.  So two drawings of one sentence agree in all that is placed for the
trunk and the leader, whatever their random streams are.
-/

namespace GrowthGrammar.MonkeyPuzzle

/-- The sentences that grow from the seedling by passes and by runs. -/
inductive IsGrown (young : Derivation) (leaders : Leaders) :
    List Letter → Prop where
  | seedling : IsGrown young leaders young.start
  | pass {session final : Session}
      (sameAlphabet : session.derivation.alphabet = young.alphabet)
      (earlier : IsGrown young leaders session.derivation.sentence)
      (derived : runFrom session Step.derive = (.ok (), final)) :
      IsGrown young leaders final.derivation.sentence
  | run {session final : Session} {passes : Nat}
      (sameAlphabet : session.derivation.alphabet = young.alphabet)
      (earlier : IsGrown young leaders session.derivation.sentence)
      (derived : runFrom session (deriveTimes leaders passes) = (.ok (), final)) :
      IsGrown young leaders final.derivation.sentence

/-- In a sentence that grows from the seedling every part has its place. -/
theorem IsGrown.exists_standing {young : Derivation} (isYoung : IsYoung young)
    {sentence : List Letter}
    (isGrown : IsGrown young landmarks.leaders sentence) :
    ∃ passes parts, Standing passes 0 parts ∧ sentence = letters parts := by
  induction isGrown with
  | seedling => exact ⟨0, Part.seedling, standing_seedling, isYoung.start_eq⟩
  | @pass session final sameAlphabet _ derived ih =>
      obtain ⟨passes, parts, standing, sentenceIs⟩ := ih
      have tree := isYoung.tree
      rw [← sameAlphabet] at tree
      obtain ⟨next, count, grows, run⟩ := exists_derive tree
        fullSpawnWeight_mem_spawnWeights (yields_sprouts tree) sentenceIs
      rw [run, Prod.mk.injEq] at derived
      rw [← derived.2]
      exact ⟨passes + 1, next, standing.growsInto grows, rfl⟩
  | @run session final more sameAlphabet _ derived ih =>
      obtain ⟨passes, parts, standing, sentenceIs⟩ := ih
      have tree := isYoung.tree
      rw [← sameAlphabet] at tree
      have kept : IsKept Part.Sprouts fun more parts =>
          Standing (passes + more) 0 parts :=
        fun _ _ _ standing grows => standing.growsInto grows
      obtain ⟨last, count, lastStanding, run⟩ :=
        exists_run tree kept sentenceIs standing more
      rw [run, Prod.mk.injEq] at derived
      rw [← derived.2]
      exact ⟨passes + more, last, lastStanding, rfl⟩

/-! ## Two drawings -/

/-- The parts on the ground draw no value. -/
theorem Part.isSteady_action {passes : Nat} {part : Part}
    (stands : part.MayStand passes 0) (unopened : part ≠ opening)
    (settings : Settings) : (part.action settings).IsSteady := by
  cases part with
  | opening => exact absurd rfl unopened
  | closing | fruit | level | anywhere | long => cases stands
  | tip => cases stands.1
  | trunk | short | middle => exact fun _ _ _ _ => trivial
  | bend => exact trivial
  | twistForth | twistBack => exact fun _ _ _ _ => trivial
  | twistStart | leaderStart | whorl => exact trivial
  | xForth | xBack | yForth | yBack => exact fun _ _ _ _ => trivial
  | upright => exact fun _ _ _ _ _ _ _ _ _ _ _ _ => trivial

/-- A part in its place does the same to both turtles on the ground, and what it
requests there is the same. -/
theorem Part.MayStand.sameGround {passes : Nat} {part : Part}
    {left right : BranchStack} (stands : part.MayStand passes left.depth)
    (same : left.SameGround right) (settings : Settings)
    (first second : DrawStream Float) :
    let drawnLeft := (part.action settings).outcome left first
    let drawnRight := (part.action settings).outcome right second
    drawnLeft.result = drawnRight.result ∧
      (drawnLeft.result = .ok () →
        drawnLeft.turtles.SameGround drawnRight.turtles ∧
          drawnLeft.turtles.depth = part.depthAfter left.depth) ∧
      (left.depth = 0 → drawnLeft.calls = drawnRight.calls) := by
  by_cases opens : part = opening
  · subst opens
    obtain ⟨error, leftSaving, rightSaving⟩ |
        ⟨leftDeeper, rightDeeper, leftSaving, rightSaving, deeper, depth⟩ :=
      same.save
    · simp [action, Act.save, Program.outcome, leftSaving, rightSaving,
        Outcome.ended]
    · simp [action, Act.save, Program.outcome, leftSaving, rightSaving,
        Outcome.ended, deeper, depth, depthAfter]
  by_cases closes : part = closing
  · subst closes
    obtain ⟨leftShallower, rightShallower, leftRestoring, rightRestoring, shallower,
      depth⟩ := same.restore stands
    simp [action, Act.restore, Program.outcome, leftRestoring, rightRestoring,
      Outcome.ended, shallower, depth, depthAfter]
  rw [depthAfter_of_level opens closes]
  have level := part.isLevel_action opens closes settings
  obtain ⟨_, leftActive, leftDrawn, leftTurtles⟩ :=
    level.exists_active left first
  rcases Nat.eq_zero_or_pos left.depth with onGround | inBranch
  · obtain rfl := same.eq_of_depth_eq_zero onGround
    rw [onGround] at stands
    have steady := part.isSteady_action stands opens settings
    rw [steady.outcome_eq left first second]
    refine ⟨rfl, fun _ => ⟨⟨rfl, rfl, rfl⟩, ?_⟩, fun _ => rfl⟩
    rw [leftTurtles]
    rfl
  · obtain ⟨_, rightActive, rightDrawn, rightTurtles⟩ :=
      level.exists_active right second
    refine ⟨leftDrawn.trans rightDrawn.symm, fun _ => ?_,
      fun onGround => absurd onGround (Nat.ne_of_gt inBranch)⟩
    rw [leftTurtles, rightTurtles]
    exact ⟨same.activate inBranch leftActive rightActive, rfl⟩

/-- The names of the trunk and of the leader. -/
def trunkNames : List String :=
  ["F", "(f)", "(ff)", "(T+Y)", "(T-Y)", "(vert)", "(B+x)", "(B-x)", "(B+y)",
    "(B-y)"]

/-- Whether a request places a prism for a letter of the trunk or of the
leader. -/
def placesTrunk (alphabet : Alphabet) (request : Letter × Call Float32) : Bool :=
  request.2.isPrism && alphabet.names[request.1]?.any (trunkNames.contains ·)

theorem IsTree.placesTrunk_letter {spawn : Float} {alphabet : Alphabet}
    (tree : IsTree spawn alphabet) (part : Part) (call : Call Float32) :
    placesTrunk alphabet (part.letter, call) =
      (call.isPrism && trunkNames.contains part.name) := by
  rw [placesTrunk, tree.getElem?_names, Option.any_some]

/-- The trunk and the leader stand on the ground. -/
theorem Part.MayStand.depth_eq_zero {passes depth : Nat} {part : Part}
    (stands : part.MayStand passes depth)
    (isTrunk : trunkNames.contains part.name = true) : depth = 0 := by
  cases part with
  | trunk | short | middle | twistForth | twistBack | upright => exact stands
  | xForth | xBack | yForth | yBack => exact stands.1
  | _ => exact absurd isTrunk (by decide +kernel)

/-- What is placed for the trunk and the leader is the same if it is the same on
the ground. -/
theorem Part.MayStand.placesTrunk_eq {spawn : Float} {alphabet : Alphabet}
    (tree : IsTree spawn alphabet) {passes depth : Nat} {part : Part}
    (stands : part.MayStand passes depth)
    {leftCalls rightCalls : List (Call Float32)}
    (sameOnGround : depth = 0 → leftCalls = rightCalls) :
    (leftCalls.map (Prod.mk part.letter)).filter (placesTrunk alphabet) =
      (rightCalls.map (Prod.mk part.letter)).filter (placesTrunk alphabet) := by
  by_cases isTrunk : trunkNames.contains part.name = true
  · rw [sameOnGround (stands.depth_eq_zero isTrunk)]
  · have nothing : ∀ calls : List (Call Float32),
        (calls.map (Prod.mk part.letter)).filter (placesTrunk alphabet) = [] := by
      intro calls
      rw [List.filter_map, List.map_eq_nil_iff, List.filter_eq_nil_iff]
      intro call _
      rw [Function.comp_apply, tree.placesTrunk_letter, Bool.and_eq_true]
      exact fun places => isTrunk places.2
    rw [nothing, nothing]

/-- From stacks over one turtle on the ground two drawings end alike, and they
place the same for the trunk and the leader. -/
theorem Standing.trunk_eq {spawn : Float} {derivation : Derivation}
    (tree : IsTree spawn derivation.alphabet) {passes depth : Nat}
    {parts : List Part} (standing : Standing passes depth parts)
    {left right : BranchStack} (same : left.SameGround right)
    (depthIs : left.depth = depth) (first second : DrawStream Float) :
    (derivation.outcome (letters parts) left first).result =
        (derivation.outcome (letters parts) right second).result ∧
      (derivation.attributed (letters parts) left first).filter
          (placesTrunk derivation.alphabet) =
        (derivation.attributed (letters parts) right second).filter
          (placesTrunk derivation.alphabet) := by
  induction parts generalizing depth left right first second with
  | nil => exact ⟨rfl, rfl⟩
  | cons part rest ih =>
      subst depthIs
      obtain ⟨results, next, calls⟩ :=
        standing.1.sameGround same derivation.settings first second
      simp only [letters, List.map_cons, Derivation.outcome_cons,
        Derivation.attributed, tree.programOf_letter, List.filter_append,
        standing.1.placesTrunk_eq tree calls]
      cases leftResult :
          ((part.action derivation.settings).outcome left first).result with
      | error error =>
          rw [leftResult] at results
          simp [Outcome.andThen, leftResult, ← results]
      | ok value =>
          rw [leftResult] at results
          obtain ⟨sameNext, depthNext⟩ := next leftResult
          have restSame := ih standing.2 sameNext depthNext
          rw [Outcome.andThen_of_ok leftResult,
            Outcome.andThen_of_ok results.symm]
          simp only [← results]
          exact ⟨(restSame _ _).1, congrArg _ (restSame _ _).2⟩

/-- Drawings of a sentence that grows from the seedling end alike with all random
streams, and they place the same prisms for the trunk and the leader in the same
order.  The requests of a drawing are those of its letters, one after another. -/
theorem trunk_ignores_random_values {settings : Settings} {young : Derivation}
    {marks : Landmarks} (planted : plant settings = .ok (young, marks))
    {derivation : Derivation}
    (sameAlphabet : derivation.alphabet = young.alphabet)
    (isGrown : IsGrown young marks.leaders derivation.sentence)
    (scene : Scene Float32) (notes : Array Note)
    (first second : DrawStream Float) :
    let drawn := fun stream =>
      runFrom (Canvas.start derivation.settings stream scene notes)
        derivation.drawSentence
    let requests := derivation.attributed derivation.sentence
      (BranchStack.start Turtle.root derivation.settings.stackLimit)
    (drawn first).1 = (drawn second).1 ∧
      (∀ stream, (drawn stream).2.scene =
        scene.extend ((requests stream).map Prod.snd)) ∧
      (requests first).filter (placesTrunk derivation.alphabet) =
        (requests second).filter (placesTrunk derivation.alphabet) := by
  obtain ⟨isYoung, rfl⟩ := isYoung_of_plant planted
  have tree := isYoung.tree
  rw [← sameAlphabet] at tree
  obtain ⟨passes, parts, standing, sentenceIs⟩ :=
    isGrown.exists_standing isYoung
  intro drawn requests
  have drawing := fun stream => derivation.runFrom_forM_drawSymbol
    derivation.sentence (Canvas.start derivation.settings stream scene notes)
  obtain ⟨results, placed⟩ := standing.trunk_eq tree
    (⟨rfl, rfl, rfl⟩ : BranchStack.SameGround
      (BranchStack.start Turtle.root derivation.settings.stackLimit) _) rfl first
    second
  rw [← sentenceIs] at results placed
  refine ⟨?_, ?_, placed⟩
  · exact (congrArg Prod.fst (drawing first)).trans
      (results.trans (congrArg Prod.fst (drawing second)).symm)
  · intro stream
    rw [derivation.map_snd_attributed]
    exact congrArg (fun run => run.2.scene) (drawing stream)

/-- Two seeds give a tree of twelve passes the same trunk and the same leader. -/
theorem trunk_of_grown_tree_ignores_seed :
    ∃ young, plant Settings.standard = .ok (young, landmarks) ∧
      let session : Session :=
        { derivation := young
          stream := DrawStream.start (fun _ => 0.5) .stochastic 17
          notes := #[] }
      ∃ final,
        runFrom session (deriveTimes landmarks.leaders 12) = (.ok (), final) ∧
          final.derivation.alphabet = young.alphabet ∧
          IsGrown young landmarks.leaders final.derivation.sentence ∧
          let requests := fun seed =>
            final.derivation.attributed final.derivation.sentence
              (BranchStack.start Turtle.root final.derivation.settings.stackLimit)
              (DrawStream.start (fun _ => 0.5) .deterministic seed)
          (requests 1).filter (placesTrunk final.derivation.alphabet) =
            (requests 2).filter (placesTrunk final.derivation.alphabet) := by
  obtain ⟨alphabet, _, tree, planted⟩ := exists_plant Settings.standard
  refine ⟨_, planted, ?_⟩
  intro session
  have sessionTree : IsTree fullSpawnWeight session.derivation.alphabet := tree
  obtain ⟨parts, count, _, run⟩ :=
    exists_run sessionTree isKept_standing rfl standing_seedling 12
  have isGrown := IsGrown.run rfl .seedling run
  have sameAlphabet : (grown session parts count).derivation.alphabet =
      session.derivation.alphabet := rfl
  exact ⟨_, run, rfl, isGrown, (trunk_ignores_random_values planted sameAlphabet
    isGrown Scene.empty #[] _ _).2.2⟩

end GrowthGrammar.MonkeyPuzzle
