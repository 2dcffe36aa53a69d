import GrowthGrammar.Proofs.Drawing.Brackets
import GrowthGrammar.Proofs.Drawing.Outcome
import GrowthGrammar.Proofs.Alphabet.Naming

/-!
# Branches

In a branching alphabet one letter saves the turtle, one restores it, and no
other letter touches the saved turtles or the random stream.  Then a branch that
is closed leaves no trace: the turtles are those of the sentence in which the
branch is not written at all, and what is drawn behind the branch is the same.
-/

namespace GrowthGrammar

/-! ## Steady programs -/

namespace Program

variable {α : Type}

/-- Whether a program neither saves nor restores a turtle and draws no value. -/
def IsSteady : Program α → Prop
  | .done _ => True
  | .fail _ => True
  | .look next => ∀ turtle saved, (next turtle saved).IsSteady
  | .steer _ next => next.IsSteady
  | .save _ => False
  | .restore _ => False
  | .draw _ => False
  | .request _ next => next.IsSteady
  | .record _ next => next.IsSteady

/-- A steady program changes the active turtle and nothing else of the branch
stack, and leaves the random stream. -/
theorem IsSteady.exists_active {program : Program α}
    (steady : program.IsSteady) (turtles : BranchStack)
    (stream : DrawStream Float) :
    ∃ active,
      (program.outcome turtles stream).turtles =
        { turtles with active := active } ∧
      (program.outcome turtles stream).stream = stream := by
  induction program generalizing turtles with
  | done value => exact ⟨turtles.active, rfl, rfl⟩
  | fail error => exact ⟨turtles.active, rfl, rfl⟩
  | look next ih => exact ih _ _ (steady turtles.active turtles.depth) turtles
  | steer move next ih => exact ih steady (turtles.steer move)
  | save next => exact steady.elim
  | restore next => exact steady.elim
  | draw next => exact steady.elim
  | request call next ih => exact ih steady turtles
  | record note next ih => exact ih steady turtles

/-- A steady program does the same with every random stream. -/
theorem IsSteady.outcome_eq {program : Program α} (steady : program.IsSteady)
    (turtles : BranchStack) (first second : DrawStream Float) :
    program.outcome turtles second =
      { program.outcome turtles first with stream := second } := by
  induction program generalizing turtles with
  | done value => rfl
  | fail error => rfl
  | look next ih => exact ih _ _ (steady turtles.active turtles.depth) turtles
  | steer move next ih => exact ih steady (turtles.steer move)
  | save next => exact steady.elim
  | restore next => exact steady.elim
  | draw next => exact steady.elim
  | request call next ih => rw [outcome, outcome, ih steady turtles]; rfl
  | record note next ih => rw [outcome, outcome, ih steady turtles]; rfl

end Program

/-! ## Branching alphabets -/

/-- One letter saves the turtle, one restores it, and all others are steady. -/
structure Alphabet.Branches (alphabet : Alphabet) (brackets : Brackets) :
    Prop where
  opens : ∃ symbol, alphabet.find brackets.opening = .ok symbol ∧
    symbol.action = Act.save
  closes : ∃ symbol, alphabet.find brackets.closing = .ok symbol ∧
    symbol.action = Act.restore
  steady : ∀ letter symbol, letter ≠ brackets.opening →
    letter ≠ brackets.closing → alphabet.find letter = .ok symbol →
      ∀ settings, (symbol.action settings).IsSteady

/-- The bracket edit makes a branching alphabet of one in which every letter is
steady. -/
theorem Alphabet.branches_of_defineBrackets {alphabet next : Alphabet}
    {brackets : Brackets}
    (steady : ∀ letter symbol, alphabet.find letter = .ok symbol →
      ∀ settings, (symbol.action settings).IsSteady)
    (defined : runFrom alphabet Edit.defineBrackets =
      (.ok (brackets.opening, brackets.closing), next)) :
    next.Branches brackets := by
  obtain ⟨openingFound, closingFound, others⟩ := find_of_defineBrackets defined
  constructor
  · exact ⟨_, openingFound, rfl⟩
  · exact ⟨_, closingFound, rfl⟩
  · intro letter symbol unopened unclosed found
    exact steady letter symbol (others letter symbol unopened unclosed found)

namespace Alphabet.Branches

variable {derivation : Derivation} {brackets : Brackets}

theorem programOf_opening (branches : derivation.alphabet.Branches brackets) :
    derivation.programOf brackets.opening = .save (.done ()) := by
  rcases branches.opens with ⟨symbol, found, action⟩
  simp only [Derivation.programOf, found, action]
  rfl

theorem programOf_closing (branches : derivation.alphabet.Branches brackets) :
    derivation.programOf brackets.closing = .restore (.done ()) := by
  rcases branches.closes with ⟨symbol, found, action⟩
  simp only [Derivation.programOf, found, action]
  rfl

theorem distinct (branches : derivation.alphabet.Branches brackets) :
    brackets.opening ≠ brackets.closing := by
  intro same
  have opens := branches.programOf_opening
  rw [same, branches.programOf_closing] at opens
  contradiction

theorem isSteady_programOf (branches : derivation.alphabet.Branches brackets)
    {letter : Letter} (unopened : letter ≠ brackets.opening)
    (unclosed : letter ≠ brackets.closing) :
    (derivation.programOf letter).IsSteady := by
  rw [Derivation.programOf]
  cases found : derivation.alphabet.find letter with
  | ok symbol =>
      exact branches.steady letter symbol unopened unclosed found _
  | error error => exact trivial

theorem stream_programOf (branches : derivation.alphabet.Branches brackets)
    (letter : Letter) (turtles : BranchStack) (stream : DrawStream Float) :
    ((derivation.programOf letter).outcome turtles stream).stream = stream := by
  by_cases opens : letter = brackets.opening
  · rw [opens, branches.programOf_opening, Program.outcome]
    cases turtles.save <;> rfl
  · by_cases closes : letter = brackets.closing
    · rw [closes, branches.programOf_closing, Program.outcome]
      cases turtles.restore <;> rfl
    · obtain ⟨_, _, still⟩ := (branches.isSteady_programOf opens
        closes).exists_active turtles stream
      exact still

/-- Drawing takes no values. -/
theorem stream_outcome (branches : derivation.alphabet.Branches brackets)
    (letters : List Letter) (turtles : BranchStack)
    (stream : DrawStream Float) :
    (derivation.outcome letters turtles stream).stream = stream := by
  induction letters generalizing turtles with
  | nil => rfl
  | cons letter rest ih =>
      have still := branches.stream_programOf letter turtles stream
      rw [Derivation.outcome_cons, Outcome.andThen]
      cases ((derivation.programOf letter).outcome turtles stream).result with
      | error error => exact still
      | ok value =>
          simp only [still]
          exact ih _

/-- Letters other than the brackets leave the saved turtles. -/
theorem exists_active_of_bare (branches : derivation.alphabet.Branches brackets)
    {letters : List Letter} (unopened : brackets.opening ∉ letters)
    (unclosed : brackets.closing ∉ letters) (turtles : BranchStack)
    (stream : DrawStream Float) :
    ∃ active, (derivation.outcome letters turtles stream).turtles =
      { turtles with active := active } := by
  induction letters generalizing turtles stream with
  | nil => exact ⟨turtles.active, rfl⟩
  | cons letter rest ih =>
      rw [List.mem_cons, not_or] at unopened unclosed
      obtain ⟨active, activeIs, _⟩ := (branches.isSteady_programOf
        (Ne.symm unopened.1) (Ne.symm unclosed.1)).exists_active turtles stream
      rw [Derivation.outcome_cons, Outcome.andThen]
      cases ((derivation.programOf letter).outcome turtles stream).result with
      | error error => exact ⟨active, activeIs⟩
      | ok value =>
          simp only [activeIs]
          exact ih unopened.2 unclosed.2 { turtles with active := active } _

/-- Drawing on from letters that were drawn. -/
theorem result_append_iff (branches : derivation.alphabet.Branches brackets)
    (first second : List Letter) (turtles : BranchStack)
    (stream : DrawStream Float) :
    (derivation.outcome (first ++ second) turtles stream).result = .ok () ↔
      (derivation.outcome first turtles stream).result = .ok () ∧
        (derivation.outcome second
          (derivation.outcome first turtles stream).turtles
          stream).result = .ok () := by
  rw [Derivation.outcome_append, Outcome.result_andThen_eq_ok_iff,
    branches.stream_outcome]
  constructor
  · rintro ⟨⟨⟩, drawn⟩
    exact drawn
  · intro drawn
    exact ⟨(), drawn⟩

theorem turtles_append (branches : derivation.alphabet.Branches brackets)
    {first : List Letter} {turtles : BranchStack} {stream : DrawStream Float}
    (drawn : (derivation.outcome first turtles stream).result = .ok ())
    (second : List Letter) :
    (derivation.outcome (first ++ second) turtles stream).turtles =
      (derivation.outcome second
        (derivation.outcome first turtles stream).turtles stream).turtles := by
  rw [Derivation.outcome_append, Outcome.andThen_of_ok drawn,
    branches.stream_outcome]

/-- A closing bracket goes back to the turtles at its opening bracket. -/
theorem turtles_of_closed (branches : derivation.alphabet.Branches brackets)
    {outer inside : List Letter} (unopened : brackets.opening ∉ inside)
    (unclosed : brackets.closing ∉ inside) {turtles : BranchStack}
    {stream : DrawStream Float}
    (drawn : (derivation.outcome (outer ++ brackets.opening :: inside) turtles
      stream).result = .ok ()) :
    (derivation.outcome outer turtles stream).result = .ok () ∧
      (derivation.outcome (outer ++ brackets.opening :: inside) turtles
        stream).turtles.restore =
      .ok (derivation.outcome outer turtles stream).turtles := by
  rw [branches.result_append_iff] at drawn
  rcases drawn with ⟨outerDrawn, insideDrawn⟩
  refine ⟨outerDrawn, ?_⟩
  rw [branches.turtles_append outerDrawn]
  generalize (derivation.outcome outer turtles stream).turtles = branchPoint
    at insideDrawn
  rw [Derivation.outcome_cons, branches.programOf_opening, Program.outcome]
    at insideDrawn ⊢
  cases saving : branchPoint.save with
  | error error =>
      rw [saving] at insideDrawn
      contradiction
  | ok deeper =>
      obtain ⟨active, activeIs⟩ := branches.exists_active_of_bare unopened
        unclosed deeper stream
      have restored := BranchStack.restore_steer_of_save (fun _ => active) saving
      rw [Outcome.andThen_of_ok rfl]
      simp only [Program.outcome, Outcome.ended, activeIs]
      exact restored

/-- Drawing a closing bracket is restoring a turtle. -/
theorem outcome_closing (branches : derivation.alphabet.Branches brackets)
    {turtles : BranchStack} {stream : DrawStream Float}
    (drawn : (derivation.outcome [brackets.closing] turtles stream).result =
      .ok ()) :
    turtles.restore =
      .ok (derivation.outcome [brackets.closing] turtles stream).turtles := by
  rw [Derivation.outcome_singleton, branches.programOf_closing, Program.outcome]
    at drawn ⊢
  cases restoring : turtles.restore with
  | error error =>
      rw [restoring] at drawn
      contradiction
  | ok shallower => rfl

/-- Without its groups a sentence leaves the same turtles. -/
theorem outcome_visible (branches : derivation.alphabet.Branches brackets)
    {turtles : BranchStack} (unsaved : turtles.saved = [])
    {stream : DrawStream Float} {letters : List Letter}
    (drawn : (derivation.outcome letters turtles stream).result = .ok ()) :
    (derivation.outcome (brackets.visible letters) turtles stream).result =
        .ok () ∧
      (derivation.outcome (brackets.visible letters) turtles stream).turtles =
        (derivation.outcome letters turtles stream).turtles ∧
      brackets.closing ∉ brackets.visible letters := by
  induction letters using List.reverseRecOn with
  | nil => simp
  | append_singleton letters letter ih =>
      rw [branches.result_append_iff] at drawn
      rcases drawn with ⟨lettersDrawn, letterDrawn⟩
      obtain ⟨visibleDrawn, sameTurtles, unclosed⟩ := ih lettersDrawn
      rw [branches.turtles_append lettersDrawn]
      by_cases closes : letter = brackets.closing
      · subst closes
        have restores := branches.outcome_closing letterDrawn
        rw [← sameTurtles] at restores
        rcases brackets.visible_concat_closing letters with
          unopened | ⟨outer, inside, unopened, split, hidden⟩
        · -- No turtle is saved, so that restoring one would have failed.
          obtain ⟨active, activeIs⟩ :=
            branches.exists_active_of_bare unopened unclosed turtles stream
          simp [activeIs, BranchStack.restore, unsaved] at restores
        · rw [split] at visibleDrawn restores unclosed
          rw [List.mem_append, List.mem_cons, not_or, not_or] at unclosed
          obtain ⟨outerDrawn, outerTurtles⟩ :=
            branches.turtles_of_closed unopened unclosed.2.2 visibleDrawn
          rw [outerTurtles] at restores
          rw [hidden, ← sameTurtles, split]
          exact ⟨outerDrawn, Except.ok.inj restores, unclosed.1⟩
      · rw [Brackets.visible_concat_of_ne closes]
        refine ⟨?_, ?_, ?_⟩
        · rw [branches.result_append_iff, sameTurtles]
          exact ⟨visibleDrawn, letterDrawn⟩
        · rw [branches.turtles_append visibleDrawn, sameTurtles]
        · simp [unclosed, Ne.symm closes]

/-- A group leaves the turtles that its opening bracket found. -/
theorem turtles_of_group (branches : derivation.alphabet.Branches brackets)
    {turtles : BranchStack} (unsaved : turtles.saved = [])
    {stream : DrawStream Float} {earlier inside : List Letter}
    (balanced : brackets.Balanced inside)
    (drawn : (derivation.outcome
      (earlier ++ brackets.opening :: inside ++ [brackets.closing]) turtles
        stream).result = .ok ()) :
    (derivation.outcome earlier turtles stream).result = .ok () ∧
      (derivation.outcome
          (earlier ++ brackets.opening :: inside ++ [brackets.closing]) turtles
            stream).turtles =
        (derivation.outcome earlier turtles stream).turtles := by
  have earlierDrawn : (derivation.outcome earlier turtles stream).result =
      .ok () := by
    have splitDrawn := drawn
    rw [List.append_assoc, branches.result_append_iff] at splitDrawn
    exact splitDrawn.1
  have group := (branches.outcome_visible unsaved drawn).2.1
  rw [brackets.visible_group branches.distinct balanced, List.append_nil] at group
  exact ⟨earlierDrawn,
    group.symm.trans (branches.outcome_visible unsaved earlierDrawn).2.1⟩

/-- Every closing bracket that is drawn ends a group. -/
theorem exists_group (branches : derivation.alphabet.Branches brackets)
    {turtles : BranchStack} (unsaved : turtles.saved = [])
    {stream : DrawStream Float} {opened : List Letter}
    (drawn : (derivation.outcome (opened ++ [brackets.closing]) turtles
      stream).result = .ok ()) :
    ∃ earlier inside, opened = earlier ++ brackets.opening :: inside ∧
      brackets.Balanced inside := by
  rw [branches.result_append_iff] at drawn
  rcases drawn with ⟨openedDrawn, closingDrawn⟩
  obtain ⟨_, sameTurtles, unclosed⟩ := branches.outcome_visible unsaved openedDrawn
  have restores := branches.outcome_closing closingDrawn
  rw [← sameTurtles] at restores
  rcases brackets.visible_concat_closing opened with
    unopened | ⟨outer, inside, unopened, split, _⟩
  · obtain ⟨active, activeIs⟩ :=
      branches.exists_active_of_bare unopened unclosed turtles stream
    simp [activeIs, BranchStack.restore, unsaved] at restores
  · have reading : brackets.shown opened =
        inside.reverse ++ brackets.opening :: outer.reverse := by
      rw [← List.reverse_reverse (brackets.shown opened)]
      change (brackets.visible opened).reverse = _
      rw [split]
      simp
    obtain ⟨earlier, between, openedIs, balanced, _⟩ :=
      Brackets.exists_balanced_of_shown branches.distinct opened
        (by simpa using unopened) reading
    exact ⟨earlier, between, openedIs, balanced⟩

end Alphabet.Branches

/-- Where a letter of the sentence is reached, the turtles are those that the
letters before it leave without their closed branches, and the letter draws the
same from there.  Every closing bracket before it ends a group and goes back to
the turtles that the group started with. -/
theorem Derivation.drawSentence_ignores_closed_branches
    (derivation : Derivation) {brackets : Brackets}
    (branches : derivation.alphabet.Branches brackets)
    (stream : DrawStream Float) (scene : Scene Float32) (notes : Array Note)
    {before after : List Letter} {letter : Letter}
    (splits : derivation.sentence = before ++ letter :: after) {here : Canvas}
    (arrives :
      runFrom (Canvas.start derivation.settings stream scene notes)
        (before.forM derivation.drawSymbol) = (.ok (), here)) :
    let start := Canvas.start derivation.settings stream scene notes
    runFrom start derivation.drawSentence =
        runFrom here ((letter :: after).forM derivation.drawSymbol) ∧
      (∃ there,
        runFrom start ((brackets.visible before).forM derivation.drawSymbol) =
            (.ok (), there) ∧
          there.turtles = here.turtles ∧
          (runFrom there (derivation.drawSymbol letter)).1 =
            (runFrom here (derivation.drawSymbol letter)).1 ∧
          (runFrom there (derivation.drawSymbol letter)).2.turtles =
            (runFrom here (derivation.drawSymbol letter)).2.turtles ∧
          ∃ calls,
            (runFrom there (derivation.drawSymbol letter)).2.scene =
                there.scene.extend calls ∧
              (runFrom here (derivation.drawSymbol letter)).2.scene =
                here.scene.extend calls) ∧
      (∀ opened rest, before = opened ++ brackets.closing :: rest →
        ∃ earlier inside, opened = earlier ++ brackets.opening :: inside ∧
          brackets.Balanced inside) ∧
      (∀ earlier inside rest,
        before =
            earlier ++ brackets.opening :: inside ++ brackets.closing :: rest →
          brackets.Balanced inside →
            ∃ seen left,
              runFrom start (earlier.forM derivation.drawSymbol) =
                  (.ok (), seen) ∧
                runFrom start
                    ((earlier ++ brackets.opening :: inside
                      ++ [brackets.closing]).forM derivation.drawSymbol) =
                  (.ok (), left) ∧
                left.turtles = seen.turtles) := by
  intro start
  have unsaved : start.turtles.saved = [] := rfl
  obtain ⟨beforeDrawn, hereIs⟩ :=
    (derivation.runFrom_forM_drawSymbol_eq_ok_iff before start here).mp arrives
  refine ⟨?_, ?_, ?_, ?_⟩
  · rw [drawSentence, splits]
    simp only [List.forM_eq_forM] at arrives ⊢
    rw [List.forM_append, runFrom_bind_of_ok arrives]
  · obtain ⟨visibleDrawn, sameTurtles, _⟩ :=
      branches.outcome_visible unsaved beforeDrawn
    refine ⟨start.after (derivation.outcome (brackets.visible before)
      start.turtles start.stream), ?_, ?_, ?_⟩
    · exact (derivation.runFrom_forM_drawSymbol_eq_ok_iff _ start _).mpr
        ⟨visibleDrawn, rfl⟩
    · rw [← hereIs]
      exact sameTurtles
    · have still := branches.stream_outcome before start.turtles start.stream
      have visibleStill := branches.stream_outcome (brackets.visible before)
        start.turtles start.stream
      subst hereIs
      simp only [← run_programOf, Program.runFrom_run, Canvas.after, still,
        visibleStill, sameTurtles, true_and]
      exact ⟨_, rfl, rfl⟩
  · rintro opened rest rfl
    rw [List.append_cons, branches.result_append_iff] at beforeDrawn
    exact branches.exists_group unsaved beforeDrawn.1
  · rintro earlier inside rest rfl balanced
    rw [List.append_cons, branches.result_append_iff] at beforeDrawn
    obtain ⟨earlierDrawn, sameTurtles⟩ :=
      branches.turtles_of_group unsaved balanced beforeDrawn.1
    refine ⟨start.after _, start.after _, ?_, ?_, sameTurtles⟩
    · exact (derivation.runFrom_forM_drawSymbol_eq_ok_iff _ start _).mpr
        ⟨earlierDrawn, rfl⟩
    · exact (derivation.runFrom_forM_drawSymbol_eq_ok_iff _ start _).mpr
        ⟨beforeDrawn.1, rfl⟩

/-- Behind a closed branch with a segment in it the turtle is where it was. -/
theorem Derivation.turtles_behind_branch_of_one_segment :
    let alphabet :=
      ((Alphabet.empty.append
          (Symbol.ofAction "F" (Act.taperedSegment 1.0))).append
        (Symbol.ofAction "[" Act.save)).append
        (Symbol.ofAction "]" Act.restore)
    let derivation :=
      { Derivation.ofAlphabet alphabet Settings.standard with
        sentence := [0, 1, 0, 2, 0] }
    let start := Canvas.start Settings.standard
      (DrawStream.start (fun _ => 0.5) .deterministic 0) Scene.empty #[]
    alphabet.Branches ⟨1, 2⟩ ∧
      ∃ here there,
        runFrom start ([0, 1, 0, 2].forM derivation.drawSymbol) =
            (.ok (), here) ∧
          runFrom start ([0].forM derivation.drawSymbol) = (.ok (), there) ∧
          there.turtles = here.turtles := by
  intro alphabet derivation start
  have steady : ∀ letter symbol,
      (Alphabet.empty.append
        (Symbol.ofAction "F" (Act.taperedSegment 1.0))).find letter =
          .ok symbol → ∀ settings, (symbol.action settings).IsSteady := by
    intro letter symbol found settings
    rcases Alphabet.find_append_eq_ok found with foundBefore | rfl
    · simp [Alphabet.find, Alphabet.empty] at foundBefore
    · exact fun _ _ _ _ => trivial
  have defined :
      runFrom
        (Alphabet.empty.append (Symbol.ofAction "F" (Act.taperedSegment 1.0)))
        Edit.defineBrackets = (.ok (1, 2), alphabet) :=
    Alphabet.runFrom_defineBrackets_of_append_empty (by decide) (by decide)
  have branches : alphabet.Branches ⟨1, 2⟩ :=
    Alphabet.branches_of_defineBrackets steady defined
  have succeeds :
      (derivation.outcome [0, 1, 0, 2] start.turtles start.stream).result =
        .ok () := by
    have distinct :
        [(Symbol.ofAction "F" (Act.taperedSegment 1.0)).name, "[", "]"].Nodup := by
      decide
    simp only [derivation, alphabet, Alphabet.append_brackets_eq distinct]
    rfl
  have arrives :
      runFrom start ([0, 1, 0, 2].forM derivation.drawSymbol) =
        (.ok (), start.after
          (derivation.outcome [0, 1, 0, 2] start.turtles start.stream)) :=
    (derivation.runFrom_forM_drawSymbol_eq_ok_iff _ _ _).mpr ⟨succeeds, rfl⟩
  obtain ⟨_, ⟨there, visibleRun, sameTurtles, _⟩, _⟩ :=
    derivation.drawSentence_ignores_closed_branches branches _ _ _ rfl arrives
  exact ⟨branches, _, there, arrives, visibleRun, sameTurtles⟩

end GrowthGrammar
