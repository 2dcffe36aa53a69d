import GrowthGrammar.Proofs.Derivation.Replay
import GrowthGrammar.Proofs.Plant.Parts

/-!
# The weight of the spawning rules

A staged run takes the weight away from the rules by which the leader spawns
whorls and puts it back at its end, also when a pass fails in between.  It puts
back one weight for all four pieces of the leader, that of the first.  So the
weights are what they were if they were equal, and if neither taking the weight
away nor putting it back leaves a piece of the leader without any weight.
-/

namespace GrowthGrammar

namespace Step

theorem edit_bind {α β : Type} (first : Edit α) (rest : α → Edit β) :
    edit (first >>= rest) = edit first >>= fun value => edit (rest value) := by
  funext session
  change runFrom session (edit (first >>= rest)) =
    runFrom session (edit first >>= fun value => edit (rest value))
  rw [runFrom_edit, runFrom_bind, runFrom_bind, runFrom_edit]
  rcases runFrom session.derivation.alphabet first with ⟨_ | value, next⟩ <;> rfl

theorem edit_forM {α : Type} (sources : List α) (change : α → Edit Unit) :
    edit (sources.forM change) = sources.forM fun source => edit (change source) := by
  simp only [List.forM_eq_forM]
  induction sources with
  | nil => rfl
  | cons source sources ih => rw [List.forM_cons, List.forM_cons, edit_bind, ih]

end Step

namespace MonkeyPuzzle

theorem setSpawnWeight_eq (leaders : Leaders) (weight : Float) :
    setSpawnWeight leaders weight =
      Step.edit (leaders.toList.forM fun leader => Edit.reweigh leader weight) := by
  rw [Step.edit_forM, setSpawnWeight]
  simp only [Edit.reweigh, Step.edit_bind]

theorem runFrom_attempt {α : Type} (session : Session) (step : Step α) :
    runFrom session (attempt step) =
      (.ok (runFrom session step).1, (runFrom session step).2) :=
  rfl

/-! ## Staged runs -/

theorem runFrom_deriveTimes_of_few (leaders : Leaders) {passes : Nat}
    (few : passes ≤ plainRunLimit) (session : Session) :
    runFrom session (deriveTimes leaders passes) =
      runFrom session (Step.deriveTimes passes) := by
  rw [deriveTimes, if_pos few]

/-- A staged run whose opening passes fail is these passes. -/
theorem runFrom_deriveTimes_of_error (leaders : Leaders) {passes : Nat}
    (many : plainRunLimit < passes) {session grown : Session}
    {error : GrowthError}
    (opening : runFrom session (Step.deriveTimes (passes - closingPasses)) =
      (.error error, grown)) :
    runFrom session (deriveTimes leaders passes) = (.error error, grown) := by
  rw [deriveTimes, if_neg (Nat.not_le.mpr many)]
  exact runFrom_bind_of_error opening _

/-- Reading the weight of the spawning rules changes nothing. -/
theorem runFrom_spawnWeight_eq (leaders : Leaders) (session : Session) :
    runFrom session (spawnWeight leaders) =
      (session.derivation.alphabet.weightOf leaders.xForth 0, session) := by
  rw [spawnWeight, Step.inspect, runFrom_bind_of_ok (runFrom_get session)]
  cases session.derivation.alphabet.weightOf leaders.xForth 0 <;> rfl

theorem runFrom_spawnWeight {leaders : Leaders} {session : Session}
    {weight : Float}
    (weightIs :
      session.derivation.alphabet.weightOf leaders.xForth 0 = .ok weight) :
    runFrom session (spawnWeight leaders) = (.ok weight, session) := by
  rw [runFrom_spawnWeight_eq, weightIs]

/-- A staged run ends as its closing passes do, if the weight of the spawning
rules can be taken away and put back. -/
theorem runFrom_deriveTimes_of_staged {leaders : Leaders} {passes : Nat}
    (many : plainRunLimit < passes) {session grown bare late final : Session}
    {weight : Float} {result : Except GrowthError Unit}
    (opening : runFrom session (Step.deriveTimes (passes - closingPasses)) =
      (.ok (), grown))
    (weightIs :
      grown.derivation.alphabet.weightOf leaders.xForth 0 = .ok weight)
    (taken : runFrom grown (setSpawnWeight leaders 0.0) = (.ok (), bare))
    (closing : runFrom bare (Step.deriveTimes closingPasses) = (result, late))
    (putBack : runFrom late (setSpawnWeight leaders weight) = (.ok (), final)) :
    runFrom session (deriveTimes leaders passes) = (result, final) := by
  have attempted : runFrom bare (attempt (Step.deriveTimes closingPasses)) =
      (.ok result, late) := by
    rw [runFrom_attempt, closing]
  rw [deriveTimes, if_neg (Nat.not_le.mpr many), runFrom_bind_of_ok opening,
    runFrom_bind_of_ok (runFrom_spawnWeight weightIs), runFrom_bind_of_ok taken,
    runFrom_bind_of_ok attempted, runFrom_bind_of_ok putBack]
  cases result <;> rfl

/-- A staged run goes no further if the weight cannot be taken away. -/
theorem runFrom_deriveTimes_of_stuck {leaders : Leaders} {passes : Nat}
    (many : plainRunLimit < passes) {session grown bare : Session}
    {weight : Float} {error : GrowthError}
    (opening : runFrom session (Step.deriveTimes (passes - closingPasses)) =
      (.ok (), grown))
    (weightIs :
      grown.derivation.alphabet.weightOf leaders.xForth 0 = .ok weight)
    (stuck : runFrom grown (setSpawnWeight leaders 0.0) = (.error error, bare)) :
    runFrom session (deriveTimes leaders passes) = (.error error, bare) := by
  rw [deriveTimes, if_neg (Nat.not_le.mpr many), runFrom_bind_of_ok opening,
    runFrom_bind_of_ok (runFrom_spawnWeight weightIs)]
  exact runFrom_bind_of_error stuck _

theorem runFrom_regrow (leaders : Leaders) (session : Session) :
    runFrom session (regrow leaders) =
      runFrom (Step.rewound session) (do
        deriveTimes leaders session.derivation.settings.passes
        Step.redraw) :=
  rfl

/-- Drawing changes no alphabet. -/
theorem alphabet_regrow (leaders : Leaders) (session : Session) :
    (runFrom session (regrow leaders)).2.derivation.alphabet =
      (runFrom (Step.rewound session)
        (deriveTimes leaders
          session.derivation.settings.passes)).2.derivation.alphabet := by
  rw [runFrom_regrow, runFrom_bind]
  rcases runFrom (Step.rewound session)
    (deriveTimes leaders session.derivation.settings.passes) with
      ⟨_ | value, grown⟩
  · rfl
  · rw [Step.derivation_of_redraw]

/-! ## Weights after a run -/

theorem alphabet_deriveTimes_of_few (leaders : Leaders) {passes : Nat}
    (few : passes ≤ plainRunLimit) (session : Session) :
    (runFrom session (deriveTimes leaders passes)).2.derivation.alphabet =
      session.derivation.alphabet := by
  rw [runFrom_deriveTimes_of_few leaders few]
  exact Step.alphabet_of_deriveTimes (Prod.eta _).symm

/-- The weight of all spawning rules can be set where it is possible for each of
them. -/
theorem exists_setSpawnWeight {leaders : Leaders} {session : Session}
    {weights : List Float}
    (can : session.derivation.alphabet.CanReweigh leaders.toList weights)
    {weight : Float} (listed : weight ∈ weights) (valid : IsWeight weight) :
    ∃ next, runFrom session (setSpawnWeight leaders weight) = (.ok (), next) ∧
      next.derivation.alphabet.CanReweigh leaders.toList weights ∧
      ∀ leader ∈ leaders.toList,
        next.derivation.alphabet.weightOf leader 0 = .ok weight := by
  obtain ⟨alphabet, run, nextCan, weightsAre⟩ :=
    can.exists_reweighed listed valid (fun _ inside => inside)
  refine ⟨session.withAlphabet alphabet, ?_, nextCan, ?_⟩
  · rw [setSpawnWeight_eq, Step.runFrom_edit, run]
  · intro leader inside
    exact weightsAre leader (Or.inl inside)

/-- Where the first piece of the leader has no other weights, taking its weight
away fails and leaves it without. -/
theorem runFrom_setSpawnWeight_of_weightless {leaders : Leaders}
    {session : Session} {symbol : Symbol} {weight : Float}
    (found : session.derivation.alphabet.find leaders.xForth = .ok symbol)
    (ruled : symbol.rules ≠ []) (valid : IsWeight weight)
    (weightless : (symbol.reweighed weight).isWeightless = true) :
    runFrom session (setSpawnWeight leaders weight) =
      (.error (.weightlessRules symbol.name),
        session.withAlphabet (session.derivation.alphabet.replace
          leaders.xForth (symbol.reweighed weight))) := by
  have run := Edit.runFrom_reweigh found ruled valid
  rw [if_pos weightless] at run
  rw [setSpawnWeight_eq, Step.runFrom_edit, Leaders.toList]
  simp only [List.forM_eq_forM, List.forM_cons, runFrom_bind_of_error run]

/-- A staged run whose opening passes succeed gives all spawning rules the weight
that the first of them had, if they can have this weight and weight zero. -/
theorem weightOf_of_staged {leaders : Leaders} {passes : Nat}
    (many : plainRunLimit < passes) {session grown : Session} {weight : Float}
    (valid : IsWeight weight)
    (opening : runFrom session (Step.deriveTimes (passes - closingPasses)) =
      (.ok (), grown))
    (weightIs :
      session.derivation.alphabet.weightOf leaders.xForth 0 = .ok weight)
    (can : session.derivation.alphabet.CanReweigh leaders.toList [0.0, weight])
    {leader : Letter} (inside : leader ∈ leaders.toList) :
    (runFrom session
        (deriveTimes leaders passes)).2.derivation.alphabet.weightOf leader 0 =
      .ok weight := by
  rw [← Step.alphabet_of_deriveTimes opening] at weightIs can
  obtain ⟨bare, taken, bareCan, _⟩ :=
    exists_setSpawnWeight can (by simp) (by decide +kernel : IsWeight 0.0)
  rcases closing : runFrom bare (Step.deriveTimes closingPasses) with
    ⟨result, late⟩
  rw [← Step.alphabet_of_deriveTimes closing] at bareCan
  obtain ⟨final, putBack, _, weightsAre⟩ :=
    exists_setSpawnWeight bareCan (by simp) valid
  rw [runFrom_deriveTimes_of_staged many opening weightIs taken closing putBack]
  exact weightsAre leader inside

/-- Whether a run can put back the weights of the spawning rules: they are equal,
and no piece of the leader is without any weight, neither as it is nor when its
spawning rule has none. -/
structure CanPutBack (alphabet : Alphabet) (leaders : Leaders)
    (weight : Float) : Prop where
  equal : ∀ leader ∈ leaders.toList, alphabet.weightOf leader 0 = .ok weight
  weighted : ∀ leader ∈ leaders.toList, ∀ symbol,
    alphabet.find leader = .ok symbol → symbol.isWeightless = false
  weightedWithout : ∀ leader ∈ leaders.toList, ∀ symbol,
    alphabet.find leader = .ok symbol →
      (symbol.reweighed 0.0).isWeightless = false

theorem CanPutBack.canReweigh {alphabet : Alphabet} {leaders : Leaders}
    {weight : Float} (can : CanPutBack alphabet leaders weight) :
    alphabet.CanReweigh leaders.toList [0.0, weight] := by
  intro leader inside
  obtain ⟨symbol, rule, found, ruleFound, weightIs⟩ :=
    (alphabet.weightOf_eq_ok_iff leader 0 weight).mp (can.equal leader inside)
  have rules : (symbol.reweighed weight).rules = symbol.rules := by
    cases ruled : symbol.rules with
    | nil => simp [ruled] at ruleFound
    | cons first rest =>
        simp only [ruled, List.getElem?_cons_zero, Option.some.injEq] at ruleFound
        simp [ruled, ruleFound, ← weightIs]
  refine ⟨symbol, found, ?_, ?_⟩
  · intro unruled
    simp [unruled] at ruleFound
  · intro other listed
    simp only [List.mem_cons, List.not_mem_nil, or_false] at listed
    rcases listed with rfl | rfl
    · exact can.weightedWithout leader inside symbol found
    · rw [Symbol.isWeightless_congr rules]
      exact can.weighted leader inside symbol found

/-- A staged run whose opening passes succeed puts the weights back. -/
theorem CanPutBack.weightOf_of_opened {leaders : Leaders} {session : Session}
    (reachable : session.derivation.alphabet.Reachable) {weight : Float}
    (can : CanPutBack session.derivation.alphabet leaders weight) {passes : Nat}
    (many : plainRunLimit < passes) {opened : Session}
    (opening : runFrom session (Step.deriveTimes (passes - closingPasses)) =
      (.ok (), opened))
    {leader : Letter} (inside : leader ∈ leaders.toList) :
    (runFrom session
        (deriveTimes leaders passes)).2.derivation.alphabet.weightOf leader 0 =
      .ok weight := by
  have weightIs := can.equal leaders.xForth List.mem_cons_self
  obtain ⟨symbol, rule, found, ruleFound, rfl⟩ :=
    (Alphabet.weightOf_eq_ok_iff _ _ _ _).mp weightIs
  have valid : IsWeight rule.weight :=
    reachable.weightsValid found rule (List.mem_of_getElem? ruleFound)
  exact weightOf_of_staged many valid opening weightIs can.canReweigh inside

/-- Whether a run leaves the weights of the spawning rules as it finds them: it is
not staged, or its opening passes fail, or it can put the weights back. -/
def KeepsWeights (leaders : Leaders) (session : Session) (passes : Nat) : Prop :=
  passes ≤ plainRunLimit ∨
    (∃ error grown,
      runFrom session (Step.deriveTimes (passes - closingPasses)) =
        (.error error, grown)) ∨
    ∃ weight, CanPutBack session.derivation.alphabet leaders weight

theorem KeepsWeights.weightOf_deriveTimes {leaders : Leaders} {session : Session}
    (reachable : session.derivation.alphabet.Reachable) {passes : Nat}
    (keeps : KeepsWeights leaders session passes) {leader : Letter}
    (inside : leader ∈ leaders.toList) :
    (runFrom session
        (deriveTimes leaders passes)).2.derivation.alphabet.weightOf leader 0 =
      session.derivation.alphabet.weightOf leader 0 := by
  rcases Nat.lt_or_ge plainRunLimit passes with many | few
  · rcases opening : runFrom session (Step.deriveTimes (passes - closingPasses))
      with ⟨error | _, opened⟩
    · rw [runFrom_deriveTimes_of_error leaders many opening,
        Step.alphabet_of_deriveTimes opening]
    · rcases keeps with few | ⟨error, failed, failure⟩ | ⟨weight, can⟩
      · exact absurd few (Nat.not_le.mpr many)
      · rw [opening] at failure
        cases failure
      · rw [can.equal leader inside]
        exact can.weightOf_of_opened reachable many opening inside
  · rw [alphabet_deriveTimes_of_few leaders few]

/-- A run or a regrowth leaves the weights of the spawning rules as it found
them, whether it fails or not, if it is not staged, if its opening passes fail, or
if the weights can be put back. -/
theorem weightOf_spawning_rules_after_run (leaders : Leaders)
    (session : Session) (reachable : session.derivation.alphabet.Reachable) :
    (∀ passes, KeepsWeights leaders session passes →
      ∀ leader ∈ leaders.toList,
        (runFrom session (deriveTimes leaders passes)).2.derivation.alphabet.weightOf
            leader 0 =
          session.derivation.alphabet.weightOf leader 0) ∧
    (KeepsWeights leaders (Step.rewound session)
        session.derivation.settings.passes →
      ∀ leader ∈ leaders.toList,
        (runFrom session (regrow leaders)).2.derivation.alphabet.weightOf leader 0 =
          session.derivation.alphabet.weightOf leader 0) := by
  constructor
  · intro passes keeps leader inside
    exact keeps.weightOf_deriveTimes reachable inside
  · intro keeps leader inside
    have sameAlphabet : (Step.rewound session).derivation.alphabet =
        session.derivation.alphabet := rfl
    rw [alphabet_regrow, ← sameAlphabet]
    rw [← sameAlphabet] at reachable
    exact keeps.weightOf_deriveTimes reachable inside

/-! ## The tree -/

/-- Another weight of the spawning rules makes no other difference. -/
theorem Part.reweighed_symbol (spawn weight : Float) {part : Part}
    (isLeader : part ∈ Part.leaders) :
    (part.symbol spawn).reweighed weight = part.symbol weight := by
  simp only [Part.leaders, List.mem_cons, List.not_mem_nil, or_false] at isLeader
  rcases isLeader with rfl | rfl | rfl | rfl <;> rfl

theorem exists_part_of_leader {leader : Letter}
    (inside : leader ∈ landmarks.leaders.toList) :
    ∃ part ∈ Part.leaders, part.letter = leader := by
  exact List.mem_map.mp inside

theorem canPutBack_of_tree {alphabet : Alphabet}
    (tree : IsTree fullSpawnWeight alphabet) :
    CanPutBack alphabet landmarks.leaders fullSpawnWeight := by
  constructor
  · intro leader inside
    obtain ⟨part, isLeader, rfl⟩ := exists_part_of_leader inside
    obtain ⟨others, rules⟩ := Part.exists_rules_of_leader isLeader
    rw [Alphabet.weightOf_eq_ok_iff]
    exact ⟨_, _, tree.find_letter part, by rw [Part.rules_symbol, rules]; rfl, rfl⟩
  · intro leader inside symbol found
    obtain ⟨part, isLeader, rfl⟩ := exists_part_of_leader inside
    rw [tree.find_letter, Except.ok.injEq] at found
    rw [← found]
    exact Part.isWeightless_symbol fullSpawnWeight_mem_spawnWeights part
  · intro leader inside symbol found
    obtain ⟨part, isLeader, rfl⟩ := exists_part_of_leader inside
    rw [tree.find_letter, Except.ok.injEq] at found
    rw [← found, Part.reweighed_symbol _ _ isLeader]
    exact Part.isWeightless_symbol zero_mem_spawnWeights part

/-- A staged run of the tree as it was planted puts its weights back. -/
theorem spawn_weights_of_planted_tree :
    ∃ young, plant Settings.standard = .ok (young, landmarks) ∧
      young.alphabet.Reachable ∧
      CanPutBack young.alphabet landmarks.leaders fullSpawnWeight ∧
      let session : Session :=
        { derivation := young
          stream := DrawStream.start (fun _ => 0.5) .deterministic 17
          notes := #[] }
      ∀ leader ∈ landmarks.leaders.toList,
        (runFrom session
            (deriveTimes landmarks.leaders 12)).2.derivation.alphabet.weightOf
              leader 0 =
          .ok fullSpawnWeight := by
  obtain ⟨alphabet, reachable, tree, planted⟩ := exists_plant Settings.standard
  have can := canPutBack_of_tree tree
  refine ⟨_, planted, reachable, can, ?_⟩
  intro session leader inside
  rw [← can.equal leader inside]
  exact (weightOf_spawning_rules_after_run landmarks.leaders session
    reachable).1 12 (Or.inr (Or.inr ⟨fullSpawnWeight, can⟩)) leader inside

/-- A host gives one piece of the leader another weight, and a staged run gives it
the weight of the first piece. -/
theorem spawn_weight_lost_to_first_leader :
    ∃ young, plant Settings.standard = .ok (young, landmarks) ∧
      let edited := young.alphabet.after
        (.setWeight landmarks.leaders.xBack 0 5.0)
      let session : Session :=
        { derivation := { young with alphabet := edited, sentence := [] }
          stream := DrawStream.start (fun _ => 0.5) .deterministic 17
          notes := #[] }
      edited.weightOf landmarks.leaders.xBack 0 = .ok 5.0 ∧
        (runFrom session
            (deriveTimes landmarks.leaders 10)).2.derivation.alphabet.weightOf
              landmarks.leaders.xBack 0 =
          .ok 9.0 := by
  obtain ⟨alphabet, reachable, tree, planted⟩ := exists_plant Settings.standard
  refine ⟨_, planted, ?_⟩
  intro edited session
  obtain ⟨next, run, holds⟩ := Edit.Makes.setWeight
    (Part.xBack.getElem?_letter fullSpawnWeight) List.getElem?_cons_zero
    (by decide +kernel : IsWeight 5.0) ⟨reachable, tree⟩
  have editedIs : edited = next := congrArg Prod.snd run
  rw [← editedIs] at holds
  have opening : runFrom session (Step.deriveTimes (10 - closingPasses)) =
      (.ok (), session) := rfl
  have can : edited.CanReweigh landmarks.leaders.toList [0.0, 9.0] := by
    intro leader inside
    obtain ⟨part, isLeader, rfl⟩ := exists_part_of_leader inside
    simp only [Part.leaders, List.mem_cons, List.not_mem_nil, or_false] at isLeader
    rcases isLeader with rfl | rfl | rfl | rfl <;>
      exact ⟨_, holds.find_eq rfl, List.cons_ne_nil _ _, by decide +kernel⟩
  constructor
  · rw [Alphabet.weightOf, holds.find_eq rfl]
    rfl
  · have weightIs : session.derivation.alphabet.weightOf
        landmarks.leaders.xForth 0 = .ok 9.0 := by
      rw [Alphabet.weightOf, holds.find_eq rfl]
      rfl
    exact weightOf_of_staged (by decide) (by decide +kernel : IsWeight 9.0)
      opening weightIs can (by decide)

/-- A host leaves the first piece of the leader with its spawning rule alone, and a
staged run fails and leaves this rule without weight. -/
theorem spawn_weight_lost_to_failure :
    ∃ young, plant Settings.standard = .ok (young, landmarks) ∧
      let xForth := landmarks.leaders.xForth
      let edited := young.alphabet.after (.setRules xForth [⟨9.0, [xForth]⟩])
      let session : Session :=
        { derivation := { young with alphabet := edited, sentence := [] }
          stream := DrawStream.start (fun _ => 0.5) .deterministic 17
          notes := #[] }
      edited.weightOf xForth 0 = .ok 9.0 ∧
        (runFrom session (deriveTimes landmarks.leaders 10)).1 =
          .error (.weightlessRules "(B+x)") ∧
        (runFrom session
            (deriveTimes landmarks.leaders 10)).2.derivation.alphabet.weightOf
              xForth 0 =
          .ok 0.0 := by
  obtain ⟨alphabet, reachable, tree, planted⟩ := exists_plant Settings.standard
  refine ⟨_, planted, ?_⟩
  intro xForth edited session
  have admissible : Rule.Admissible Part.all.length [⟨9.0, [xForth]⟩] := by
    decide +kernel
  obtain ⟨next, run, holds⟩ := Edit.Makes.setRules
    (Part.xForth.getElem?_letter fullSpawnWeight) admissible ⟨reachable, tree⟩
  have editedIs : edited = next := congrArg Prod.snd run
  rw [← editedIs] at holds
  have found : session.derivation.alphabet.find landmarks.leaders.xForth = .ok _ :=
    holds.find_eq (List.getElem?_set_self (by decide))
  have weightIs : session.derivation.alphabet.weightOf landmarks.leaders.xForth 0 =
      .ok 9.0 := by
    rw [Alphabet.weightOf, found]
    rfl
  have opening : runFrom session (Step.deriveTimes (10 - closingPasses)) =
      (.ok (), session) := rfl
  have stuck : runFrom session (setSpawnWeight landmarks.leaders 0.0) = _ :=
    runFrom_setSpawnWeight_of_weightless found (List.cons_ne_nil _ _)
      (by decide +kernel : IsWeight 0.0) (by decide +kernel)
  have run := runFrom_deriveTimes_of_stuck (by decide) opening weightIs stuck
  refine ⟨weightIs, congrArg Prod.fst run, ?_⟩
  rw [run]
  exact Alphabet.weightOf_reweighed found (List.cons_ne_nil _ _) 0.0

end MonkeyPuzzle

end GrowthGrammar
