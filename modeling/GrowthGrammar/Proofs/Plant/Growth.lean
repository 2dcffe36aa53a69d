import GrowthGrammar.Proofs.Plant.Spawning

/-!
# How the tree grows

A pass puts a shoot in the place of every part.  On the alphabet of the tree no
pass fails, and what holds of a list of parts after a number of passes follows
from what one pass does to it.  A staged run makes its last passes on the same
alphabet with spawning rules of weight zero, and leaves the alphabet as it was.
-/

namespace GrowthGrammar

namespace MonkeyPuzzle

/-- Whether a pass can put a shoot in the place of a part. -/
def Part.Sprouts (part : Part) (shoot : List Part) : Prop :=
  shoot ∈ part.replacements ∨ part.replacements = [] ∧ shoot = [part]

@[simp]
theorem letters_append (first second : List Part) :
    letters (first ++ second) = letters first ++ letters second :=
  List.map_append

/-- Whether a list of parts comes from another by shoots of some kind. -/
def GrowsInto (grows : Part → List Part → Prop) (before after : List Part) :
    Prop :=
  ∃ shoots, List.Forall₂ grows before shoots ∧ after = shoots.flatten

theorem GrowsInto.nil_iff {grows : Part → List Part → Prop}
    {after : List Part} : GrowsInto grows [] after ↔ after = [] := by
  simp [GrowsInto]

theorem GrowsInto.cons_iff {grows : Part → List Part → Prop} {part : Part}
    {rest after : List Part} :
    GrowsInto grows (part :: rest) after ↔
      ∃ shoot others, grows part shoot ∧ GrowsInto grows rest others ∧
        after = shoot ++ others := by
  constructor
  · rintro ⟨shoots, grown, rfl⟩
    obtain ⟨shoot, others, first, restGrown, rfl⟩ :=
      List.forall₂_cons_left_iff.mp grown
    exact ⟨shoot, others.flatten, first, ⟨others, restGrown, rfl⟩, rfl⟩
  · rintro ⟨shoot, others, first, ⟨shoots, restGrown, rfl⟩, rfl⟩
    exact ⟨shoot :: shoots, .cons first restGrown, rfl⟩

/-- Whether a pass keeps a property that parts may have after a number of
passes. -/
def IsKept (grows : Part → List Part → Prop) (holds : Nat → List Part → Prop) :
    Prop :=
  ∀ ⦃done before after⦄, holds done before → GrowsInto grows before after →
    holds (done + 1) after

/-- Shoots of all parts make up a list of parts. -/
theorem exists_growsInto {grows : Part → List Part → Prop} {parts : List Part}
    {replacements : List (List Letter)}
    (sprout : List.Forall₂
      (fun part replacement => ∃ shoot, grows part shoot ∧
        letters shoot = replacement) parts replacements) :
    ∃ next, GrowsInto grows parts next ∧ letters next = replacements.flatten := by
  induction sprout with
  | nil => exact ⟨[], GrowsInto.nil_iff.mpr rfl, rfl⟩
  | cons sprouts _ ih =>
      obtain ⟨shoot, first, shootIs⟩ := sprouts
      obtain ⟨others, rest, othersAre⟩ := ih
      refine ⟨shoot ++ others, ?_, ?_⟩
      · exact GrowsInto.cons_iff.mpr ⟨shoot, others, first, rest, rfl⟩
      · rw [letters_append, shootIs, othersAre, List.flatten_cons]

/-- The rules of a part have its replacements. -/
theorem Part.exists_replacement {part : Part} {spawn : Float} {index : Nat}
    {rule : Rule} (ruleFound : (part.rules spawn)[index]? = some rule) :
    ∃ shoot, part.replacements[index]? = some shoot ∧
      letters shoot = rule.replacement := by
  rw [rules, List.getElem?_zipWith_eq_some] at ruleFound
  obtain ⟨weight, shoot, _, shootFound, rfl⟩ := ruleFound
  exact ⟨shoot, shootFound, rfl⟩

theorem Part.replacements_eq_nil {part : Part} {spawn : Float}
    (unruled : part.rules spawn = []) : part.replacements = [] := by
  cases part <;> first | rfl | cases unruled

namespace IsTree

variable {spawn : Float} {alphabet : Alphabet}

/-- A letter of the tree stays or becomes the replacement that a value
selects. -/
theorem exists_shoot (tree : IsTree spawn alphabet) {part : Part}
    {value : Float} {replacement : List Letter}
    (becomes : alphabet.Becomes part.letter value replacement) :
    ∃ shoot, letters shoot = replacement ∧
      (part.replacements = [] ∧ shoot = [part] ∨
        ∃ index, (part.symbol spawn).table.select value = some index ∧
          part.replacements[index]? = some shoot) := by
  cases becomes with
  | kept found rests =>
      rw [tree.find_letter, Except.ok.injEq] at found
      subst found
      simp only [Part.fixed_symbol, Bool.false_eq_true, Part.rules_symbol,
        false_or] at rests
      exact ⟨[part], rfl, Or.inl ⟨Part.replacements_eq_nil rests, rfl⟩⟩
  | replaced found unfixed chosen ruleFound =>
      rw [tree.find_letter, Except.ok.injEq] at found
      subst found
      rw [Part.rules_symbol] at ruleFound
      obtain ⟨shoot, shootFound, shootIs⟩ := Part.exists_replacement ruleFound
      exact ⟨shoot, shootIs, Or.inr ⟨_, chosen, shootFound⟩⟩

theorem tablesFit (tree : IsTree spawn alphabet) : alphabet.TablesFit := by
  intro letter symbol found
  obtain ⟨part, rfl, rfl⟩ := tree.exists_part_of_find found
  rw [Part.symbol]
  split
  · exact Or.inl rfl
  · exact Symbol.tableFits_refreshed _

/-- Something can be chosen for every part that is replaced. -/
theorem isBarren_letter (tree : IsTree spawn alphabet)
    (listed : spawn ∈ spawnWeights) (part : Part) :
    alphabet.isBarren part.letter = false := by
  rw [Alphabet.isBarren_eq (tree.find_letter part)]
  simp only [spawnWeights, List.mem_cons, List.not_mem_nil, or_false] at listed
  rcases listed with rfl | rfl <;> cases part <;> decide +kernel

end IsTree

/-! ## Passes -/

/-- The session with a sentence of parts, behind a number of random values. -/
def grown (session : Session) (parts : List Part) (count : Nat) : Session :=
  { session with
    derivation := { session.derivation with sentence := letters parts }
    stream := session.stream.after count }

/-- Whether every letter of the tree becomes a shoot of some kind, whatever
value of the stream it is given. -/
def Yields (session : Session) (grows : Part → List Part → Prop) : Prop :=
  ∀ part count replacement,
    session.derivation.alphabet.Becomes part.letter
        (session.stream.after count).value replacement →
      ∃ shoot, grows part shoot ∧ letters shoot = replacement

section

variable {spawn : Float} {session : Session} {grows : Part → List Part → Prop}

theorem Yields.grown (yields : Yields session grows) (parts : List Part)
    (count : Nat) : Yields (grown session parts count) grows := by
  intro part more replacement becomes
  apply yields part (count + more)
  rw [← DrawStream.after_after]
  exact becomes

/-- A pass puts a shoot in the place of every part. -/
theorem exists_derive (tree : IsTree spawn session.derivation.alphabet)
    (listed : spawn ∈ spawnWeights) (yields : Yields session grows)
    {parts : List Part}
    (sentenceIs : session.derivation.sentence = letters parts) :
    ∃ next count, GrowsInto grows parts next ∧
      runFrom session Step.derive = (.ok (), grown session next count) := by
  have isPart : ∀ letter ∈ session.derivation.sentence,
      ∃ part : Part, part.letter = letter := by
    intro letter inside
    rw [sentenceIs] at inside
    obtain ⟨part, _, isLetter⟩ := List.mem_map.mp inside
    exact ⟨part, isLetter⟩
  obtain ⟨replacements, passes, run⟩ :=
    Step.exists_runFrom_derive_of_no_barren tree.tablesFit
      (fun letter inside =>
        let ⟨part, isLetter⟩ := isPart letter inside
        isLetter ▸ tree.contains_letter part)
      (fun letter inside =>
        let ⟨part, isLetter⟩ := isPart letter inside
        isLetter ▸ tree.isBarren_letter listed part)
  have becomeEach := passes.forall₂
  rw [sentenceIs, letters, List.forall₂_map_left_iff] at becomeEach
  obtain ⟨next, growsInto, nextIs⟩ := exists_growsInto <|
    becomeEach.imp fun part replacement ⟨count, becomes⟩ =>
      yields part count replacement becomes
  refine ⟨next, session.derivation.alphabet.demand session.derivation.sentence,
    growsInto, ?_⟩
  rw [run, grown, nextIs]

/-- What a pass keeps holds after any number of passes. -/
theorem exists_deriveTimes (tree : IsTree spawn session.derivation.alphabet)
    (listed : spawn ∈ spawnWeights) (yields : Yields session grows)
    {holds : Nat → List Part → Prop} (kept : IsKept grows holds)
    {parts : List Part}
    (sentenceIs : session.derivation.sentence = letters parts) (done : Nat)
    (initially : holds done parts) (passes : Nat) :
    ∃ final count, holds (done + passes) final ∧
      runFrom session (Step.deriveTimes passes) =
        (.ok (), grown session final count) := by
  induction passes generalizing session parts done with
  | zero =>
      refine ⟨parts, 0, initially, ?_⟩
      rw [Step.deriveTimes, runFrom_pure, grown, ← sentenceIs,
        DrawStream.after_zero]
  | succ passes ih =>
      obtain ⟨next, first, growsInto, run⟩ :=
        exists_derive tree listed yields sentenceIs
      have treeNext :
          IsTree spawn (grown session next first).derivation.alphabet := tree
      obtain ⟨final, rest, finalHolds, restRun⟩ := ih treeNext
        (yields.grown next first) rfl (done + 1) (kept initially growsInto)
      refine ⟨final, first + rest, ?_, ?_⟩
      · rwa [Nat.add_right_comm, Nat.add_assoc] at finalHolds
      · rw [Step.deriveTimes, runFrom_bind_of_ok run, restRun, grown, grown,
          grown, DrawStream.after_after]

end

theorem yields_sprouts {spawn : Float} {session : Session}
    (tree : IsTree spawn session.derivation.alphabet) :
    Yields session Part.Sprouts := by
  intro part count replacement becomes
  obtain ⟨shoot, shootIs, unreplaced | ⟨index, _, shootFound⟩⟩ :=
    tree.exists_shoot becomes
  · exact ⟨shoot, Or.inr unreplaced, shootIs⟩
  · exact ⟨shoot, Or.inl (List.mem_of_getElem? shootFound), shootIs⟩

/-! ## Staged runs -/

/-- The alphabet of the tree with another weight of the spawning rules. -/
def respawned (weight : Float) (alphabet : Alphabet) : Alphabet :=
  { alphabet with symbols := ((Part.all.map (Part.symbol weight)).map some).toArray }

theorem isTree_respawned (weight : Float) (alphabet : Alphabet) :
    IsTree weight (respawned weight alphabet) :=
  rfl

theorem IsTree.respawned_eq {spawn : Float} {alphabet : Alphabet}
    (tree : IsTree spawn alphabet) : respawned spawn alphabet = alphabet := by
  rw [respawned, ← tree]

theorem runFrom_reweigh_leader {alphabet : Alphabet} (part : Part)
    (isLeader : part ∈ Part.leaders) {spawn : Float}
    (found : alphabet.find part.letter = .ok (part.symbol spawn))
    {weight : Float} (listed : weight ∈ spawnWeights) :
    runFrom alphabet (Edit.reweigh part.letter weight) =
      (.ok (), alphabet.replace part.letter (part.symbol weight)) := by
  have ruled : (part.symbol spawn).rules ≠ [] := by
    obtain ⟨others, rules⟩ := Part.exists_rules_of_leader isLeader
    simp [rules]
  have valid : IsWeight weight := by
    simp only [spawnWeights, List.mem_cons, List.not_mem_nil, or_false] at listed
    rcases listed with rfl | rfl <;> decide +kernel
  have run := Edit.runFrom_reweigh found ruled valid
  rw [Part.reweighed_symbol spawn weight isLeader,
    Part.isWeightless_symbol listed] at run
  exact run

/-- Another weight can be set for all spawning rules. -/
theorem runFrom_setSpawnWeight {spawn : Float} (session : Session)
    (tree : IsTree spawn session.derivation.alphabet) {weight : Float}
    (listed : weight ∈ spawnWeights) :
    runFrom session (setSpawnWeight landmarks.leaders weight) =
      (.ok (), session.withAlphabet
        (respawned weight session.derivation.alphabet)) := by
  rw [setSpawnWeight_eq, Step.runFrom_edit]
  generalize session.derivation.alphabet = alphabet at tree
  rcases alphabet with ⟨nameTable, symbols, size⟩
  cases tree
  simp only [Leaders.toList, landmarks, List.forM_eq_forM, List.forM_cons,
    List.forM_nil]
  rw [runFrom_bind_of_ok
      (runFrom_reweigh_leader .xForth (by decide) rfl listed),
    runFrom_bind_of_ok
      (runFrom_reweigh_leader .xBack (by decide) rfl listed),
    runFrom_bind_of_ok
      (runFrom_reweigh_leader .yForth (by decide) rfl listed),
    runFrom_bind_of_ok
      (runFrom_reweigh_leader .yBack (by decide) rfl listed)]
  rfl

/-- The session in which the closing passes are made. -/
def bare (session : Session) : Session :=
  session.withAlphabet (respawned 0.0 session.derivation.alphabet)

theorem isTree_bare (session : Session) :
    IsTree 0.0 (bare session).derivation.alphabet :=
  isTree_respawned 0.0 session.derivation.alphabet

/-- A staged run makes its closing passes with spawning rules of weight zero and
puts their weight back. -/
theorem runFrom_deriveTimes_of_tree {session : Session}
    (tree : IsTree fullSpawnWeight session.derivation.alphabet) {passes : Nat}
    (many : plainRunLimit < passes) {opened final : List Part}
    {first last : Nat}
    (opening : runFrom session (Step.deriveTimes (passes - closingPasses)) =
      (.ok (), grown session opened first))
    (closing :
      runFrom (bare (grown session opened first))
          (Step.deriveTimes closingPasses) =
        (.ok (), grown (bare (grown session opened first)) final last)) :
    runFrom session (deriveTimes landmarks.leaders passes) =
      (.ok (), grown session final (first + last)) := by
  have weightIs : (grown session opened first).derivation.alphabet.weightOf
      landmarks.leaders.xForth 0 = .ok fullSpawnWeight :=
    (canPutBack_of_tree tree).equal _ List.mem_cons_self
  have taken := runFrom_setSpawnWeight (grown session opened first) tree
    zero_mem_spawnWeights
  have putBack := runFrom_setSpawnWeight
    (grown (bare (grown session opened first)) final last) (isTree_bare _)
    fullSpawnWeight_mem_spawnWeights
  rw [runFrom_deriveTimes_of_staged many opening weightIs taken closing putBack]
  have sameAlphabet : respawned fullSpawnWeight
      (respawned 0.0 session.derivation.alphabet) =
        session.derivation.alphabet := tree.respawned_eq
  simp only [grown, bare, Session.withAlphabet, DrawStream.after_after,
    sameAlphabet]

/-- A run leaves the alphabet of the tree, whether it fails or not. -/
theorem alphabet_deriveTimes_of_tree {session : Session}
    (tree : IsTree fullSpawnWeight session.derivation.alphabet) (passes : Nat) :
    (runFrom session
        (deriveTimes landmarks.leaders passes)).2.derivation.alphabet =
      session.derivation.alphabet := by
  rcases Nat.lt_or_ge plainRunLimit passes with many | few
  · rcases opening : runFrom session (Step.deriveTimes (passes - closingPasses))
      with ⟨error | ⟨⟨⟩⟩, opened⟩
    · rw [runFrom_deriveTimes_of_error _ many opening,
        Step.alphabet_of_deriveTimes opening]
    · rw [← Step.alphabet_of_deriveTimes opening] at tree ⊢
      have weightIs := (canPutBack_of_tree tree).equal _ List.mem_cons_self
      have taken := runFrom_setSpawnWeight opened tree zero_mem_spawnWeights
      rcases closing : runFrom (bare opened) (Step.deriveTimes closingPasses) with
        ⟨result, late⟩
      have lateAlphabet : late.derivation.alphabet =
          respawned 0.0 opened.derivation.alphabet :=
        Step.alphabet_of_deriveTimes closing
      have lateTree : IsTree 0.0 late.derivation.alphabet := by
        rw [lateAlphabet]
        exact isTree_bare opened
      have putBack := runFrom_setSpawnWeight late lateTree
        fullSpawnWeight_mem_spawnWeights
      rw [runFrom_deriveTimes_of_staged many opening weightIs taken closing putBack]
      dsimp only [Session.withAlphabet]
      rw [lateAlphabet]
      exact tree.respawned_eq
  · exact alphabet_deriveTimes_of_few _ few session

/-- What a pass keeps holds after any run. -/
theorem exists_run {session : Session}
    (tree : IsTree fullSpawnWeight session.derivation.alphabet)
    {holds : Nat → List Part → Prop} (kept : IsKept Part.Sprouts holds)
    {parts : List Part}
    (sentenceIs : session.derivation.sentence = letters parts)
    (initially : holds 0 parts) (passes : Nat) :
    ∃ final count, holds passes final ∧
      runFrom session (deriveTimes landmarks.leaders passes) =
        (.ok (), grown session final count) := by
  have full := fullSpawnWeight_mem_spawnWeights
  rcases Nat.lt_or_ge plainRunLimit passes with many | few
  · obtain ⟨opened, first, openedHolds, opening⟩ := exists_deriveTimes tree full
      (yields_sprouts tree) kept sentenceIs 0 initially (passes - closingPasses)
    have bareTree := isTree_bare (grown session opened first)
    obtain ⟨final, last, finalHolds, closing⟩ :=
      exists_deriveTimes bareTree zero_mem_spawnWeights
        (yields_sprouts bareTree) kept rfl _ openedHolds closingPasses
    refine ⟨final, first + last, ?_,
      runFrom_deriveTimes_of_tree tree many opening closing⟩
    have enough : closingPasses ≤ passes := Nat.le_trans (by decide) many
    rwa [Nat.zero_add, Nat.sub_add_cancel enough] at finalHolds
  · rw [runFrom_deriveTimes_of_few landmarks.leaders few]
    obtain ⟨final, count, finalHolds, run⟩ := exists_deriveTimes tree full
      (yields_sprouts tree) kept sentenceIs 0 initially passes
    rw [Nat.zero_add] at finalHolds
    exact ⟨final, count, finalHolds, run⟩

end MonkeyPuzzle

end GrowthGrammar
