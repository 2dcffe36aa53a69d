import GrowthGrammar.Proofs.Plant.Growth

/-!
# Long runs leave no stubs

Three parts of the tree draw nothing and only stand for what is to grow: a twist
or a leader that has not started, and a whorl.  A whorl comes from a leader whose
spawning rule is chosen, and a leader that has not started comes from a whorl.
In the closing passes of a staged run the spawning rules have weight zero, so that
no value of the unit interval chooses them.  Then the whorls are gone after one
pass and the leaders have started after two, and there are five.
-/

namespace GrowthGrammar

/-- A first entry that a draw does not fall below is not selected, if there are
others. -/
theorem ShareTable.select_ne_zero {D : Type} [Scalar D] {table : ShareTable D}
    {share draw : D} (first : table.entries.head? = some share)
    (others : 1 < table.entries.length) (unreached : ¬ draw < share) :
    table.select draw ≠ some 0 := by
  rcases table with ⟨_ | ⟨entry, _ | ⟨second, rest⟩⟩⟩
  · contradiction
  · contradiction
  · obtain rfl := Option.some.inj first
    simp only [select, List.findIdx?_cons, unreached, decide_false,
      Bool.false_eq_true, if_false]
    cases (second :: rest).findIdx? (draw < ·) <;> simp

namespace MonkeyPuzzle

/-- The parts that only stand for what is to grow. -/
def Part.stubs : List Part :=
  [twistStart, leaderStart, whorl]

/-- Whether a pass without whorls can put a shoot in the place of a part. -/
def Part.Settles (part : Part) (shoot : List Part) : Prop :=
  part.Sprouts shoot ∧ (part ∈ Part.leaders → whorl ∉ shoot)

/-- Whorls come from the leader, a leader that has not started comes from a whorl,
and a twist that has not started comes from nothing. -/
theorem Part.origin_of_stub {part other : Part} {shoot : List Part}
    (listed : shoot ∈ part.replacements) (inside : other ∈ shoot)
    (isStub : other ∈ stubs) :
    part ∈ leaders ∧ other = whorl ∨ part = whorl ∧ other = leaderStart := by
  have origins : ∀ part : Part, ∀ shoot ∈ part.replacements, ∀ other ∈ shoot,
      other ∈ stubs →
        part ∈ leaders ∧ other = whorl ∨ part = whorl ∧ other = leaderStart := by
    intro part
    cases part <;> decide
  exact origins part shoot listed other inside isStub

/-- What the leader may be replaced by in its other rules has no whorl. -/
theorem Part.whorl_notMem_of_leader {part : Part} (isLeader : part ∈ leaders)
    {index : Nat} {shoot : List Part} (other : index ≠ 0)
    (shootFound : part.replacements[index]? = some shoot) : whorl ∉ shoot := by
  obtain ⟨index, rfl⟩ := Nat.exists_eq_succ_of_ne_zero other
  have bare : ∀ part ∈ leaders, ∀ shoot ∈ part.replacements.tail,
      whorl ∉ shoot := by
    decide
  apply bare part isLeader shoot
  rw [← List.getElem?_tail] at shootFound
  exact List.mem_of_getElem? shootFound

/-- With weight zero the spawning rule is selected by no value but a negative
one. -/
theorem Part.select_ne_zero {part : Part} (isLeader : part ∈ leaders)
    {value : Float} (notNegative : ¬ value < 0.0) :
    (part.symbol 0.0).table.select value ≠ some 0 := by
  have shares : ∀ part ∈ leaders,
      (part.symbol 0.0).table.entries.head? = some 0.0 ∧
        1 < (part.symbol 0.0).table.entries.length := by
    decide +kernel
  obtain ⟨first, others⟩ := shares part isLeader
  exact ShareTable.select_ne_zero first others notNegative

theorem yields_settles {session : Session}
    (tree : IsTree 0.0 session.derivation.alphabet)
    (notNegative : ∀ count, ¬ (session.stream.after count).value < 0.0) :
    Yields session Part.Settles := by
  intro part count replacement becomes
  obtain ⟨shoot, shootIs, ⟨unreplaced, rfl⟩ | ⟨index, chosen, shootFound⟩⟩ :=
    tree.exists_shoot becomes
  · refine ⟨[part], ⟨Or.inr ⟨unreplaced, rfl⟩, ?_⟩, shootIs⟩
    have distinct : ∀ part ∈ Part.leaders, Part.whorl ∉ [part] := by decide
    exact distinct part
  · refine ⟨shoot, ⟨Or.inl (List.mem_of_getElem? shootFound), ?_⟩, shootIs⟩
    intro isLeader
    apply Part.whorl_notMem_of_leader isLeader _ shootFound
    rintro rfl
    exact Part.select_ne_zero isLeader (notNegative count) chosen

/-- Whether a part can be there after a number of passes without whorls. -/
def Part.MayRemain (passes : Nat) : Part → Prop
  | twistStart | whorl => passes = 0
  | leaderStart => passes ≤ 1
  | _ => True

theorem Part.mayRemain_of_not_stub {passes : Nat} {part : Part}
    (grown : part ∉ stubs) : part.MayRemain passes := by
  cases part with
  | twistStart | leaderStart | whorl => exact absurd (by decide) grown
  | _ => exact trivial

/-- A pass without whorls lets no stub remain too long. -/
theorem Part.MayRemain.settle {passes : Nat} {part : Part}
    (remains : part.MayRemain passes) {shoot : List Part}
    (settles : part.Settles shoot) {other : Part} (inside : other ∈ shoot) :
    other.MayRemain (passes + 1) := by
  obtain ⟨listed | ⟨unreplaced, rfl⟩, bare⟩ := settles
  · by_cases isStub : other ∈ stubs
    · rcases origin_of_stub listed inside isStub with
        ⟨isLeader, rfl⟩ | ⟨rfl, rfl⟩
      · exact absurd inside (bare isLeader)
      · exact Nat.succ_le_succ (Nat.le_of_eq remains)
    · exact mayRemain_of_not_stub isStub
  · obtain rfl := List.mem_singleton.mp inside
    apply mayRemain_of_not_stub
    intro isStub
    have replaced : ∀ part ∈ stubs, part.replacements ≠ [] := by decide
    exact replaced other isStub unreplaced

theorem isKept_mayRemain :
    IsKept Part.Settles fun passes parts =>
      ∀ part ∈ parts, part.MayRemain passes := by
  intro passes before after remain grows
  induction before generalizing after with
  | nil => simp [GrowsInto.nil_iff.mp grows]
  | cons part rest ih =>
      obtain ⟨shoot, others, settles, restGrows, rfl⟩ :=
        GrowsInto.cons_iff.mp grows
      rw [List.forall_mem_cons] at remain
      rw [List.forall_mem_append]
      exact ⟨fun other inside => remain.1.settle settles inside,
        ih remain.2 restGrows⟩

/-- Nothing of a stub remains after the closing passes. -/
theorem Part.MayRemain.not_stub {part : Part}
    (remains : part.MayRemain closingPasses) : part ∉ stubs := by
  intro isStub
  simp only [stubs, List.mem_cons, List.not_mem_nil, or_false] at isStub
  rcases isStub with rfl | rfl | rfl <;>
    simp [MayRemain, closingPasses] at remains

theorem Part.name_notMem_of_not_stub {part : Part} (grown : part ∉ stubs) :
    part.name ∉ ["(AS)", "(BS)", "(TS)"] := by
  cases part with
  | twistStart | leaderStart | whorl => exact absurd (by decide) grown
  | _ => decide +kernel

/-- The sentence that a staged run leaves has no stub in it, whatever the sentence
before was and whatever the values are, if none of them is negative. -/
theorem staged_run_leaves_no_stub {settings : Settings} {young : Derivation}
    {marks : Landmarks} (planted : plant settings = .ok (young, marks))
    {session : Session}
    (sameAlphabet : session.derivation.alphabet = young.alphabet)
    (defined : ∀ letter ∈ session.derivation.sentence,
      session.derivation.alphabet.contains letter = true)
    (notNegative : ∀ count, ¬ (session.stream.after count).value < 0.0)
    {passes : Nat} (many : 10 ≤ passes) :
    ∃ final,
      runFrom session (deriveTimes marks.leaders passes) = (.ok (), final) ∧
        final.derivation.alphabet = young.alphabet ∧
        ∀ letter ∈ final.derivation.sentence, ∃ symbol,
          final.derivation.alphabet.find letter = .ok symbol ∧
            symbol.name ∉ ["(AS)", "(BS)", "(TS)"] := by
  obtain ⟨isYoung, rfl⟩ := isYoung_of_plant planted
  have tree : IsTree fullSpawnWeight session.derivation.alphabet := by
    rw [sameAlphabet]
    exact isYoung.tree
  obtain ⟨parts, sentenceIs⟩ := tree.exists_letters defined
  have kept : IsKept Part.Sprouts fun _ _ => True :=
    fun _ _ _ _ _ => trivial
  obtain ⟨opened, first, _, opening⟩ := exists_deriveTimes tree
    fullSpawnWeight_mem_spawnWeights (yields_sprouts tree) kept sentenceIs 0
    trivial (passes - closingPasses)
  have bareTree := isTree_bare (grown session opened first)
  have notNegativeThere : ∀ count,
      ¬ ((bare (grown session opened first)).stream.after count).value < 0.0 := by
    intro count
    have late := notNegative (first + count)
    rwa [← DrawStream.after_after] at late
  have initially : ∀ part ∈ opened, part.MayRemain 0 := by
    intro part _
    cases part <;> simp [Part.MayRemain]
  obtain ⟨final, last, remain, closing⟩ := exists_deriveTimes bareTree
    zero_mem_spawnWeights (yields_settles bareTree notNegativeThere)
    isKept_mayRemain rfl 0 initially closingPasses
  have run := runFrom_deriveTimes_of_tree tree many opening closing
  refine ⟨_, run, sameAlphabet, ?_⟩
  intro letter inside
  obtain ⟨part, partInside, rfl⟩ := List.mem_map.mp inside
  refine ⟨part.symbol fullSpawnWeight, tree.find_letter part, ?_⟩
  rw [Part.name_symbol]
  exact Part.name_notMem_of_not_stub (remain part partInside).not_stub

/-- Ten passes with the least values leave no stub of a sentence of stubs. -/
theorem staged_run_of_stubs :
    ∃ young, plant Settings.standard = .ok (young, landmarks) ∧
      let session : Session :=
        { derivation := { young with sentence := letters Part.stubs }
          stream := DrawStream.start (fun _ => 0.0) .stochastic 17
          notes := #[] }
      (∀ letter ∈ session.derivation.sentence,
          session.derivation.alphabet.contains letter = true) ∧
        (∀ count, ¬ (session.stream.after count).value < 0.0) ∧
        ∃ final,
          runFrom session (deriveTimes landmarks.leaders 10) = (.ok (), final) ∧
            ∀ letter ∈ final.derivation.sentence, ∃ symbol,
              final.derivation.alphabet.find letter = .ok symbol ∧
                symbol.name ∉ ["(AS)", "(BS)", "(TS)"] := by
  obtain ⟨alphabet, _, tree, planted⟩ := exists_plant Settings.standard
  refine ⟨_, planted, ?_⟩
  intro session
  have defined : ∀ letter ∈ session.derivation.sentence,
      session.derivation.alphabet.contains letter = true := by
    intro letter inside
    obtain ⟨part, _, rfl⟩ := List.mem_map.mp inside
    exact tree.contains_letter part
  have notNegative : ∀ count, ¬ (session.stream.after count).value < 0.0 := by
    intro count
    rw [DrawStream.value_after_of_stochastic rfl]
    exact (by decide +kernel : ¬ (0.0 : Float) < 0.0)
  obtain ⟨final, run, _, grown⟩ := staged_run_leaves_no_stub planted
    (rfl : session.derivation.alphabet = _) defined notNegative (Nat.le_refl 10)
  exact ⟨defined, notNegative, final, run, grown⟩

end MonkeyPuzzle

end GrowthGrammar
