import Mathlib.Data.List.Forall2
import GrowthGrammar.Derivation.Basic
import GrowthGrammar.Proofs.Alphabet.Construction
import GrowthGrammar.Proofs.Alphabet.Freshness
import GrowthGrammar.Proofs.Random.Stream

/-!
# What a pass does

A pass takes one value for every symbol that expands, and none for the others.
So the value that a symbol is given depends on where the random stream stands and
on the number of symbols before it that expand, but not on what these symbols
become.  A pass fails at the first symbol that expands and has no weights; then
it has taken the values up to and including that of the symbol.
-/

namespace GrowthGrammar

namespace Alphabet

variable (alphabet : Alphabet)

/-- Whether a pass takes a value for a letter. -/
def expandsAt (letter : Letter) : Bool :=
  match alphabet.find letter with
  | .ok symbol => symbol.expands
  | .error _ => false

/-- Whether a pass fails at a letter that stands for a symbol. -/
def isBarren (letter : Letter) : Bool :=
  match alphabet.find letter with
  | .ok symbol => symbol.expands && symbol.table.isEmpty
  | .error _ => false

variable {alphabet} in
theorem expandsAt_eq {letter : Letter} {symbol : Symbol}
    (found : alphabet.find letter = .ok symbol) :
    alphabet.expandsAt letter = symbol.expands := by
  rw [expandsAt, found]

variable {alphabet} in
theorem isBarren_eq {letter : Letter} {symbol : Symbol}
    (found : alphabet.find letter = .ok symbol) :
    alphabet.isBarren letter = (symbol.expands && symbol.table.isEmpty) := by
  rw [isBarren, found]

/-- The number of values that a pass takes for a list of letters. -/
def demand (letters : List Letter) : Nat :=
  letters.countP alphabet.expandsAt

@[simp]
theorem demand_nil : alphabet.demand [] = 0 :=
  rfl

theorem demand_append (first second : List Letter) :
    alphabet.demand (first ++ second) =
      alphabet.demand first + alphabet.demand second :=
  List.countP_append

theorem demand_cons (letter : Letter) (rest : List Letter) :
    alphabet.demand (letter :: rest) =
      alphabet.demand [letter] + alphabet.demand rest :=
  alphabet.demand_append [letter] rest

/-- What a pass puts in the place of a letter that is given a value. -/
inductive Becomes (letter : Letter) (value : Float) : List Letter → Prop where
  | kept {symbol : Symbol} (found : alphabet.find letter = .ok symbol)
      (rests : symbol.fixed = true ∨ symbol.rules = []) :
      Becomes letter value [letter]
  | replaced {symbol : Symbol} {index : Nat} {rule : Rule}
      (found : alphabet.find letter = .ok symbol)
      (unfixed : symbol.fixed = false)
      (chosen : symbol.table.select value = some index)
      (ruleFound : symbol.rules[index]? = some rule) :
      Becomes letter value rule.replacement

variable {alphabet} in
/-- A letter without rules stays. -/
theorem Becomes.eq_singleton {letter : Letter} {value : Float} {part : List Letter}
    {symbol : Symbol} (becomes : alphabet.Becomes letter value part)
    (found : alphabet.find letter = .ok symbol) (bare : symbol.rules = []) :
    part = [letter] := by
  cases becomes with
  | kept _ _ => rfl
  | replaced again _ _ ruleFound =>
      rw [found, Except.ok.injEq] at again
      subst again
      simp [bare] at ruleFound

end Alphabet

/-! ## One letter -/

theorem Symbol.expands_iff (symbol : Symbol) :
    symbol.expands = true ↔ symbol.fixed = false ∧ symbol.rules ≠ [] := by
  simp [expands]

namespace Alphabet

theorem runFrom_expand {alphabet : Alphabet} {letter : Letter} {symbol : Symbol}
    (found : alphabet.find letter = .ok symbol) (stream : DrawStream Float) :
    runFrom stream (alphabet.expand letter) =
      if symbol.expands then (symbol.choose stream.value, stream.advance)
      else (.ok [letter], stream) := by
  rw [expand, runFrom_bind, found, Drawn.runFrom_ofExcept]
  by_cases expands : symbol.expands <;> simp [expands, runFrom_bind]

/-- A letter that has weights or does not expand becomes something, and takes a
value exactly if it expands. -/
theorem exists_becomes_of_not_barren {alphabet : Alphabet}
    (fits : alphabet.TablesFit) {letter : Letter}
    (defined : alphabet.contains letter = true)
    (fertile : alphabet.isBarren letter = false) (stream : DrawStream Float) :
    ∃ part, alphabet.Becomes letter stream.value part ∧
      runFrom stream (alphabet.expand letter) =
        (.ok part, stream.after (alphabet.demand [letter])) := by
  obtain ⟨symbol, found⟩ := exists_find_of_contains defined
  rw [runFrom_expand found]
  cases expands : symbol.expands with
  | false =>
      refine ⟨[letter], .kept found ?_, ?_⟩
      · cases fixed : symbol.fixed with
        | false => simpa [Symbol.expands, fixed] using expands
        | true => exact Or.inl rfl
      · simp [demand, expandsAt, found, expands]
  | true =>
      have weighted : symbol.table ≠ ShareTable.empty := by
        intro bare
        simp [isBarren, found, expands, bare, ShareTable.empty,
          ShareTable.isEmpty] at fertile
      obtain ⟨unfixed, _⟩ := symbol.expands_iff.mp expands
      cases chosen : symbol.table.select stream.value with
      | none =>
          have bare := (ShareTable.select_eq_none_iff _ _).mp chosen
          contradiction
      | some index =>
          obtain ⟨rule, ruleFound⟩ := Symbol.exists_rule_of_select (fits found)
            chosen
          refine ⟨rule.replacement, .replaced found unfixed chosen ruleFound, ?_⟩
          simp [Symbol.choose, chosen, ruleFound, demand, expandsAt, found,
            expands]

/-- A barren letter takes its value before it fails. -/
theorem exists_runFrom_expand_of_barren {alphabet : Alphabet} {letter : Letter}
    (barren : alphabet.isBarren letter = true) (stream : DrawStream Float) :
    ∃ symbol, alphabet.find letter = .ok symbol ∧
      runFrom stream (alphabet.expand letter) =
        (.error (.weightlessRules symbol.name),
          stream.after (alphabet.demand [letter])) := by
  unfold isBarren at barren
  cases found : alphabet.find letter with
  | error error => simp [found] at barren
  | ok symbol =>
      simp only [found, Bool.and_eq_true] at barren
      rcases barren with ⟨expands, bare⟩
      have unchosen : symbol.table.select stream.value = none := by
        rw [ShareTable.select_eq_none_iff]
        rcases tableShape : symbol.table with ⟨entries⟩
        simp_all [ShareTable.isEmpty, ShareTable.empty]
      refine ⟨symbol, rfl, ?_⟩
      rw [runFrom_expand found]
      simp [Symbol.choose, unchosen, demand, expandsAt, found, expands]

/-! ## One sentence -/

/-- The parts are what the letters of a sentence become, if each letter is given
the value that the stream hands out after those for the letters before it. -/
def PassesInto (alphabet : Alphabet) (stream : DrawStream Float)
    (sentence : List Letter) (parts : List (List Letter)) : Prop :=
  parts.length = sentence.length ∧
    ∀ place letter part, sentence[place]? = some letter →
      parts[place]? = some part →
        alphabet.Becomes letter
          (stream.after (alphabet.demand (sentence.take place))).value part

theorem passesInto_nil (alphabet : Alphabet) (stream : DrawStream Float) :
    alphabet.PassesInto stream [] [] := by
  constructor
  · rfl
  · intro place letter part letterAt
    simp at letterAt

theorem PassesInto.cons {alphabet : Alphabet} {stream : DrawStream Float}
    {letter : Letter} {rest : List Letter} {part : List Letter}
    {parts : List (List Letter)}
    (becomes : alphabet.Becomes letter stream.value part)
    (passes : alphabet.PassesInto (stream.after (alphabet.demand [letter])) rest
      parts) :
    alphabet.PassesInto stream (letter :: rest) (part :: parts) := by
  rcases passes with ⟨lengths, becomeEach⟩
  constructor
  · simp [lengths]
  · intro place other otherPart letterAt partAt
    cases place with
    | zero =>
        simp only [List.getElem?_cons_zero, Option.some.injEq] at letterAt partAt
        subst letterAt partAt
        simpa using becomes
    | succ place =>
        simp only [List.getElem?_cons_succ] at letterAt partAt
        have becomesThere := becomeEach place other otherPart letterAt partAt
        rw [DrawStream.after_after, ← demand_cons] at becomesThere
        exact becomesThere

/-- Every letter becomes something, whatever the values are that the letters
before it take. -/
theorem PassesInto.forall₂ {alphabet : Alphabet} {stream : DrawStream Float}
    {sentence : List Letter} {parts : List (List Letter)}
    (passes : alphabet.PassesInto stream sentence parts) :
    List.Forall₂
      (fun letter part =>
        ∃ count, alphabet.Becomes letter (stream.after count).value part)
      sentence parts := by
  rcases passes with ⟨lengths, becomeEach⟩
  rw [List.forall₂_iff_get]
  refine ⟨lengths.symm, ?_⟩
  intro place inSentence inParts
  exact ⟨_, becomeEach place _ _ (List.getElem?_eq_getElem inSentence)
    (List.getElem?_eq_getElem inParts)⟩

/-- A pass collects what the letters become, from the first to the last. -/
theorem derive_eq (alphabet : Alphabet) (sentence : List Letter) :
    alphabet.derive sentence =
      List.flatten <$> sentence.mapM alphabet.expand := by
  have collected := toList_foldlM_append alphabet.expand sentence #[]
  simp only [List.nil_append] at collected
  exact collected

/-- Without barren letters every letter becomes something. -/
theorem exists_passesInto_of_no_barren {alphabet : Alphabet}
    (fits : alphabet.TablesFit) {sentence : List Letter}
    (defined : ∀ letter ∈ sentence, alphabet.contains letter = true)
    (fertile : ∀ letter ∈ sentence, alphabet.isBarren letter = false)
    (stream : DrawStream Float) :
    ∃ parts, alphabet.PassesInto stream sentence parts ∧
      runFrom stream (sentence.mapM alphabet.expand) =
        (.ok parts, stream.after (alphabet.demand sentence)) := by
  induction sentence generalizing stream with
  | nil => exact ⟨[], alphabet.passesInto_nil stream, rfl⟩
  | cons letter rest ih =>
      rw [List.forall_mem_cons] at defined fertile
      obtain ⟨part, becomes, letterRun⟩ :=
        exists_becomes_of_not_barren fits defined.1 fertile.1 stream
      obtain ⟨parts, passes, restRun⟩ := ih defined.2 fertile.2
        (stream.after (alphabet.demand [letter]))
      refine ⟨part :: parts, passes.cons becomes, ?_⟩
      rw [List.mapM_cons, runFrom_bind_of_ok letterRun,
        runFrom_bind_of_ok restRun, DrawStream.after_after, ← demand_cons]
      rfl

/-- The first barren letter ends the pass. -/
theorem exists_runFrom_derive_of_barren {alphabet : Alphabet}
    (fits : alphabet.TablesFit) {before rest : List Letter} {letter : Letter}
    (defined : ∀ earlier ∈ before, alphabet.contains earlier = true)
    (fertile : ∀ earlier ∈ before, alphabet.isBarren earlier = false)
    (barren : alphabet.isBarren letter = true) (stream : DrawStream Float) :
    ∃ symbol, alphabet.find letter = .ok symbol ∧
      runFrom stream (alphabet.derive (before ++ letter :: rest)) =
        (.error (.weightlessRules symbol.name),
          stream.after (alphabet.demand (before ++ [letter]))) := by
  obtain ⟨parts, _, beforeRun⟩ :=
    exists_passesInto_of_no_barren fits defined fertile stream
  obtain ⟨symbol, found, letterRun⟩ := exists_runFrom_expand_of_barren barren
    (stream.after (alphabet.demand before))
  refine ⟨symbol, found, ?_⟩
  rw [derive_eq, runFrom_map, List.mapM_append, List.mapM_cons,
    runFrom_bind_of_ok beforeRun]
  rw [runFrom_bind, runFrom_bind_of_error letterRun, DrawStream.after_after,
    ← demand_append]
  rfl

/-- A sentence without a barren letter passes, and any other has a first barren
letter. -/
theorem no_barren_or_first (alphabet : Alphabet) (sentence : List Letter) :
    (∀ letter ∈ sentence, alphabet.isBarren letter = false) ∨
      ∃ before letter rest, sentence = before ++ letter :: rest ∧
        (∀ earlier ∈ before, alphabet.isBarren earlier = false) ∧
          alphabet.isBarren letter = true := by
  cases firstBarren : sentence.find? alphabet.isBarren with
  | none =>
      left
      intro letter inside
      simpa using List.find?_eq_none.mp firstBarren letter inside
  | some letter =>
      right
      obtain ⟨barren, before, rest, splits, fertile⟩ :=
        List.find?_eq_some_iff_append.mp firstBarren
      exact ⟨before, letter, rest, splits, by simpa using fertile, barren⟩

end Alphabet

/-! ## Sessions -/

/-- The session with another alphabet. -/
def Session.withAlphabet (session : Session) (alphabet : Alphabet) : Session :=
  { session with
    derivation := { session.derivation with alphabet := alphabet } }

namespace Step

theorem runFrom_edit {α : Type} (session : Session) (change : Edit α) :
    runFrom session (edit change) =
      ((runFrom session.derivation.alphabet change).1,
        session.withAlphabet (runFrom session.derivation.alphabet change).2) :=
  rfl

/-- A pass of a session goes over its sentence, which stays as it was if the
pass fails. -/
theorem runFrom_derive (session : Session) :
    runFrom session derive =
      match runFrom session.stream
          (session.derivation.alphabet.derive session.derivation.sentence) with
      | (.ok sentence, stream) =>
          (.ok (),
            { session with
              derivation := { session.derivation with sentence := sentence }
              stream := stream })
      | (.error error, stream) =>
          (.error error, { session with stream := stream }) := by
  rw [derive, runFrom_bind, runFrom_get]
  rcases passRun : runFrom session.stream
      (session.derivation.alphabet.derive session.derivation.sentence) with
    ⟨error | sentence, stream⟩ <;>
  · unfold runFrom at passRun
    simp only [passRun, changeStream, changeDerivation, runFrom_bind,
      runFrom_modify, runFrom_throw]

/-- Without barren letters a pass exchanges the sentence. -/
theorem exists_runFrom_derive_of_no_barren {session : Session}
    (fits : session.derivation.alphabet.TablesFit)
    (defined : ∀ letter ∈ session.derivation.sentence,
      session.derivation.alphabet.contains letter = true)
    (fertile : ∀ letter ∈ session.derivation.sentence,
      session.derivation.alphabet.isBarren letter = false) :
    ∃ parts,
      session.derivation.alphabet.PassesInto session.stream
        session.derivation.sentence parts ∧
      runFrom session derive = (.ok (),
        { session with
          derivation := { session.derivation with sentence := parts.flatten }
          stream := session.stream.after
            (session.derivation.alphabet.demand
              session.derivation.sentence) }) := by
  obtain ⟨parts, passes, partsRun⟩ :=
    Alphabet.exists_passesInto_of_no_barren fits defined fertile session.stream
  refine ⟨parts, passes, ?_⟩
  rw [runFrom_derive, Alphabet.derive_eq, runFrom_map, partsRun]
  rfl

/-- The first barren letter ends a pass, which leaves the sentence. -/
theorem exists_runFrom_derive_of_barren {session : Session}
    (fits : session.derivation.alphabet.TablesFit)
    (defined : ∀ letter ∈ session.derivation.sentence,
      session.derivation.alphabet.contains letter = true)
    {before rest : List Letter} {letter : Letter}
    (splits : session.derivation.sentence = before ++ letter :: rest)
    (fertile : ∀ earlier ∈ before,
      session.derivation.alphabet.isBarren earlier = false)
    (barren : session.derivation.alphabet.isBarren letter = true) :
    ∃ symbol, session.derivation.alphabet.find letter = .ok symbol ∧
      runFrom session derive = (.error (.weightlessRules symbol.name),
        { session with
          stream := session.stream.after
            (session.derivation.alphabet.demand (before ++ [letter])) }) := by
  have definedBefore : ∀ earlier ∈ before,
      session.derivation.alphabet.contains earlier = true := by
    intro earlier inside
    apply defined earlier
    rw [splits]
    exact List.mem_append_left _ inside
  obtain ⟨symbol, found, sentenceRun⟩ :=
    Alphabet.exists_runFrom_derive_of_barren fits definedBefore fertile barren
      session.stream
  exact ⟨symbol, found, by rw [runFrom_derive, splits, sentenceRun]⟩

/-- A pass that fails changes nothing of the derivation. -/
theorem derivation_of_derive_eq_error {session final : Session}
    {error : GrowthError}
    (failed : runFrom session derive = (.error error, final)) :
    final.derivation = session.derivation := by
  rw [runFrom_derive] at failed
  split at failed
  · cases failed
  · cases failed
    rfl

/-- Passes fail in the first pass that fails. -/
theorem runFrom_deriveTimes_eq_error {passes : Nat} {session final : Session}
    {error : GrowthError}
    (failed : runFrom session (deriveTimes passes) = (.error error, final)) :
    ∃ done < passes, ∃ reached,
      runFrom session (deriveTimes done) = (.ok (), reached) ∧
        runFrom reached derive = (.error error, final) := by
  induction passes generalizing session with
  | zero => simp [deriveTimes] at failed
  | succ passes ih =>
      rw [deriveTimes, runFrom_bind_eq_error_iff] at failed
      rcases failed with failed | ⟨_, next, first, failed⟩
      · exact ⟨0, by omega, session, rfl, failed⟩
      · obtain ⟨done, few, reached, run, failed⟩ := ih failed
        refine ⟨done + 1, by omega, reached, ?_, failed⟩
        rw [deriveTimes, runFrom_bind_of_ok first]
        exact run

/-- A pass of a session in deterministic mode.  Each letter that expands is
given the hash of the cursor moved on by the number of such letters before it,
and the random stream moves on by the number of them all.  The pass fails exactly
at the first letter that expands and has no weights, and then leaves the
sentence.  Passes that fail leave the sentence of the passes before. -/
theorem derive_spends_values_in_order (session : Session)
    (reachable : session.derivation.alphabet.Reachable)
    (defined : ∀ letter ∈ session.derivation.sentence,
      session.derivation.alphabet.contains letter = true)
    (deterministic : session.stream.mode = .deterministic) :
    let alphabet := session.derivation.alphabet
    let sentence := session.derivation.sentence
    let spend := fun count : Nat =>
      { session.stream with
        cursor := session.stream.cursor + Int64.ofNat count
        drawn := session.stream.drawn + count }
    (∀ final, runFrom session derive = (.ok (), final) →
      ∃ parts : List (List Letter), parts.length = sentence.length ∧
        (∀ place letter part, sentence[place]? = some letter →
          parts[place]? = some part →
            alphabet.Becomes letter
              (sineHash (session.stream.cursor
                + Int64.ofNat (alphabet.demand (sentence.take place))).toInt)
              part) ∧
        final =
          { session with
            derivation :=
              { session.derivation with sentence := parts.flatten }
            stream := spend (alphabet.demand sentence) }) ∧
    ((∃ error final, runFrom session derive = (.error error, final)) ↔
      ∃ letter ∈ sentence, alphabet.isBarren letter = true) ∧
    (∀ error final, runFrom session derive = (.error error, final) →
      ∃ before letter rest symbol, sentence = before ++ letter :: rest ∧
        (∀ earlier ∈ before, alphabet.isBarren earlier = false) ∧
        alphabet.isBarren letter = true ∧
        alphabet.find letter = .ok symbol ∧
        error = .weightlessRules symbol.name ∧
        final =
          { session with
            stream := spend (alphabet.demand (before ++ [letter])) }) ∧
    (∀ passes error final,
      runFrom session (deriveTimes passes) = (.error error, final) →
        ∃ done < passes, ∃ reached,
          runFrom session (deriveTimes done) = (.ok (), reached) ∧
          runFrom reached derive = (.error error, final) ∧
          final.derivation = reached.derivation) := by
  intro alphabet sentence spend
  have fits := reachable.tablesFit
  have spent : ∀ count, session.stream.after count = spend count :=
    DrawStream.after_of_deterministic deterministic
  have failing : ∀ passes error final,
      runFrom session (deriveTimes passes) = (.error error, final) →
        ∃ done < passes, ∃ reached,
          runFrom session (deriveTimes done) = (.ok (), reached) ∧
          runFrom reached derive = (.error error, final) ∧
          final.derivation = reached.derivation := by
    intro passes error final failed
    obtain ⟨done, few, reached, run, failed⟩ :=
      runFrom_deriveTimes_eq_error failed
    exact ⟨done, few, reached, run, failed, derivation_of_derive_eq_error failed⟩
  rcases alphabet.no_barren_or_first sentence with
    fertile | ⟨before, letter, rest, splits, fertile, barren⟩
  · obtain ⟨parts, ⟨lengths, becomeEach⟩, passRun⟩ :=
      exists_runFrom_derive_of_no_barren fits defined fertile
    rw [spent] at passRun
    refine ⟨?_, ?_, ?_, failing⟩
    · intro final run
      rw [passRun, Prod.mk.injEq] at run
      refine ⟨parts, lengths, ?_, run.2.symm⟩
      intro place letter part letterAt partAt
      have becomes := becomeEach place letter part letterAt partAt
      rwa [DrawStream.value_after_of_deterministic deterministic] at becomes
    · constructor
      · rintro ⟨error, final, run⟩
        rw [passRun] at run
        cases run
      · rintro ⟨letter, inside, barren⟩
        rw [fertile letter inside] at barren
        contradiction
    · intro error final run
      rw [passRun] at run
      cases run
  · obtain ⟨symbol, found, passRun⟩ :=
      exists_runFrom_derive_of_barren fits defined splits fertile barren
    rw [spent] at passRun
    refine ⟨?_, ?_, ?_, failing⟩
    · intro final run
      rw [passRun] at run
      cases run
    · constructor
      · intro
        exact ⟨letter, by simp [splits], barren⟩
      · intro
        exact ⟨_, _, passRun⟩
    · intro error final run
      rw [passRun] at run
      cases run
      exact ⟨before, letter, rest, symbol, splits, fertile, barren, found, rfl,
        rfl⟩

/-- Of two letters that expand and stand apart, the first is given the hash of the
seed and the second that of the next integer.  A pass that comes to a letter without
weights has taken two values by then and leaves the sentence. -/
theorem derive_of_letters_apart :
    let alphabet := Alphabet.empty.afterAll
      [.defineBare "A", .defineBare "B", .defineBare "C",
        .setRules 0 [⟨1.0, [0, 1]⟩, ⟨1.0, []⟩], .setRules 2 [⟨0.0, [2]⟩]]
    let session : List Letter → Session := fun sentence =>
      { derivation :=
          { Derivation.ofAlphabet alphabet Settings.standard with
            sentence := sentence }
        stream := DrawStream.start (fun _ => 0.5) .deterministic 7
        notes := #[] }
    alphabet.Reachable ∧
      (∃ first last final,
        runFrom (session [0, 1, 0]) derive = (.ok (), final) ∧
        alphabet.Becomes 0 (sineHash 7) first ∧
        alphabet.Becomes 0 (sineHash 8) last ∧
        final.derivation.sentence = first ++ 1 :: last ∧
        final.stream.cursor = 9 ∧ final.stream.drawn = 2) ∧
      ∃ final, runFrom (session [0, 1, 2, 0]) derive =
          (.error (.weightlessRules "C"), final) ∧
        final.derivation.sentence = [0, 1, 2, 0] ∧
        final.stream.cursor = 9 ∧ final.stream.drawn = 2 := by
  intro alphabet session
  have holds : alphabet.Holds _ :=
    ((((Alphabet.Holds.empty.after_defineBare (by decide)).after_defineBare
      (by decide)).after_defineBare (by decide)).after_setRules rfl
        (by decide +kernel) (by decide +kernel)).after_setRules rfl
          (by decide +kernel) (by decide +kernel)
  have doubled : alphabet.find 0 = .ok _ := holds.find_eq rfl
  have plain : alphabet.find 1 = .ok _ := holds.find_eq rfl
  have weightless : alphabet.find 2 = .ok _ := holds.find_eq rfl
  have barren : alphabet.isBarren 0 = false ∧ alphabet.isBarren 1 = false ∧
      alphabet.isBarren 2 = true := by
    rw [Alphabet.isBarren_eq doubled, Alphabet.isBarren_eq plain,
      Alphabet.isBarren_eq weightless]
    decide +kernel
  have takes : alphabet.expandsAt 0 = true ∧ alphabet.expandsAt 1 = false ∧
      alphabet.expandsAt 2 = true := by
    rw [Alphabet.expandsAt_eq doubled, Alphabet.expandsAt_eq plain,
      Alphabet.expandsAt_eq weightless]
    exact ⟨rfl, rfl, rfl⟩
  have demands : alphabet.demand [0, 1] = 1 ∧ alphabet.demand [0, 1, 0] = 2 ∧
      alphabet.demand [0, 1, 2] = 2 := by
    simp [Alphabet.demand, takes]
  have defined : alphabet.contains 0 = true ∧ alphabet.contains 1 = true ∧
      alphabet.contains 2 = true :=
    ⟨Alphabet.contains_of_find doubled, Alphabet.contains_of_find plain,
      Alphabet.contains_of_find weightless⟩
  have ends : (7 : Int64) + Int64.ofNat 2 = 9 := rfl
  refine ⟨holds.reachable, ?_, ?_⟩
  · have definedAll : ∀ letter ∈ [0, 1, 0], alphabet.contains letter = true := by
      simp [defined]
    have fertile : ∀ letter ∈ [0, 1, 0], alphabet.isBarren letter = false := by
      simp [barren]
    obtain ⟨passes, fails, -, -⟩ := derive_spends_values_in_order
      (session [0, 1, 0]) holds.reachable definedAll rfl
    rcases run : runFrom (session [0, 1, 0]) derive with ⟨error | value, final⟩
    · obtain ⟨letter, inside, isBarren⟩ := fails.mp ⟨error, final, run⟩
      exact absurd ((fertile letter inside).symm.trans isBarren) Bool.false_ne_true
    · obtain ⟨parts, lengths, becomes, rfl⟩ := passes final run
      obtain ⟨first, middle, last, rfl⟩ := List.length_eq_three.mp lengths
      have kept : middle = [1] := (becomes 1 1 middle rfl rfl).eq_singleton plain rfl
      have becomesLast := becomes 2 0 last rfl rfl
      change alphabet.Becomes 0
        (sineHash (7 + Int64.ofNat (alphabet.demand [0, 1])).toInt) last at becomesLast
      rw [demands.1] at becomesLast
      refine ⟨first, last, _, rfl, becomes 0 0 first rfl rfl, becomesLast, ?_, ?_, ?_⟩
      · simp [kept]
      · exact (congrArg (fun count => 7 + Int64.ofNat count) demands.2.1).trans ends
      · exact (Nat.zero_add _).trans demands.2.1
  · have definedAll : ∀ letter ∈ [0, 1, 2, 0], alphabet.contains letter = true := by
      simp [defined]
    obtain ⟨-, fails, failing, -⟩ := derive_spends_values_in_order
      (session [0, 1, 2, 0]) holds.reachable definedAll rfl
    obtain ⟨error, final, run⟩ := fails.mpr ⟨2, by simp [session], barren.2.2⟩
    obtain ⟨before, letter, rest, symbol, splits, fertile, isBarren, symbolFound,
      rfl, rfl⟩ := failing error final run
    change [0, 1, 2, 0] = before ++ letter :: rest at splits
    change ∀ earlier ∈ before, alphabet.isBarren earlier = false at fertile
    change alphabet.isBarren letter = true at isBarren
    change alphabet.find letter = .ok symbol at symbolFound
    -- The letters that can be replaced end where the first other one stands.
    have beforeIs : before = [0, 1] := by
      have passed := congrArg (List.takeWhile fun other => !alphabet.isBarren other)
        splits
      rw [List.takeWhile_append_of_pos (by simpa using fertile)] at passed
      simpa [barren, isBarren] using passed.symm
    subst beforeIs
    obtain ⟨rfl, -⟩ : 2 = letter ∧ [0] = rest := by simpa using splits
    cases symbolFound.symm.trans weightless
    refine ⟨_, run, rfl, ?_, ?_⟩
    · exact (congrArg (fun count => 7 + Int64.ofNat count) demands.2.2).trans ends
    · exact (Nat.zero_add _).trans demands.2.2

end Step

end GrowthGrammar
