import GrowthGrammar.Proofs.Alphabet.Closure
import GrowthGrammar.Proofs.Alphabet.Construction
import GrowthGrammar.Proofs.Derivation.Pass

/-!
# Derivations without choice

If every symbol that has rules has one rule only, the random values decide nothing: a
pass puts one word in the place of each letter, whatever the values are.  So a number of
passes is a map of sentences that respects their joining, and what becomes of a sentence
is joined from what becomes of its letters one by one.
-/

namespace GrowthGrammar

/-- A table with one entry selects it for every draw. -/
theorem ShareTable.select_of_single {D : Type} [Scalar D] {table : ShareTable D}
    (single : table.entries.length = 1) (draw : D) : table.select draw = some 0 := by
  cases chosen : table.select draw with
  | none =>
      rw [select_eq_none_iff] at chosen
      simp [chosen, ShareTable.empty] at single
  | some index =>
      have inside := lt_of_select chosen
      rw [single, Nat.lt_one_iff] at inside
      rw [inside]

namespace Alphabet

/-- Whether no symbol leaves a choice: each one that has rules has a single rule, and a
table by which it can be chosen. -/
def IsChoiceless (alphabet : Alphabet) : Prop :=
  ∀ ⦃letter symbol⦄, alphabet.find letter = .ok symbol → symbol.rules ≠ [] →
    ∃ rule, symbol.rules = [rule] ∧ symbol.table.isEmpty = false

variable (alphabet : Alphabet)

/-- What stands in the place of a letter after a pass that has no choice. -/
def successor (letter : Letter) : List Letter :=
  match alphabet.find letter with
  | .ok symbol =>
      if symbol.expands then symbol.rules.flatMap Rule.replacement else [letter]
  | .error _ => [letter]

/-- What a sentence becomes in a number of passes that have no choice. -/
def offspring : Nat → List Letter → List Letter
  | 0, sentence => sentence
  | passes + 1, sentence => offspring passes (sentence.flatMap alphabet.successor)

/-- How many values these passes take. -/
def demandTimes : Nat → List Letter → Nat
  | 0, _ => 0
  | passes + 1, sentence =>
      alphabet.demand sentence +
        demandTimes passes (sentence.flatMap alphabet.successor)

@[simp]
theorem offspring_nil (passes : Nat) : alphabet.offspring passes [] = [] := by
  induction passes with
  | zero => rfl
  | succ passes ih => exact ih

theorem offspring_append (passes : Nat) (first second : List Letter) :
    alphabet.offspring passes (first ++ second) =
      alphabet.offspring passes first ++ alphabet.offspring passes second := by
  induction passes generalizing first second with
  | zero => rfl
  | succ passes ih => rw [offspring, List.flatMap_append, ih, offspring, offspring]

/-- Single letters determine what becomes of sentences. -/
theorem offspring_eq_flatMap (passes : Nat) (sentence : List Letter) :
    alphabet.offspring passes sentence =
      sentence.flatMap fun letter => alphabet.offspring passes [letter] := by
  induction sentence with
  | nil => exact alphabet.offspring_nil passes
  | cons letter rest ih =>
      rw [List.flatMap_cons, ← ih]
      exact alphabet.offspring_append passes [letter] rest

/-! ## One pass -/

namespace IsChoiceless

variable {alphabet : Alphabet} (choiceless : alphabet.IsChoiceless)

include choiceless

theorem isBarren_eq_false (letter : Letter) : alphabet.isBarren letter = false := by
  rw [isBarren]
  cases found : alphabet.find letter with
  | error error => rfl
  | ok symbol =>
      cases expands : symbol.expands with
      | false => simp [expands]
      | true =>
          obtain ⟨_, ruled⟩ := symbol.expands_iff.mp expands
          obtain ⟨_, _, tabled⟩ := choiceless found ruled
          simp [tabled]

/-- Whatever value a letter is given, it becomes its only successor. -/
theorem eq_successor (fits : alphabet.TablesFit) {letter : Letter} {value : Float}
    {part : List Letter} (becomes : alphabet.Becomes letter value part) :
    part = alphabet.successor letter := by
  cases becomes with
  | @kept symbol found rests =>
      have stays : symbol.expands = false := by
        rcases rests with fixed | bare
        · simp [Symbol.expands, fixed]
        · simp [Symbol.expands, bare]
      simp [successor, found, stays]
  | @replaced symbol index rule found unfixed chosen ruleFound =>
      have ruled : symbol.rules ≠ [] := by
        intro bare
        simp [bare] at ruleFound
      obtain ⟨only, rules, tabled⟩ := choiceless found ruled
      have single : symbol.table.entries.length = 1 := by
        rcases fits found with bare | fit
        · rw [bare] at tabled
          contradiction
        · rw [fit, rules]
          rfl
      rw [ShareTable.select_of_single single, Option.some.injEq] at chosen
      rw [rules, ← chosen, List.getElem?_cons_zero, Option.some.injEq] at ruleFound
      have expands : symbol.expands = true := symbol.expands_iff.mpr ⟨unfixed, ruled⟩
      simp [successor, found, expands, rules, ruleFound]

end IsChoiceless

theorem Defines.flatMap_successor {alphabet : Alphabet} (closed : alphabet.Closed)
    {letters : List Letter} (defines : alphabet.Defines letters) :
    alphabet.Defines (letters.flatMap alphabet.successor) := by
  intro other listed
  obtain ⟨letter, isLetter, isPart⟩ := List.mem_flatMap.mp listed
  obtain ⟨symbol, found⟩ := exists_find_of_contains (defines letter isLetter)
  simp only [successor, found] at isPart
  split at isPart
  · obtain ⟨rule, isRule, inReplacement⟩ := List.mem_flatMap.mp isPart
    exact closed found rule isRule other inReplacement
  · rw [List.mem_singleton.mp isPart]
    exact defines letter isLetter

end Alphabet

/-! ## Sessions -/

namespace Step

/-- A pass without choice puts the successors in the place of the letters. -/
theorem runFrom_derive_of_choiceless {session : Session}
    (fits : session.derivation.alphabet.TablesFit)
    (choiceless : session.derivation.alphabet.IsChoiceless)
    (defines : session.derivation.alphabet.Defines session.derivation.sentence) :
    runFrom session derive = (.ok (),
      { session with
        derivation :=
          { session.derivation with
            sentence := session.derivation.sentence.flatMap
              session.derivation.alphabet.successor }
        stream := session.stream.after
          (session.derivation.alphabet.demand session.derivation.sentence) }) := by
  obtain ⟨parts, passes, run⟩ := exists_runFrom_derive_of_no_barren fits defines
    fun letter _ => choiceless.isBarren_eq_false letter
  have successors : List.Forall₂
      (fun letter part => session.derivation.alphabet.successor letter = part)
      session.derivation.sentence parts :=
    passes.forall₂.imp fun _ _ ⟨_, becomes⟩ =>
      (choiceless.eq_successor fits becomes).symm
  rw [← List.forall₂_map_left_iff, List.forall₂_eq_eq_eq] at successors
  rw [run, ← successors, ← List.flatMap_def]

/-- Passes without choice succeed, and change the sentence into its offspring. -/
theorem runFrom_deriveTimes_of_choiceless {alphabet : Alphabet}
    (reachable : alphabet.Reachable) (choiceless : alphabet.IsChoiceless) (passes : Nat)
    {session : Session} (owned : session.derivation.alphabet = alphabet)
    (defines : alphabet.Defines session.derivation.sentence) :
    runFrom session (deriveTimes passes) = (.ok (),
      { session with
        derivation :=
          { session.derivation with
            sentence := alphabet.offspring passes session.derivation.sentence }
        stream := session.stream.after
          (alphabet.demandTimes passes session.derivation.sentence) }) := by
  induction passes generalizing session with
  | zero => rfl
  | succ passes ih =>
      subst owned
      have first := runFrom_derive_of_choiceless reachable.tablesFit choiceless defines
      have others := @ih (runFrom session derive).2 (by rw [first])
        (by rw [first]; exact defines.flatMap_successor reachable.closed)
      rw [first] at others
      simp only [DrawStream.after_after] at others
      rw [deriveTimes, runFrom_bind_of_ok first]
      exact others

/-- Over an alphabet without choice passes always succeed, and the random stream has no
part in what they give.  Passes over joined sentences give what the passes over each of
them give, one after the other, so that the single letters determine all of it. -/
theorem passes_without_choice_respect_joining {alphabet : Alphabet}
    (reachable : alphabet.Reachable) (choiceless : alphabet.IsChoiceless)
    (passes : Nat) :
    (∀ session : Session, session.derivation.alphabet = alphabet →
      alphabet.Defines session.derivation.sentence →
        ∃ stream, runFrom session (deriveTimes passes) = (.ok (),
          { session with
            derivation :=
              { session.derivation with
                sentence := alphabet.offspring passes session.derivation.sentence }
            stream := stream })) ∧
    alphabet.offspring passes [] = [] ∧
    (∀ first second, alphabet.offspring passes (first ++ second) =
      alphabet.offspring passes first ++ alphabet.offspring passes second) ∧
    ∀ sentence, alphabet.offspring passes sentence =
      sentence.flatMap fun letter => alphabet.offspring passes [letter] := by
  refine ⟨?_, alphabet.offspring_nil passes, alphabet.offspring_append passes,
    alphabet.offspring_eq_flatMap passes⟩
  intro session owned defines
  exact ⟨_, runFrom_deriveTimes_of_choiceless reachable choiceless passes owned defines⟩

/-- One letter becomes itself and another, which becomes the first: the sentence grows as
the numbers of Fibonacci do, whatever the random stream is. -/
theorem fibonacci_sentence_grows :
    ∃ alphabet : Alphabet, alphabet.Reachable ∧ alphabet.IsChoiceless ∧
      alphabet.Defines [0] ∧
      ∀ stream : DrawStream Float,
        let session : Session :=
          { derivation :=
              { Derivation.ofAlphabet alphabet Settings.standard with sentence := [0] }
            stream := stream
            notes := #[] }
        ∃ later, runFrom session (deriveTimes 5) = (.ok (),
          { session with
            derivation :=
              { session.derivation with
                sentence := [0, 1, 0, 0, 1, 0, 1, 0, 0, 1, 0, 0, 1] }
            stream := later }) := by
  let young : Symbol :=
    { Symbol.ofAction "A" Act.skip with rules := [⟨3.0, [0, 1]⟩] }.refreshed
  let old : Symbol :=
    { Symbol.ofAction "B" Act.skip with rules := [⟨0.5, [0]⟩] }.refreshed
  have makes : Edit.Makes
      (do
        let young ← Edit.defineBare "A"
        let old ← Edit.defineBare "B"
        Edit.setRules young [⟨3.0, [young, old]⟩]
        Edit.setRules old [⟨0.5, [young]⟩])
      [] () [young, old] := by
    iterate 2 refine .bind (.define (by decide +kernel) _) ?_
    refine .bind (.setRules rfl (by decide +kernel)) ?_
    exact .setRules rfl (by decide +kernel)
  obtain ⟨alphabet, _, holds⟩ := makes .empty
  have foundYoung : alphabet.find 0 = .ok young := holds.find_eq rfl
  have foundOld : alphabet.find 1 = .ok old := holds.find_eq rfl
  have choiceless : alphabet.IsChoiceless := by
    intro letter symbol found _
    rw [holds.find_eq_ok_iff] at found
    have isEither : symbol ∈ [young, old] := List.mem_of_getElem? found
    simp only [List.mem_cons, List.not_mem_nil, or_false] at isEither
    rcases isEither with rfl | rfl
    · exact ⟨⟨3.0, [0, 1]⟩, rfl, by decide +kernel⟩
    · exact ⟨⟨0.5, [0]⟩, rfl, by decide +kernel⟩
  have defines : alphabet.Defines [0] :=
    List.forall_mem_singleton.mpr (Alphabet.contains_of_find foundYoung)
  have ofYoung : alphabet.successor 0 = [0, 1] := by
    rw [Alphabet.successor, foundYoung]
    rfl
  have ofOld : alphabet.successor 1 = [0] := by
    rw [Alphabet.successor, foundOld]
    rfl
  have grown : alphabet.offspring 5 [0] =
      [0, 1, 0, 0, 1, 0, 1, 0, 0, 1, 0, 0, 1] := by
    simp [Alphabet.offspring, ofYoung, ofOld]
  refine ⟨alphabet, holds.reachable, choiceless, defines, ?_⟩
  intro stream session
  rw [← grown]
  exact (passes_without_choice_respect_joining holds.reachable choiceless 5).1 session
    rfl defines

end Step

end GrowthGrammar
