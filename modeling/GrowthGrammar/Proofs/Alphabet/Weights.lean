import GrowthGrammar.Proofs.Alphabet.Reachable

/-!
# Weights of rules

A weight is checked before it is stored, so a host only ever sees weights that
are finite and not negative.  A weight that was read can therefore be set again.
Setting the weight of a first rule and computing the share table fails only if
the new weights leave nothing to choose, and then the new weight stays.
-/

namespace GrowthGrammar

/-- Whether a number can be the weight of a rule. -/
def IsWeight (weight : Float) : Prop :=
  weight.isFinite ∧ 0.0 ≤ weight

instance (weight : Float) : Decidable (IsWeight weight) :=
  inferInstanceAs (Decidable (_ ∧ _))

namespace Alphabet

theorem requireWeight_eq_ok_iff (alphabet : Alphabet) (letter : Letter)
    (weight : Float) :
    alphabet.requireWeight letter weight = .ok () ↔ IsWeight weight := by
  rw [requireWeight, IsWeight]
  split
  · next valid => simp [valid]
  · next invalid =>
      rw [iff_false_right invalid]
      cases alphabet.find letter <;> simp

theorem isWeight_of_requireRule {alphabet : Alphabet} {letter : Letter}
    {rule : Rule} (checked : alphabet.requireRule letter rule = .ok ()) :
    IsWeight rule.weight := by
  rw [← alphabet.requireWeight_eq_ok_iff letter]
  exact ((alphabet.requireRule_eq_ok_iff letter rule).mp checked).1

/-- Every rule has a weight that passes the check. -/
def WeightsValid (alphabet : Alphabet) : Prop :=
  ∀ ⦃letter symbol⦄, alphabet.find letter = .ok symbol →
    ∀ rule ∈ symbol.rules, IsWeight rule.weight

theorem WeightsValid.replace {alphabet : Alphabet}
    (valid : alphabet.WeightsValid) (letter : Letter) {changed : Symbol}
    (changedValid : ∀ rule ∈ changed.rules, IsWeight rule.weight) :
    (alphabet.replace letter changed).WeightsValid := by
  intro other symbol found
  rcases find_replace_eq_ok found with foundBefore | rfl
  · exact valid foundBefore
  · exact changedValid

theorem Reachable.weightsValid {alphabet : Alphabet}
    (reachable : alphabet.Reachable) : alphabet.WeightsValid := by
  apply Reachable.of_kept _ _ reachable
  · intro letter symbol found
    simp [find, Alphabet.empty] at found
  · intro before next _ valid edited
    cases edited with
    | defined untaken room =>
        intro letter symbol found
        rcases find_append_eq_ok found with foundBefore | rfl
        · exact valid foundBefore
        · simp [Symbol.ofAction]
    | ruled found checked =>
        apply valid.replace
        intro rule inside
        exact isWeight_of_requireRule ((forM_eq_ok_iff _).mp checked rule inside)
    | refreshed found =>
        have symbolValid := valid found
        exact valid.replace _ symbolValid
    | weighted found ruleFound checked =>
        apply valid.replace
        intro rule inside
        rcases List.mem_or_eq_of_mem_set inside with insideBefore | rfl
        · exact valid found rule insideBefore
        · exact (before.requireWeight_eq_ok_iff _ _).mp checked
    | marked found =>
        have symbolValid := valid found
        exact valid.replace _ symbolValid

theorem weightOf_eq_ok_iff (alphabet : Alphabet) (letter : Letter)
    (index : Nat) (weight : Float) :
    alphabet.weightOf letter index = .ok weight ↔
      ∃ symbol rule, alphabet.find letter = .ok symbol ∧
        symbol.rules[index]? = some rule ∧ rule.weight = weight := by
  rw [weightOf]
  cases alphabet.find letter with
  | error error => simp [bind, Except.bind]
  | ok symbol =>
      cases ruleFound : symbol.rules[index]? <;>
        simp [bind, Except.bind, ruleFound]

end Alphabet

/-! ## Another first weight -/

namespace Symbol

/-- The symbol with another weight for its first rule, and with the share table
of the new weights. -/
def reweighed (weight : Float) (symbol : Symbol) : Symbol :=
  { symbol with
    rules := symbol.rules.modifyHead fun rule =>
      { rule with weight := weight } }.refreshed

@[simp]
theorem rules_reweighed (weight : Float) (symbol : Symbol) :
    (symbol.reweighed weight).rules =
      symbol.rules.modifyHead fun rule => { rule with weight := weight } :=
  rfl

@[simp]
theorem reweighed_reweighed (first second : Float) (symbol : Symbol) :
    (symbol.reweighed first).reweighed second = symbol.reweighed second := by
  simp [reweighed, refreshed, freshTable, Function.comp_def]

/-- Whether something can be chosen depends on the rules alone. -/
theorem isWeightless_congr {first second : Symbol}
    (sameRules : first.rules = second.rules) :
    first.isWeightless = second.isWeightless := by
  simp [isWeightless, freshTable, sameRules]

end Symbol

namespace Edit

/-- Sets the weight of the first rule of a symbol and computes its share
table. -/
def reweigh (letter : Letter) (weight : Float) : Edit Unit := do
  setWeight letter 0 weight
  refresh letter

theorem runFrom_reweigh {alphabet : Alphabet} {letter : Letter}
    {symbol : Symbol} (found : alphabet.find letter = .ok symbol)
    (ruled : symbol.rules ≠ []) {weight : Float} (valid : IsWeight weight) :
    runFrom alphabet (reweigh letter weight) =
      (if (symbol.reweighed weight).isWeightless then
          .error (.weightlessRules symbol.name)
        else .ok (),
        alphabet.replace letter (symbol.reweighed weight)) := by
  obtain ⟨first, rest, rules⟩ := List.exists_cons_of_ne_nil ruled
  rw [reweigh, runFrom_bind, runFrom_setWeight,
    (alphabet.requireWeight_eq_ok_iff letter weight).mpr valid, found]
  simp only [rules, List.getElem?_cons_zero, List.set_cons_zero]
  rw [runFrom_refresh, Alphabet.find_replace_self found]
  simp only [Alphabet.replace_replace]
  simp [Symbol.reweighed, rules, Symbol.isWeightless, Symbol.refreshed, Symbol.freshTable]

end Edit

namespace Alphabet

theorem weightOf_reweighed {alphabet : Alphabet} {letter : Letter}
    {symbol : Symbol} (found : alphabet.find letter = .ok symbol)
    (ruled : symbol.rules ≠ []) (weight : Float) :
    (alphabet.replace letter (symbol.reweighed weight)).weightOf letter 0 =
      .ok weight := by
  obtain ⟨first, rest, rules⟩ := List.exists_cons_of_ne_nil ruled
  rw [weightOf_eq_ok_iff]
  exact ⟨symbol.reweighed weight, { first with weight := weight },
    find_replace_self found _, by simp [rules], rfl⟩

/-- A weight that is set for one letter is not lost at another. -/
theorem weightOf_reweighed_of_eq {alphabet : Alphabet} {letter other : Letter}
    {symbol : Symbol} (found : alphabet.find letter = .ok symbol)
    (ruled : symbol.rules ≠ []) {weight : Float}
    (weightIs : alphabet.weightOf other 0 = .ok weight) :
    (alphabet.replace letter (symbol.reweighed weight)).weightOf other 0 =
      .ok weight := by
  by_cases same : other = letter
  · rw [same]
    exact weightOf_reweighed found ruled weight
  · rw [weightOf, find_replace_of_ne same]
    exact weightIs

/-- Whether the first rules of some letters can be given each of some
weights. -/
def CanReweigh (alphabet : Alphabet) (letters : List Letter)
    (weights : List Float) : Prop :=
  ∀ letter ∈ letters, ∃ symbol, alphabet.find letter = .ok symbol ∧
    symbol.rules ≠ [] ∧
      ∀ weight ∈ weights, (symbol.reweighed weight).isWeightless = false

theorem CanReweigh.replace {alphabet : Alphabet} {letters : List Letter}
    {weights : List Float} (can : alphabet.CanReweigh letters weights)
    {letter : Letter} {symbol : Symbol}
    (found : alphabet.find letter = .ok symbol) (weight : Float) :
    (alphabet.replace letter (symbol.reweighed weight)).CanReweigh letters
      weights := by
  intro other inside
  obtain ⟨otherSymbol, otherFound, ruled, weighted⟩ := can other inside
  by_cases same : other = letter
  · subst same
    rw [found, Except.ok.injEq] at otherFound
    subst otherFound
    refine ⟨_, find_replace_self found _, by simpa using ruled, ?_⟩
    intro next nextInside
    rw [Symbol.reweighed_reweighed]
    exact weighted next nextInside
  · exact ⟨otherSymbol, (find_replace_of_ne same _).trans otherFound, ruled,
      weighted⟩

/-- Where the first rules can be given a weight, all of them are. -/
theorem CanReweigh.exists_reweighed {alphabet : Alphabet}
    {letters : List Letter} {weights : List Float}
    (can : alphabet.CanReweigh letters weights) {weight : Float}
    (listed : weight ∈ weights) (valid : IsWeight weight)
    {some : List Letter} (inside : ∀ letter ∈ some, letter ∈ letters) :
    ∃ next,
      runFrom alphabet (some.forM fun letter => Edit.reweigh letter weight) =
          (.ok (), next) ∧
        next.CanReweigh letters weights ∧
        (∀ letter, letter ∈ some ∨ alphabet.weightOf letter 0 = .ok weight →
          next.weightOf letter 0 = .ok weight) := by
  simp only [List.forM_eq_forM]
  induction some generalizing alphabet with
  | nil => exact ⟨alphabet, rfl, can, by simp⟩
  | cons letter rest ih =>
      rw [List.forall_mem_cons] at inside
      obtain ⟨symbol, found, ruled, weighted⟩ := can letter inside.1
      have run := Edit.runFrom_reweigh found ruled valid
      rw [weighted weight listed] at run
      obtain ⟨next, restRun, nextCan, weightsAre⟩ :=
        ih (can.replace found weight) inside.2
      refine ⟨next, ?_, nextCan, ?_⟩
      · rw [List.forM_cons, runFrom_bind_of_ok run]
        exact restRun
      · rintro other (otherInside | weightIs)
        · apply weightsAre
          rcases List.mem_cons.mp otherInside with rfl | otherInRest
          · exact Or.inr (weightOf_reweighed found ruled weight)
          · exact Or.inl otherInRest
        · exact weightsAre other
            (Or.inr (weightOf_reweighed_of_eq found ruled weightIs))

end Alphabet

end GrowthGrammar
