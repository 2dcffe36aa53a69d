import GrowthGrammar.Proofs.Alphabet.Naming
import GrowthGrammar.Proofs.Alphabet.Weights

/-!
# Alphabets built step by step

What an edit does depends on the symbols of the alphabet and on nothing else of
it.  So a sequence of edits can be followed on the list of symbols alone: a
definition adds a symbol at the end, and setting rules exchanges one.  A sequence
of edits makes a list of symbols out of another if it succeeds on every reachable
alphabet with the first and leaves one with the second.
-/

namespace GrowthGrammar

/-- A reachable alphabet with a list of symbols in the order of their letters. -/
structure Alphabet.Holds (alphabet : Alphabet) (symbols : List Symbol) :
    Prop where
  reachable : alphabet.Reachable
  symbols_eq : alphabet.symbols = (symbols.map some).toArray

namespace Alphabet.Holds

variable {alphabet : Alphabet} {symbols : List Symbol}

theorem empty : Alphabet.empty.Holds [] :=
  ⟨.empty, rfl⟩

theorem size_eq (holds : alphabet.Holds symbols) :
    alphabet.size = symbols.length := by
  rw [holds.reachable.wellNamed.size_eq, holds.symbols_eq]
  simp

theorem names_eq (holds : alphabet.Holds symbols) :
    alphabet.names = symbols.map Symbol.name := by
  simp [names, listed, holds.symbols_eq]

theorem find_eq_ok_iff (holds : alphabet.Holds symbols) (letter : Letter)
    (symbol : Symbol) :
    alphabet.find letter = .ok symbol ↔ symbols[letter]? = some symbol := by
  rw [Alphabet.find_eq_ok_iff, holds.symbols_eq]
  simp

theorem find_eq (holds : alphabet.Holds symbols) {letter : Letter}
    {symbol : Symbol} (found : symbols[letter]? = some symbol) :
    alphabet.find letter = .ok symbol :=
  (holds.find_eq_ok_iff letter symbol).mpr found

end Alphabet.Holds

/-- Whether a name may be defined besides the names of a list of symbols. -/
structure Symbol.Admits (symbols : List Symbol) (name : String) : Prop where
  untaken : name ∉ symbols.map Symbol.name
  few : symbols.length < NameTable.maxNames
  short : ((symbols.map Symbol.name).map String.utf8ByteSize).sum +
    name.utf8ByteSize ≤ NameTable.maxBytes

instance (symbols : List Symbol) (name : String) :
    Decidable (Symbol.Admits symbols name) :=
  decidable_of_iff
    (name ∉ symbols.map Symbol.name ∧
      symbols.length < NameTable.maxNames ∧
      ((symbols.map Symbol.name).map String.utf8ByteSize).sum +
        name.utf8ByteSize ≤ NameTable.maxBytes)
    ⟨fun ⟨untaken, few, short⟩ => ⟨untaken, few, short⟩,
      fun ⟨untaken, few, short⟩ => ⟨untaken, few, short⟩⟩

/-- Whether rules may be set where there is a number of symbols: their weights
and replacements pass the checks, and some of them can be chosen. -/
structure Rule.Admissible (size : Nat) (rules : List Rule) : Prop where
  weights : ∀ rule ∈ rules, IsWeight rule.weight
  replacements : ∀ rule ∈ rules, ∀ letter ∈ rule.replacement, letter < size
  weighted : (ShareTable.ofWeights (rules.map Rule.weight)).isSome = true

instance (size : Nat) (rules : List Rule) :
    Decidable (Rule.Admissible size rules) :=
  decidable_of_iff
    ((∀ rule ∈ rules, IsWeight rule.weight) ∧
      (∀ rule ∈ rules, ∀ letter ∈ rule.replacement, letter < size) ∧
      (ShareTable.ofWeights (rules.map Rule.weight)).isSome = true)
    ⟨fun ⟨weights, replacements, weighted⟩ => ⟨weights, replacements, weighted⟩,
      fun ⟨weights, replacements, weighted⟩ => ⟨weights, replacements, weighted⟩⟩

/-- A rule whose letters are below the size passes if its weight does. -/
theorem Alphabet.WellNamed.requireRule_eq_ok {alphabet : Alphabet}
    (named : alphabet.WellNamed) {rule : Rule} (weight : IsWeight rule.weight)
    (replacement : ∀ letter ∈ rule.replacement, letter < alphabet.size)
    (letter : Letter) : alphabet.requireRule letter rule = .ok () := by
  have known : rule.replacement.find? (fun other => !alphabet.contains other) =
      none := by
    rw [List.find?_eq_none]
    intro other inside
    have defined := (named.contains_iff_lt other).mpr (replacement other inside)
    simp [defined]
  rw [requireRule_eq_ok_iff]
  refine ⟨(alphabet.requireWeight_eq_ok_iff letter rule.weight).mpr weight, ?_⟩
  rw [requireLetters, known]

/-- Rules that pass are set, also if none of them can be chosen. -/
theorem Alphabet.Holds.after_setRules {alphabet : Alphabet} {symbols : List Symbol}
    (holds : alphabet.Holds symbols) {letter : Letter} {symbol : Symbol}
    (found : symbols[letter]? = some symbol) {rules : List Rule}
    (weights : ∀ rule ∈ rules, IsWeight rule.weight)
    (replacements : ∀ rule ∈ rules, ∀ other ∈ rule.replacement,
      other < symbols.length) :
    (alphabet.after (.setRules letter rules)).Holds
      (symbols.set letter { symbol with rules := rules }.refreshed) := by
  have checked : rules.forM (alphabet.requireRule letter) = .ok () := by
    rw [forM_eq_ok_iff]
    intro rule inside
    apply holds.reachable.wellNamed.requireRule_eq_ok (weights rule inside)
    rw [holds.size_eq]
    exact replacements rule inside
  refine ⟨.edit _ holds.reachable, ?_⟩
  rw [after, EditRequest.edit, Edit.runFrom_setRules, checked, holds.find_eq found]
  simp [replace, holds.symbols_eq, List.map_set]

namespace Edit

variable {α β : Type}

theorem runFrom_setRules_of_admissible {alphabet : Alphabet}
    (named : alphabet.WellNamed) {letter : Letter} {symbol : Symbol}
    {rules : List Rule} (found : alphabet.find letter = .ok symbol)
    (admissible : Rule.Admissible alphabet.size rules) :
    runFrom alphabet (setRules letter rules) =
      (.ok (), alphabet.replace letter { symbol with rules := rules }.refreshed) := by
  have checked : rules.forM (alphabet.requireRule letter) = .ok () := by
    rw [forM_eq_ok_iff]
    intro rule inside
    exact named.requireRule_eq_ok (admissible.weights rule inside)
      (admissible.replacements rule inside) letter
  have weighted : { symbol with rules := rules }.isWeightless = false := by
    have some := admissible.weighted
    simp [Symbol.isWeightless, Symbol.freshTable, some]
  rw [runFrom_setRules, checked, found]
  simp [weighted]

/-- From every reachable alphabet with the first symbols the edit succeeds, gives
the value, and leaves a reachable alphabet with the second symbols. -/
def Makes (edit : Edit α) (before : List Symbol) (value : α)
    (after : List Symbol) : Prop :=
  ∀ ⦃alphabet : Alphabet⦄, alphabet.Holds before →
    ∃ next, runFrom alphabet edit = (.ok value, next) ∧ next.Holds after

namespace Makes

theorem pure (value : α) (symbols : List Symbol) :
    Makes (pure value) symbols value symbols := by
  intro alphabet holds
  exact ⟨alphabet, rfl, holds⟩

theorem bind {edit : Edit α} {rest : α → Edit β}
    {before middle after : List Symbol} {value : α} {final : β}
    (first : edit.Makes before value middle)
    (others : (rest value).Makes middle final after) :
    Makes (edit >>= rest) before final after := by
  intro alphabet holds
  obtain ⟨next, run, nextHolds⟩ := first holds
  obtain ⟨last, restRun, lastHolds⟩ := others nextHolds
  exact ⟨last, by rw [runFrom_bind_of_ok run, restRun], lastHolds⟩

/-- A definition adds a symbol whose letter is the number of those before it. -/
theorem define {symbols : List Symbol} {name : String}
    (admits : Symbol.Admits symbols name) (action : Action) :
    Makes (Edit.define name action) symbols symbols.length
      (symbols ++ [Symbol.ofAction name action]) := by
  intro alphabet holds
  have named := holds.reachable.wellNamed
  have unlisted : name ∉ alphabet.names := by
    rw [holds.names_eq]
    exact admits.untaken
  have run := named.runFrom_define unlisted (by rw [holds.size_eq]; exact admits.few)
    (by rw [holds.names_eq]; exact admits.short) action
  rw [holds.size_eq] at run
  refine ⟨_, run, ?_, ?_⟩
  · have reachable := Alphabet.Reachable.edit (.define name action)
      holds.reachable
    rwa [Alphabet.after, EditRequest.edit, runFrom_bind_of_ok run] at reachable
  · rw [named.symbols_append (named.resolve_eq_none unlisted), holds.symbols_eq]
    simp

/-- Setting rules exchanges a symbol for one with these rules. -/
theorem setRules {symbols : List Symbol} {letter : Letter} {symbol : Symbol}
    {rules : List Rule} (found : symbols[letter]? = some symbol)
    (admissible : Rule.Admissible symbols.length rules) :
    Makes (Edit.setRules letter rules) symbols ()
      (symbols.set letter { symbol with rules := rules }.refreshed) := by
  intro alphabet holds
  have nextHolds := holds.after_setRules found admissible.weights
    admissible.replacements
  rw [← holds.size_eq] at admissible
  have run := runFrom_setRules_of_admissible holds.reachable.wellNamed
    (holds.find_eq found) admissible
  rw [Alphabet.after, EditRequest.edit, run] at nextHolds
  exact ⟨_, run, nextHolds⟩

/-- Setting a weight exchanges a symbol for one with the weight. -/
theorem setWeight {symbols : List Symbol} {letter : Letter} {symbol : Symbol}
    {index : Nat} {rule : Rule} {weight : Float}
    (found : symbols[letter]? = some symbol)
    (ruleFound : symbol.rules[index]? = some rule) (valid : IsWeight weight) :
    Makes (Edit.setWeight letter index weight) symbols ()
      (symbols.set letter
        { symbol with
          rules := symbol.rules.set index { rule with weight := weight } }) := by
  intro alphabet holds
  have run := runFrom_setWeight alphabet letter index weight
  rw [(alphabet.requireWeight_eq_ok_iff letter weight).mpr valid,
    holds.find_eq found] at run
  simp only [ruleFound] at run
  refine ⟨_, run, ?_, ?_⟩
  · have reachable := Alphabet.Reachable.edit (.setWeight letter index weight)
      holds.reachable
    rwa [Alphabet.after, EditRequest.edit, run] at reachable
  · simp [Alphabet.replace, holds.symbols_eq, List.map_set]

/-- What a request that makes a list of symbols leaves holds them. -/
theorem holds_after {request : EditRequest} {before after : List Symbol}
    (makes : Makes request.edit before () after) {alphabet : Alphabet}
    (holds : alphabet.Holds before) : (alphabet.after request).Holds after := by
  obtain ⟨next, run, nextHolds⟩ := makes holds
  rwa [Alphabet.after, run]

end Makes

end Edit

/-- A definition whose letter is of no concern. -/
theorem Alphabet.Holds.after_defineBare {alphabet : Alphabet}
    {symbols : List Symbol} (holds : alphabet.Holds symbols) {name : String}
    (admits : Symbol.Admits symbols name) :
    (alphabet.after (.defineBare name)).Holds
      (symbols ++ [Symbol.ofAction name Act.skip]) :=
  Edit.Makes.holds_after
    ((Edit.Makes.define admits Act.skip).bind (.pure () _)) holds

end GrowthGrammar
