import GrowthGrammar.Proofs.Alphabet.Construction
import GrowthGrammar.Proofs.Alphabet.Freshness
import GrowthGrammar.Proofs.Random.Shares

/-!
# Shares of rules

Rules that are accepted have weights that are finite and not negative, one by one.
Their sum need not be finite.  If it is, the share table rises to one, and every
draw chooses a rule that has a weight.  If it is not, the last entry is undefined,
and every draw chooses the last rule, even if that rule has no weight.
-/

namespace GrowthGrammar

open Binary64

theorem IsWeight.exists_hasAmount {weight : Float} (valid : IsWeight weight) :
    ∃ amount, HasAmount weight amount :=
  exists_hasAmount_of_isFinite valid.1 valid.2

/-- The sum of the weights of rules. -/
def Rule.totalWeight (rules : List Rule) : Float :=
  (rules.map Rule.weight).foldl (· + ·) 0.0

theorem Rule.amounts_of_valid {rules : List Rule}
    (valid : ∀ rule ∈ rules, IsWeight rule.weight) :
    ∀ weight ∈ rules.map Rule.weight, ∃ amount, HasAmount weight amount := by
  intro weight inside
  obtain ⟨rule, ruleInside, rfl⟩ := List.mem_map.mp inside
  exact (valid rule ruleInside).exists_hasAmount

namespace Symbol

theorem choose_of_select {symbol : Symbol} {draw : Float} {index : Nat} {rule : Rule}
    (selected : symbol.table.select draw = some index)
    (ruleFound : symbol.rules[index]? = some rule) :
    symbol.choose draw = .ok rule.replacement := by
  rw [choose, selected, Option.bind_some, ruleFound]

/-- The table of a symbol rises to one, and every draw chooses a rule that has a
weight. -/
structure SharesOut (symbol : Symbol) : Prop where
  isFinite : ∀ entry ∈ symbol.table.entries, entry.isFinite
  rises : symbol.table.entries.Pairwise (· ≤ ·)
  endsInOne : symbol.table.entries.getLast? = some 1.0
  chooses : ∀ draw, 0.0 ≤ draw → draw < 1.0 →
    ∃ index rule, symbol.table.select draw = some index ∧
      symbol.rules[index]? = some rule ∧ 0.0 < rule.weight ∧
      symbol.choose draw = .ok rule.replacement

/-- The last entry of a table is undefined, and every draw chooses the last rule. -/
structure FallsThrough (symbol : Symbol) : Prop where
  undefined : ∃ entry, symbol.table.entries.getLast? = some entry ∧ entry.isNaN
  chooses : ∀ draw, 0.0 ≤ draw → draw < 1.0 →
    ∃ rule, symbol.table.select draw = some (symbol.rules.length - 1) ∧
      symbol.rules.getLast? = some rule ∧
      symbol.choose draw = .ok rule.replacement

section Table

variable {symbol : Symbol} (valid : ∀ rule ∈ symbol.rules, IsWeight rule.weight)
  (tableIs : ShareTable.ofWeights (symbol.rules.map Rule.weight) = some symbol.table)
include valid tableIs

theorem sharesOut_of_finite_total
    (finite : (Rule.totalWeight symbol.rules).isFinite) : symbol.SharesOut := by
  obtain ⟨isFinite, rises, endsInOne, selects⟩ :=
    ShareTable.shares_of_finite_total (Rule.amounts_of_valid valid) tableIs finite
  refine ⟨isFinite, rises, endsInOne, ?_⟩
  intro draw atLeast below
  obtain ⟨index, weight, selected, weightFound, hasWeight⟩ := selects draw atLeast below
  rw [List.getElem?_map, Option.map_eq_some_iff] at weightFound
  obtain ⟨rule, ruleFound, rfl⟩ := weightFound
  exact ⟨index, rule, selected, ruleFound, hasWeight,
    choose_of_select selected ruleFound⟩

theorem fallsThrough_of_infinite_total
    (infinite : (Rule.totalWeight symbol.rules).isFinite = false) :
    symbol.FallsThrough := by
  obtain ⟨undefined, selects⟩ :=
    ShareTable.shares_of_infinite_total (Rule.amounts_of_valid valid) tableIs infinite
  refine ⟨undefined, ?_⟩
  intro draw atLeast below
  have selected := selects draw atLeast below
  have ruled := ShareTable.ne_nil_of_ofWeights tableIs
  rw [ne_eq, List.map_eq_nil_iff] at ruled
  rw [List.length_map] at selected
  have last := List.getLast?_eq_some_getLast ruled
  refine ⟨_, selected, last, choose_of_select selected ?_⟩
  rw [← List.getLast?_eq_getElem?]
  exact last

end Table

/-- One table cannot do both. -/
theorem SharesOut.not_fallsThrough {symbol : Symbol} (shares : symbol.SharesOut) :
    ¬ symbol.FallsThrough := by
  intro falls
  obtain ⟨entry, last, isNaN⟩ := falls.undefined
  rw [shares.endsInOne] at last
  cases last
  exact absurd isNaN (by decide +kernel)

end Symbol

namespace Alphabet

variable {alphabet next : Alphabet} {letter : Letter} {rules : List Rule}

/-- Accepted rules have valid weights, and their table has just been computed. -/
theorem computed_of_accepted
    (accepted : runFrom alphabet (Edit.setRules letter rules) = (.ok (), next)) :
    (∀ rule ∈ rules, IsWeight rule.weight) ∧
      ∃ symbol, next.find letter = .ok symbol ∧ symbol.rules = rules ∧
        symbol.Computed (.ok ()) := by
  rw [Edit.runFrom_setRules] at accepted
  cases checked : rules.forM (alphabet.requireRule letter) with
  | error error => simp [checked] at accepted
  | ok passed =>
      cases found : alphabet.find letter with
      | error error => simp [checked, found] at accepted
      | ok symbol =>
          simp only [checked, found, Prod.mk.injEq] at accepted
          obtain ⟨ended, rfl⟩ := accepted
          constructor
          · intro rule inside
            exact isWeight_of_requireRule ((forM_eq_ok_iff _).mp checked rule inside)
          · have computed := Symbol.computed_refreshed { symbol with rules := rules }
            rw [ended] at computed
            exact ⟨_, find_replace_self found _, rfl, computed⟩

/-- If the sum of the weights of accepted rules is finite, and only then, their share
table rises to one, and every draw chooses a rule that has a weight.  Otherwise every
draw falls through to the last rule. -/
theorem accepted_rules_share_out_iff (ruled : rules ≠ [])
    (accepted : runFrom alphabet (Edit.setRules letter rules) = (.ok (), next)) :
    ∃ symbol, next.find letter = .ok symbol ∧ symbol.rules = rules ∧
      (symbol.SharesOut ↔ (Rule.totalWeight rules).isFinite) ∧
      (symbol.FallsThrough ↔ (Rule.totalWeight rules).isFinite = false) := by
  obtain ⟨valid, symbol, found, rulesAre, computed⟩ := computed_of_accepted accepted
  subst rulesAre
  have tableIs : ShareTable.ofWeights (symbol.rules.map Rule.weight) =
      some symbol.table := by
    cases computed with
    | bare unruled _ => contradiction
    | weighted table => exact table
  refine ⟨symbol, found, rfl, ?_⟩
  cases finite : (Rule.totalWeight symbol.rules).isFinite with
  | true =>
      have shares := Symbol.sharesOut_of_finite_total valid tableIs finite
      simp [shares, shares.not_fallsThrough]
  | false =>
      have falls := Symbol.fallsThrough_of_infinite_total valid tableIs finite
      have notBoth : ¬ symbol.SharesOut := fun shares => shares.not_fallsThrough falls
      simp [falls, notBoth]

/-- Rules without weight at both ends are never chosen. -/
theorem weightless_ends_are_not_chosen :
    let rules : List Rule :=
      [{ weight := 0.0, replacement := [] }, { weight := 3.0, replacement := [0] },
        { weight := 0.0, replacement := [0, 0] }]
    let alphabet := empty.append (Symbol.ofAction "A" Act.skip)
    ∃ next symbol,
      runFrom alphabet (Edit.setRules 0 rules) = (.ok (), next) ∧
        next.find 0 = .ok symbol ∧
        ∀ draw, 0.0 ≤ draw → draw < 1.0 → symbol.choose draw = .ok [0] := by
  intro rules alphabet
  have found : alphabet.find 0 = .ok (Symbol.ofAction "A" Act.skip) :=
    find_append_empty _
  have admissible : Rule.Admissible alphabet.size rules := by decide +kernel
  have accepted := Edit.runFrom_setRules_of_admissible
    (wellNamed_empty.append (resolve_empty _)) found admissible
  have finite : (Rule.totalWeight rules).isFinite = true := by decide +kernel
  have weightless : ¬ (0.0 : Float) < 0.0 := by decide +kernel
  obtain ⟨symbol, found, rulesAre, shares, -⟩ :=
    accepted_rules_share_out_iff (List.cons_ne_nil _ _) accepted
  refine ⟨_, symbol, accepted, found, ?_⟩
  intro draw atLeast below
  obtain ⟨index, rule, _, ruleFound, hasWeight, chosen⟩ :=
    (shares.mpr finite).chooses draw atLeast below
  rw [rulesAre] at ruleFound
  have inside := List.mem_of_getElem? ruleFound
  simp only [List.mem_cons, List.not_mem_nil, or_false] at inside
  rcases inside with rfl | rfl | rfl
  · exact absurd hasWeight weightless
  · exact chosen
  · exact absurd hasWeight weightless

/-- Two weights of which each is finite add up to infinity, and a draw falls through
to the last rule, which has no weight. -/
theorem weightless_rule_chosen_at_infinite_total :
    let rules : List Rule :=
      [{ weight := 1e308, replacement := [0] }, { weight := 1e308, replacement := [0] },
        { weight := 0.0, replacement := [] }]
    let alphabet := empty.append (Symbol.ofAction "A" Act.skip)
    ∃ next symbol,
      runFrom alphabet (Edit.setRules 0 rules) = (.ok (), next) ∧
        next.find 0 = .ok symbol ∧ symbol.rules = rules ∧
        symbol.table.entries.map Float.isFinite = [true, false, false] ∧
        (0.0 : Float) ≤ 0.5 ∧ (0.5 : Float) < 1.0 ∧ symbol.choose 0.5 = .ok [] := by
  intro rules alphabet
  have found : alphabet.find 0 = .ok (Symbol.ofAction "A" Act.skip) :=
    find_append_empty _
  have admissible : Rule.Admissible alphabet.size rules := by decide +kernel
  have accepted := Edit.runFrom_setRules_of_admissible
    (wellNamed_empty.append (resolve_empty _)) found admissible
  refine ⟨_, _, accepted, find_replace_self found _, rfl, by decide +kernel,
    by decide +kernel, by decide +kernel, ?_⟩
  have selected : ShareTable.select (Symbol.refreshed
      { Symbol.ofAction "A" Act.skip with rules := rules }).table 0.5 = some 2 := by
    decide +kernel
  exact Symbol.choose_of_select selected rfl

end Alphabet

end GrowthGrammar
