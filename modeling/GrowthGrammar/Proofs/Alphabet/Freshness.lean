import GrowthGrammar.Proofs.Alphabet.Naming
import GrowthGrammar.Proofs.Alphabet.Weights

/-!
# Fresh and stale share tables

A share table is computed when rules are set and when it is asked for, and at no
other time.  In between it may be stale: it is that of the rules at the time of
its last computation, whatever has been done to their weights since.  A
computation that fails leaves an empty table, not the one before, so that nothing
is chosen by weights that are no longer there.
-/

namespace GrowthGrammar

/-! ## Computing a table -/

/-- A symbol whose share table has just been computed, and how the computation
ended. -/
inductive Symbol.Computed (symbol : Symbol) : Except GrowthError Unit → Prop where
  | bare (unruled : symbol.rules = []) (table : symbol.table = ShareTable.empty) :
      Computed symbol (.ok ())
  | weighted (table : ShareTable.ofWeights (symbol.rules.map Rule.weight) =
      some symbol.table) : Computed symbol (.ok ())
  | weightless (ruled : symbol.rules ≠ [])
      (unweighted : ShareTable.ofWeights (symbol.rules.map Rule.weight) = none)
      (table : symbol.table = ShareTable.empty) :
      Computed symbol (.error (.weightlessRules symbol.name))

theorem Symbol.computed_refreshed (symbol : Symbol) :
    symbol.refreshed.Computed
      (if symbol.isWeightless then .error (.weightlessRules symbol.name)
        else .ok ()) := by
  cases fresh : symbol.freshTable with
  | some table =>
      rw [if_neg (by simp [isWeightless, fresh])]
      apply Computed.weighted
      rw [refreshed, fresh]
      exact fresh
  | none =>
      have table : symbol.refreshed.table = ShareTable.empty := by
        rw [refreshed, fresh]
        rfl
      by_cases unruled : symbol.rules = []
      · rw [if_neg (by simp [isWeightless, unruled])]
        exact .bare unruled table
      · rw [if_pos (by simp [isWeightless, unruled, fresh])]
        exact .weightless unruled fresh table

namespace Alphabet

/-- The share table of a letter.  A letter that stands for no symbol has the empty
one. -/
def table (alphabet : Alphabet) (letter : Letter) : ShareTable Float :=
  match alphabet.find letter with
  | .ok symbol => symbol.table
  | .error _ => ShareTable.empty

/-- Whether a request computes the share table of a letter: it sets rules that
pass their checks, or it asks for the table. -/
def Computes (alphabet : Alphabet) (letter : Letter) : EditRequest → Prop
  | .setRules target rules =>
      target = letter ∧ alphabet.contains letter = true ∧
        rules.forM (alphabet.requireRule letter) = .ok ()
  | .refresh target => target = letter ∧ alphabet.contains letter = true
  | _ => False

theorem exists_computed {alphabet : Alphabet} {letter : Letter}
    {request : EditRequest} (computes : alphabet.Computes letter request) :
    ∃ computed, (alphabet.after request).find letter = .ok computed ∧
      computed.Computed (runFrom alphabet request.edit).1 := by
  cases request with
  | setRules target rules =>
      obtain ⟨rfl, defined, checked⟩ := computes
      obtain ⟨symbol, found⟩ := exists_find_of_contains defined
      simp only [after, EditRequest.edit, Edit.runFrom_setRules, checked, found]
      exact ⟨_, find_replace_self found _,
        { symbol with rules := rules }.computed_refreshed⟩
  | refresh target =>
      obtain ⟨rfl, defined⟩ := computes
      obtain ⟨symbol, found⟩ := exists_find_of_contains defined
      simp only [after, EditRequest.edit, Edit.runFrom_refresh, found]
      exact ⟨_, find_replace_self found _, symbol.computed_refreshed⟩
  | define | defineBare | defineBrackets | setWeight | setFixed =>
      exact computes.elim

/-! ## Leaving a table -/

/-- A symbol that is added to an empty place has the empty table, as its letter had
before. -/
theorem table_append {alphabet : Alphabet} {name : String}
    (vacant : alphabet.contains (alphabet.letterFor name) = false)
    (action : Action) (letter : Letter) :
    (alphabet.append (Symbol.ofAction name action)).table letter =
      alphabet.table letter := by
  by_cases new : letter = alphabet.letterFor name
  · have undefined : alphabet.find letter = .error (.noSuchSymbol letter) :=
      (alphabet.find_eq_error_iff letter _).mpr ⟨new ▸ vacant, rfl⟩
    have added : (alphabet.append (Symbol.ofAction name action)).find letter =
        .ok (Symbol.ofAction name action) :=
      new ▸ alphabet.find_append_self (Symbol.ofAction name action)
    rw [table, table, undefined, added]
    rfl
  · rw [table, table, find_append_of_ne new]

theorem table_replace_of_ne (alphabet : Alphabet) {target letter : Letter}
    (other : letter ≠ target) (changed : Symbol) :
    (alphabet.replace target changed).table letter = alphabet.table letter := by
  rw [table, table, find_replace_of_ne other]

theorem table_replace_of_eq {alphabet : Alphabet} {target : Letter}
    {symbol changed : Symbol} (found : alphabet.find target = .ok symbol)
    (same : changed.table = symbol.table) (letter : Letter) :
    (alphabet.replace target changed).table letter = alphabet.table letter := by
  by_cases other : letter = target
  · subst other
    rw [table, table, find_replace_self found, found]
    exact same
  · exact alphabet.table_replace_of_ne other changed

theorem Reachable.table_after_define {alphabet : Alphabet}
    (reachable : alphabet.Reachable) (name : String) (action : Action)
    (letter : Letter) :
    (alphabet.after (.define name action)).table letter =
      alphabet.table letter := by
  simp only [after, EditRequest.edit, runFrom_bind, Edit.runFrom_define]
  by_cases taken : (alphabet.resolve name).isSome
  · simp [taken]
  · by_cases room : alphabet.hasRoomFor name
    · simp only [taken, room]
      exact table_append
        (reachable.wellNamed.contains_letterFor (by simpa using taken)) action letter
    · simp [taken, room]

/-- A request that does not compute the share table of a letter leaves it. -/
theorem Reachable.table_after_of_not_computes {alphabet : Alphabet}
    (reachable : alphabet.Reachable) {letter : Letter} {request : EditRequest}
    (idle : ¬ alphabet.Computes letter request) :
    (alphabet.after request).table letter = alphabet.table letter := by
  cases request with
  | define name action => exact reachable.table_after_define name action letter
  | defineBare name => exact reachable.table_after_define name Act.skip letter
  | defineBrackets =>
      rcases alphabet.after_defineBrackets with first | both
      · rw [first, reachable.table_after_define]
      · rw [both, (reachable.edit _).table_after_define,
          reachable.table_after_define]
  | setRules target rules =>
      simp only [after, EditRequest.edit, Edit.runFrom_setRules]
      cases checked : rules.forM (alphabet.requireRule target) with
      | error error => rfl
      | ok passed =>
          cases found : alphabet.find target with
          | error error => rfl
          | ok symbol =>
              apply table_replace_of_ne
              rintro rfl
              exact idle ⟨rfl, contains_of_find found, checked⟩
  | setWeight target index weight =>
      rcases alphabet.after_setWeight target index weight with
        unchanged | ⟨symbol, rule, found, _, _, changed⟩
      · rw [unchanged]
      · rw [changed]
        apply table_replace_of_eq found
        rfl
  | refresh target =>
      simp only [after, EditRequest.edit, Edit.runFrom_refresh]
      cases found : alphabet.find target with
      | error error => rfl
      | ok symbol =>
          apply table_replace_of_ne
          rintro rfl
          exact idle ⟨rfl, contains_of_find found⟩
  | setFixed target fixed =>
      simp only [after, EditRequest.edit, Edit.runFrom_setFixed]
      cases found : alphabet.find target with
      | error error => rfl
      | ok symbol =>
          apply table_replace_of_eq found
          rfl

/-! ## Lists of requests -/

/-- The alphabet that requests leave, from the first to the last. -/
def afterAll (alphabet : Alphabet) (requests : List EditRequest) : Alphabet :=
  requests.foldl after alphabet

theorem afterAll_append (alphabet : Alphabet) (first second : List EditRequest) :
    alphabet.afterAll (first ++ second) =
      (alphabet.afterAll first).afterAll second :=
  List.foldl_append

theorem afterAll_concat (alphabet : Alphabet) (requests : List EditRequest)
    (request : EditRequest) :
    alphabet.afterAll (requests ++ [request]) =
      (alphabet.afterAll requests).after request :=
  alphabet.afterAll_append requests [request]

theorem Reachable.afterAll {alphabet : Alphabet}
    (reachable : alphabet.Reachable) (requests : List EditRequest) :
    (alphabet.afterAll requests).Reachable := by
  induction requests generalizing alphabet with
  | nil => exact reachable
  | cons request requests ih => exact ih (.edit request reachable)

/-- Whether no request of a list computes the share table of a letter. -/
def LeavesTable (letter : Letter) : Alphabet → List EditRequest → Prop
  | _, [] => True
  | alphabet, request :: requests =>
      ¬ alphabet.Computes letter request ∧
        LeavesTable letter (alphabet.after request) requests

theorem LeavesTable.table_eq {letter : Letter} {alphabet : Alphabet}
    {requests : List EditRequest} (reachable : alphabet.Reachable)
    (leaves : LeavesTable letter alphabet requests) :
    (alphabet.afterAll requests).table letter = alphabet.table letter := by
  induction requests generalizing alphabet with
  | nil => rfl
  | cons request requests ih =>
      have later := ih (reachable.edit request) leaves.2
      rw [reachable.table_after_of_not_computes leaves.1] at later
      exact later

/-- Either no request computes the table of a letter, or there is a last one that
does. -/
theorem leavesTable_or_last (letter : Letter) (alphabet : Alphabet)
    (requests : List EditRequest) :
    LeavesTable letter alphabet requests ∨
      ∃ before request later, requests = before ++ request :: later ∧
        (alphabet.afterAll before).Computes letter request ∧
        LeavesTable letter (alphabet.afterAll (before ++ [request])) later := by
  induction requests generalizing alphabet with
  | nil => exact Or.inl trivial
  | cons first requests ih =>
      -- The first request is the last that computes the table only if none of the
      -- others does.
      rcases ih (alphabet.after first) with
        leaves | ⟨before, request, later, splits, computes, leaves⟩
      · by_cases computes : alphabet.Computes letter first
        · exact Or.inr ⟨[], first, requests, rfl, computes, leaves⟩
        · exact Or.inl ⟨computes, leaves⟩
      · exact Or.inr ⟨first :: before, request, later, by rw [splits]; rfl,
          computes, leaves⟩

/-! ## Choosing -/

/-- What a draw chooses for a letter. -/
def choice (alphabet : Alphabet) (letter : Letter) (draw : Float) :
    Except GrowthError (List Letter) := do
  (← alphabet.find letter).choose draw

end Alphabet

theorem map_replacement_set {rules : List Rule} {index : Nat} {rule : Rule}
    (found : rules[index]? = some rule) (weight : Float) :
    (rules.set index { rule with weight := weight }).map Rule.replacement =
      rules.map Rule.replacement := by
  have listed : (rules.map Rule.replacement)[index]? = some rule.replacement := by
    rw [List.getElem?_map, found]
    rfl
  obtain ⟨inside, isReplacement⟩ := List.getElem?_eq_some_iff.mp listed
  calc (rules.set index { rule with weight := weight }).map Rule.replacement
      = (rules.map Rule.replacement).set index rule.replacement := by
        rw [List.map_set]
    _ = rules.map Rule.replacement := by
        rw [← isReplacement]
        exact List.set_getElem_self inside

namespace Symbol

variable {symbol : Symbol}

theorem choose_eq (symbol : Symbol) (draw : Float) :
    symbol.choose draw =
      match (symbol.table.select draw).bind
          ((symbol.rules.map Rule.replacement)[·]?) with
      | some replacement => .ok replacement
      | none => .error (.weightlessRules symbol.name) := by
  rw [choose]
  cases symbol.table.select draw with
  | none => rfl
  | some index =>
      simp only [Option.bind_some, List.getElem?_map]
      cases symbol.rules[index]? <;> rfl

/-- What is chosen depends on the table and on the replacements, not on the
weights. -/
theorem choose_congr {first second : Symbol} (name : first.name = second.name)
    (table : first.table = second.table)
    (replacements : first.rules.map Rule.replacement =
      second.rules.map Rule.replacement) (draw : Float) :
    first.choose draw = second.choose draw := by
  rw [choose_eq, choose_eq, name, table, replacements]

theorem choose_of_empty (table : symbol.table = ShareTable.empty) (draw : Float) :
    symbol.choose draw = .error (.weightlessRules symbol.name) := by
  have unchosen := (ShareTable.select_eq_none_iff _ draw).mpr table
  simp [choose, unchosen]

theorem exists_choose_of_ne (fits : symbol.TableFits)
    (table : symbol.table ≠ ShareTable.empty) (draw : Float) :
    ∃ rule ∈ symbol.rules, symbol.choose draw = .ok rule.replacement := by
  cases chosen : symbol.table.select draw with
  | none => exact absurd ((ShareTable.select_eq_none_iff _ _).mp chosen) table
  | some index =>
      obtain ⟨rule, ruleFound⟩ := exists_rule_of_select fits chosen
      refine ⟨rule, List.mem_of_getElem? ruleFound, ?_⟩
      simp [choose, chosen, ruleFound]

theorem choose_eq_error_iff (fits : symbol.TableFits) (draw : Float)
    (error : GrowthError) :
    symbol.choose draw = .error error ↔
      symbol.table = ShareTable.empty ∧ error = .weightlessRules symbol.name := by
  by_cases table : symbol.table = ShareTable.empty
  · rw [choose_of_empty table]
    simp [table, eq_comm]
  · obtain ⟨rule, _, chosen⟩ := exists_choose_of_ne fits table draw
    simp [chosen, table]

end Symbol

namespace Alphabet

theorem choice_of_find {alphabet : Alphabet} {letter : Letter} {symbol : Symbol}
    (found : alphabet.find letter = .ok symbol) (draw : Float) :
    alphabet.choice letter draw = symbol.choose draw := by
  rw [choice, found]
  rfl

/-- Setting a weight changes no choice. -/
theorem choice_after_setWeight (alphabet : Alphabet) (target : Letter)
    (index : Nat) (weight : Float) (letter : Letter) (draw : Float) :
    (alphabet.after (.setWeight target index weight)).choice letter draw =
      alphabet.choice letter draw := by
  rcases alphabet.after_setWeight target index weight with
    unchanged | ⟨symbol, rule, found, ruleFound, _, changed⟩
  · rw [unchanged]
  · rw [changed]
    by_cases other : letter = target
    · subst other
      rw [choice_of_find (find_replace_self found _), choice_of_find found]
      apply Symbol.choose_congr
      · rfl
      · rfl
      · exact map_replacement_set ruleFound weight
    · rw [choice, choice, find_replace_of_ne other]

theorem table_of_find {alphabet : Alphabet} {letter : Letter} {symbol : Symbol}
    (found : alphabet.find letter = .ok symbol) :
    alphabet.table letter = symbol.table := by
  rw [table, found]

/-- The table of a letter after the last request that computes it. -/
theorem exists_last_computed {alphabet : Alphabet}
    (reachable : alphabet.Reachable) {letter : Letter}
    {before later : List EditRequest} {request : EditRequest}
    (computes : (alphabet.afterAll before).Computes letter request)
    (leaves : LeavesTable letter (alphabet.afterAll (before ++ [request])) later) :
    ∃ computed,
      (alphabet.afterAll (before ++ [request])).find letter = .ok computed ∧
        computed.Computed (runFrom (alphabet.afterAll before) request.edit).1 ∧
        (alphabet.afterAll (before ++ request :: later)).table letter =
          computed.table := by
  obtain ⟨computed, found, ended⟩ := exists_computed computes
  rw [← afterAll_concat] at found
  refine ⟨computed, found, ended, ?_⟩
  rw [← table_of_find found, ← leaves.table_eq (reachable.afterAll _),
    List.append_cons, afterAll_append]

/-- Whatever is requested, the share table of a symbol is that of its last
computation, or empty if there was none.  So it is empty or has an entry for every
rule, no draw selects a rule that is not there, and a choice fails exactly if the
table is empty.  Setting a weight changes no choice, and after a computation that
fails there is none until the next. -/
theorem share_table_is_last_computed (requests : List EditRequest)
    {letter : Letter} {symbol : Symbol}
    (found : (empty.afterAll requests).find letter = .ok symbol) :
    ((LeavesTable letter empty requests ∧ symbol.table = ShareTable.empty) ∨
      ∃ before request later computed, requests = before ++ request :: later ∧
        (empty.afterAll before).Computes letter request ∧
        LeavesTable letter (empty.afterAll (before ++ [request])) later ∧
        (empty.afterAll (before ++ [request])).find letter = .ok computed ∧
        computed.Computed (runFrom (empty.afterAll before) request.edit).1 ∧
        symbol.table = computed.table) ∧
    (symbol.table.entries.length = 0 ∨
      symbol.table.entries.length = symbol.rules.length) ∧
    (∀ draw index, symbol.table.select draw = some index →
      index < symbol.rules.length) ∧
    (∀ draw error, symbol.choose draw = .error error ↔
      symbol.table = ShareTable.empty ∧ error = .weightlessRules symbol.name) ∧
    (∀ target index weight other draw,
      ((empty.afterAll requests).after (.setWeight target index weight)).choice
          other draw =
        (empty.afterAll requests).choice other draw) ∧
    ∀ before request later name, requests = before ++ request :: later →
      (empty.afterAll before).Computes letter request →
      LeavesTable letter (empty.afterAll (before ++ [request])) later →
      (runFrom (empty.afterAll before) request.edit).1 =
          .error (.weightlessRules name) →
        ∀ draw, symbol.choose draw = .error (.weightlessRules symbol.name) := by
  have fits := (Reachable.empty.afterAll requests).tablesFit found
  have tableIs := table_of_find found
  refine ⟨?_, ?_, ?_, fun draw error => symbol.choose_eq_error_iff fits draw error,
    (empty.afterAll requests).choice_after_setWeight, ?_⟩
  · rcases leavesTable_or_last letter empty requests with
      leaves | ⟨before, request, later, splits, computes, leaves⟩
    · left
      rw [← tableIs, leaves.table_eq .empty]
      exact ⟨leaves, rfl⟩
    · right
      obtain ⟨computed, computedFound, ended, same⟩ :=
        exists_last_computed .empty computes leaves
      rw [← splits, tableIs] at same
      exact ⟨before, request, later, computed, splits, computes, leaves,
        computedFound, ended, same⟩
  · rcases fits with bare | fits
    · left
      rw [bare]
      rfl
    · exact Or.inr fits
  · intro draw index chosen
    obtain ⟨rule, ruleFound⟩ := Symbol.exists_rule_of_select fits chosen
    exact (List.getElem?_eq_some_iff.mp ruleFound).1
  · intro before request later name splits computes leaves failed draw
    obtain ⟨computed, computedFound, ended, same⟩ :=
      exists_last_computed .empty computes leaves
    rw [← splits, tableIs] at same
    rw [failed] at ended
    apply Symbol.choose_of_empty
    rw [same]
    cases ended with
    | weightless _ _ table => exact table

/-- A symbol that has lost all its weights is still expanded by the table of the
weights that it had. -/
theorem choices_by_stale_table :
    let requests : List EditRequest :=
      [.defineBare "A",
        .setRules 0 [{ weight := 1.0, replacement := [0] },
          { weight := 3.0, replacement := [] }],
        .setWeight 0 0 0.0, .setWeight 0 1 0.0]
    ∃ symbol, (empty.afterAll requests).find 0 = .ok symbol ∧
      symbol.rules.map Rule.weight = [0.0, 0.0] ∧
      symbol.table = ⟨[0.25, 1.0]⟩ ∧
      ∀ draw error, symbol.choose draw ≠ .error error := by
  intro requests
  have alphabetIs : empty.afterAll requests =
      (empty.append (Symbol.ofAction "A" Act.skip)).afterAll requests.tail := by
    rw [← after_defineBare_empty rfl]
    rfl
  have facts : ((empty.afterAll requests).find 0).toOption.map
      (fun symbol => (symbol.rules.map Rule.weight, symbol.table)) =
        some ([0.0, 0.0], ⟨[0.25, 1.0]⟩) := by
    rw [alphabetIs, append_empty]
    decide +kernel
  cases found : (empty.afterAll requests).find 0 with
  | error error => simp [found, Except.toOption] at facts
  | ok symbol =>
      simp only [found, Except.toOption, Option.map_some, Option.some.injEq,
        Prod.mk.injEq] at facts
      obtain ⟨_, _, _, fails, _⟩ := share_table_is_last_computed requests found
      refine ⟨symbol, rfl, facts.1, facts.2, ?_⟩
      intro draw error failed
      have bare := ((fails draw error).mp failed).1
      rw [facts.2] at bare
      simp [ShareTable.empty] at bare

end Alphabet

end GrowthGrammar
