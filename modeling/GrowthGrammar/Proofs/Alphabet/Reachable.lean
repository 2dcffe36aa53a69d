import GrowthGrammar.Proofs.Alphabet.Edits

/-!
# Reachable alphabets

A host can only build an alphabet by editing the empty one, in any order and
whether its edits fail or not.  An edit appends a fresh symbol, or exchanges one
symbol for a changed one, or does nothing; the two brackets are two such edits.
So what holds of the empty alphabet and is kept by these changes holds of every
alphabet that a host can have.

The first such property is that a share table fits the rules it was computed
from: a draw never chooses a rule that is not there.
-/

namespace GrowthGrammar

/-- A request to edit an alphabet. -/
inductive EditRequest where
  | define (name : String) (action : Action)
  | defineBare (name : String)
  | defineBrackets
  | setRules (letter : Letter) (rules : List Rule)
  | setWeight (letter : Letter) (index : Nat) (weight : Float)
  | refresh (letter : Letter)
  | setFixed (letter : Letter) (fixed : Bool)

/-- The requested edit, without its result. -/
def EditRequest.edit : EditRequest → Edit Unit
  | define name action => do let _ ← Edit.define name action
  | defineBare name => do let _ ← Edit.defineBare name
  | defineBrackets => do let _ ← Edit.defineBrackets
  | setRules letter rules => Edit.setRules letter rules
  | setWeight letter index weight => Edit.setWeight letter index weight
  | refresh letter => Edit.refresh letter
  | setFixed letter fixed => Edit.setFixed letter fixed

namespace Alphabet

/-- The alphabet that a request leaves, whether it failed or not. -/
def after (alphabet : Alphabet) (request : EditRequest) : Alphabet :=
  (runFrom alphabet request.edit).2

/-- The alphabets that a host can have. -/
inductive Reachable : Alphabet → Prop where
  | empty : Reachable empty
  | edit {alphabet : Alphabet} (request : EditRequest)
      (reachable : Reachable alphabet) : Reachable (alphabet.after request)

theorem after_define_empty {name : String}
    (room : empty.hasRoomFor name = true) (action : Action) :
    empty.after (.define name action) =
      empty.append (Symbol.ofAction name action) := by
  simp [after, EditRequest.edit,
    Edit.runFrom_define_of_room (resolve_empty name) room]

theorem after_defineBare_empty {name : String}
    (room : empty.hasRoomFor name = true) :
    empty.after (.defineBare name) =
      empty.append (Symbol.ofAction name Act.skip) :=
  after_define_empty room Act.skip

/-- Setting a weight changes one rule of a symbol, or nothing. -/
theorem after_setWeight (alphabet : Alphabet) (letter : Letter) (index : Nat)
    (weight : Float) :
    alphabet.after (.setWeight letter index weight) = alphabet ∨
      ∃ symbol rule, alphabet.find letter = .ok symbol ∧
        symbol.rules[index]? = some rule ∧
        alphabet.requireWeight letter weight = .ok () ∧
        alphabet.after (.setWeight letter index weight) =
          alphabet.replace letter
            { symbol with
              rules := symbol.rules.set index { rule with weight := weight } } := by
  simp only [after, EditRequest.edit, Edit.runFrom_setWeight]
  cases checked : alphabet.requireWeight letter weight with
  | error error => exact Or.inl rfl
  | ok passed =>
      cases found : alphabet.find letter with
      | error error => exact Or.inl rfl
      | ok symbol =>
          cases ruleFound : symbol.rules[index]? with
          | none => exact Or.inl (by simp [ruleFound])
          | some rule =>
              exact Or.inr ⟨symbol, rule, rfl, ruleFound, rfl, by simp [ruleFound]⟩

/-- One change of an alphabet. -/
inductive Edited (alphabet : Alphabet) : Alphabet → Prop where
  | defined {name : String} {action : Action}
      (untaken : alphabet.resolve name = none)
      (room : alphabet.hasRoomFor name = true) :
      Edited alphabet (alphabet.append (Symbol.ofAction name action))
  | ruled {letter : Letter} {symbol : Symbol} {rules : List Rule}
      (found : alphabet.find letter = .ok symbol)
      (checked : rules.forM (alphabet.requireRule letter) = .ok ()) :
      Edited alphabet
        (alphabet.replace letter { symbol with rules := rules }.refreshed)
  | refreshed {letter : Letter} {symbol : Symbol}
      (found : alphabet.find letter = .ok symbol) :
      Edited alphabet (alphabet.replace letter symbol.refreshed)
  | weighted {letter : Letter} {symbol : Symbol} {index : Nat} {rule : Rule}
      {weight : Float}
      (found : alphabet.find letter = .ok symbol)
      (ruleFound : symbol.rules[index]? = some rule)
      (checked : alphabet.requireWeight letter weight = .ok ()) :
      Edited alphabet
        (alphabet.replace letter
          { symbol with
            rules := symbol.rules.set index { rule with weight := weight } })
  | marked {letter : Letter} {symbol : Symbol} {fixed : Bool}
      (found : alphabet.find letter = .ok symbol) :
      Edited alphabet (alphabet.replace letter { symbol with fixed := fixed })

/-- A request other than that for both brackets makes one change or none. -/
theorem after_eq_or_edited (alphabet : Alphabet) {request : EditRequest}
    (single : request ≠ .defineBrackets) :
    alphabet.after request = alphabet ∨
      alphabet.Edited (alphabet.after request) := by
  have afterDefine : ∀ name action,
      alphabet.after (.define name action) = alphabet ∨
        alphabet.Edited (alphabet.after (.define name action)) := by
    intro name action
    simp only [after, EditRequest.edit, runFrom_bind, Edit.runFrom_define]
    by_cases taken : (alphabet.resolve name).isSome
    · simp [taken]
    · by_cases room : alphabet.hasRoomFor name
      · simp only [taken, room]
        exact Or.inr (.defined (by simpa using taken) room)
      · simp [taken, room]
  cases request with
  | define name action => exact afterDefine name action
  | defineBare name => exact afterDefine name Act.skip
  | defineBrackets => contradiction
  | setRules letter rules =>
      simp only [after, EditRequest.edit, Edit.runFrom_setRules]
      cases checked : rules.forM (alphabet.requireRule letter) with
      | error error => exact Or.inl rfl
      | ok passed =>
          cases found : alphabet.find letter with
          | error error => exact Or.inl rfl
          | ok symbol => exact Or.inr (.ruled found checked)
  | setWeight letter index weight =>
      rcases alphabet.after_setWeight letter index weight with
        unchanged | ⟨symbol, rule, found, ruleFound, checked, changed⟩
      · exact Or.inl unchanged
      · rw [changed]
        exact Or.inr (.weighted found ruleFound checked)
  | refresh letter =>
      simp only [after, EditRequest.edit, Edit.runFrom_refresh]
      cases found : alphabet.find letter with
      | error error => exact Or.inl rfl
      | ok symbol => exact Or.inr (.refreshed found)
  | setFixed letter fixed =>
      simp only [after, EditRequest.edit, Edit.runFrom_setFixed]
      cases found : alphabet.find letter with
      | error error => exact Or.inl rfl
      | ok symbol => exact Or.inr (.marked found)

/-- The brackets are defined one after the other; if the first fails, the second
is not tried. -/
theorem after_defineBrackets (alphabet : Alphabet) :
    alphabet.after .defineBrackets = alphabet.after (.define "[" Act.save) ∨
      alphabet.after .defineBrackets =
        (alphabet.after (.define "[" Act.save)).after
          (.define "]" Act.restore) := by
  simp only [after, EditRequest.edit, runFrom_bind, Edit.runFrom_defineBrackets]
  rcases runFrom alphabet (Edit.define "[" Act.save) with ⟨_ | opening, next⟩
  · exact Or.inl rfl
  · right
    simp only [runFrom_pure]
    rcases runFrom next (Edit.define "]" Act.restore) with ⟨_ | closing, final⟩ <;>
      rfl

/-- What holds of the empty alphabet and is kept by every change holds of every
reachable alphabet. -/
theorem Reachable.of_kept {motive : Alphabet → Prop}
    (atEmpty : motive Alphabet.empty)
    (kept : ∀ {before next : Alphabet}, before.Reachable → motive before →
      before.Edited next → motive next)
    {alphabet : Alphabet} (reachable : alphabet.Reachable) :
    motive alphabet := by
  have keptBySingle : ∀ {before : Alphabet} {request : EditRequest},
      request ≠ .defineBrackets → before.Reachable → motive before →
        motive (before.after request) := by
    intro before request single beforeReachable holds
    rcases before.after_eq_or_edited single with unchanged | edited
    · exact unchanged.symm ▸ holds
    · exact kept beforeReachable holds edited
  induction reachable with
  | empty => exact atEmpty
  | @edit before request beforeReachable holds =>
      by_cases single : request = .defineBrackets
      · subst single
        have opened : motive (before.after (.define "[" Act.save)) :=
          keptBySingle (by simp) beforeReachable holds
        rcases before.after_defineBrackets with first | both
        · exact first ▸ opened
        · rw [both]
          exact keptBySingle (by simp) (.edit _ beforeReachable) opened
      · exact keptBySingle single beforeReachable holds

/-! ## Symbols of a changed alphabet -/

/-- The first symbol is put into the first place. -/
theorem append_empty (added : Symbol) :
    empty.append added =
      { nameTable := NameTable.empty.add added.name
        symbols := #[some added]
        size := 1 } := by
  have new : NameTable.empty.numberOf added.name = none :=
    NameTable.numberOf_empty added.name
  have letter : empty.letterFor added.name = 0 :=
    NameTable.numberFor_of_new new
  rw [append, letter]
  change Alphabet.mk (NameTable.empty.enter added.name) _ _ = _
  rw [NameTable.enter_of_new new]
  rfl

theorem find_append_empty (added : Symbol) :
    (empty.append added).find 0 = .ok added := by
  rw [append_empty]
  rfl

theorem find_append_self (alphabet : Alphabet) (added : Symbol) :
    (alphabet.append added).find (alphabet.letterFor added.name) = .ok added := by
  rw [find_append, if_pos rfl]

theorem find_append_of_ne {alphabet : Alphabet} {added : Symbol} {letter : Letter}
    (old : letter ≠ alphabet.letterFor added.name) :
    (alphabet.append added).find letter = alphabet.find letter := by
  rw [find_append, if_neg old]

theorem find_append_eq_ok {alphabet : Alphabet} {added symbol : Symbol}
    {letter : Letter} (found : (alphabet.append added).find letter = .ok symbol) :
    alphabet.find letter = .ok symbol ∨ symbol = added := by
  rw [find_append] at found
  split at found
  · exact Or.inr (Except.ok.inj found).symm
  · exact Or.inl found

/-- A letter that stands for a symbol does so also when one more is added. -/
theorem contains_append {alphabet : Alphabet} {letter : Letter}
    (defined : alphabet.contains letter = true) (added : Symbol) :
    (alphabet.append added).contains letter = true := by
  rw [contains_iff, find_append]
  split
  · exact ⟨added, rfl⟩
  · exact exists_find_of_contains defined

/-- The two brackets are the only letters that defining them adds. -/
theorem find_of_defineBrackets {alphabet next : Alphabet}
    {opening closing : Letter}
    (defined :
      runFrom alphabet Edit.defineBrackets = (.ok (opening, closing), next)) :
    next.find opening = .ok (Symbol.ofAction "[" Act.save) ∧
      next.find closing = .ok (Symbol.ofAction "]" Act.restore) ∧
      ∀ letter symbol, letter ≠ opening → letter ≠ closing →
        next.find letter = .ok symbol → alphabet.find letter = .ok symbol := by
  unfold Edit.defineBrackets at defined
  rw [runFrom_bind_eq_ok_iff] at defined
  rcases defined with ⟨first, opened, openingRun, closingRun⟩
  rw [runFrom_bind_eq_ok_iff] at closingRun
  rcases closingRun with ⟨second, closed, closingRun, pairRun⟩
  rw [runFrom_pure, Prod.mk.injEq, Except.ok.injEq, Prod.mk.injEq] at pairRun
  rcases pairRun with ⟨⟨rfl, rfl⟩, rfl⟩
  obtain ⟨-, rfl, rfl⟩ := Edit.of_define_eq_ok openingRun
  obtain ⟨-, rfl, rfl⟩ := Edit.of_define_eq_ok closingRun
  have apart : alphabet.letterFor "[" ≠
      (alphabet.append (Symbol.ofAction "[" Act.save)).letterFor "]" :=
    (alphabet.nameTable.numberFor_enter_ne (by decide)).symm
  refine ⟨(find_append_of_ne apart).trans (alphabet.find_append_self _),
    find_append_self _ _, ?_⟩
  intro letter symbol unopened unclosed found
  exact (find_append_of_ne unopened).symm.trans
    ((find_append_of_ne unclosed).symm.trans found)

theorem find_replace_of_ne {alphabet : Alphabet} {replaced letter : Letter}
    (other : letter ≠ replaced) (changed : Symbol) :
    (alphabet.replace replaced changed).find letter = alphabet.find letter := by
  simp [find, replace, Ne.symm other]

theorem find_replace_eq_ok {alphabet : Alphabet} {changed symbol : Symbol}
    {replaced letter : Letter}
    (found : (alphabet.replace replaced changed).find letter = .ok symbol) :
    alphabet.find letter = .ok symbol ∨ symbol = changed := by
  rw [find_eq_ok_iff] at found ⊢
  simp only [replace, Array.getElem?_setIfInBounds] at found
  split at found
  · split at found
    · exact Or.inr (Option.some.inj (Option.some.inj found)).symm
    · contradiction
  · exact Or.inl found

/-- A letter that stands for a symbol does so also when one is exchanged. -/
theorem contains_replace {alphabet : Alphabet} {letter : Letter}
    (defined : alphabet.contains letter = true) (replaced : Letter)
    (changed : Symbol) :
    (alphabet.replace replaced changed).contains letter = true := by
  obtain ⟨symbol, found⟩ := exists_find_of_contains defined
  by_cases same : letter = replaced
  · subst same
    exact contains_of_find (find_replace_self found changed)
  · exact contains_of_find ((find_replace_of_ne same changed).trans found)

end Alphabet

/-! ## Share tables -/

/-- The share table of a symbol is empty or has an entry for every rule. -/
def Symbol.TableFits (symbol : Symbol) : Prop :=
  symbol.table = ShareTable.empty ∨
    symbol.table.entries.length = symbol.rules.length

theorem Symbol.tableFits_refreshed (symbol : Symbol) :
    symbol.refreshed.TableFits := by
  unfold refreshed TableFits freshTable
  cases computed : ShareTable.ofWeights (symbol.rules.map Rule.weight) with
  | none => exact Or.inl rfl
  | some table =>
      have fits := ShareTable.length_of_ofWeights computed
      simp only [List.length_map] at fits
      exact Or.inr fits

/-- The table of a symbol selects no rule that is not there. -/
theorem Symbol.exists_rule_of_select {symbol : Symbol} (fits : symbol.TableFits)
    {value : Float} {index : Nat}
    (chosen : symbol.table.select value = some index) :
    ∃ rule, symbol.rules[index]? = some rule := by
  rcases fits with bare | fits
  · rw [bare] at chosen
    contradiction
  · have inside := ShareTable.lt_of_select chosen
    rw [fits] at inside
    exact ⟨symbol.rules[index], List.getElem?_eq_getElem inside⟩

/-- The share table of every symbol fits. -/
def Alphabet.TablesFit (alphabet : Alphabet) : Prop :=
  ∀ ⦃letter symbol⦄, alphabet.find letter = .ok symbol → symbol.TableFits

theorem Alphabet.TablesFit.replace {alphabet : Alphabet}
    (fits : alphabet.TablesFit) (letter : Letter) {changed : Symbol}
    (changedFits : changed.TableFits) :
    (alphabet.replace letter changed).TablesFit := by
  intro other symbol found
  rcases Alphabet.find_replace_eq_ok found with foundBefore | rfl
  · exact fits foundBefore
  · exact changedFits

theorem Alphabet.Reachable.tablesFit {alphabet : Alphabet}
    (reachable : alphabet.Reachable) : alphabet.TablesFit := by
  apply Alphabet.Reachable.of_kept _ _ reachable
  · intro letter symbol found
    simp [Alphabet.find, Alphabet.empty] at found
  · intro before next _ fits edited
    cases edited with
    | defined untaken room =>
        intro letter symbol found
        rcases Alphabet.find_append_eq_ok found with foundBefore | rfl
        · exact fits foundBefore
        · exact Or.inl rfl
    | ruled found checked =>
        exact fits.replace _ (Symbol.tableFits_refreshed _)
    | refreshed found =>
        exact fits.replace _ (Symbol.tableFits_refreshed _)
    | weighted found ruleFound checked =>
        exact fits.replace _ (by simpa [Symbol.TableFits] using fits found)
    | marked found =>
        have symbolFits := fits found
        exact fits.replace _ symbolFits

end GrowthGrammar
