import GrowthGrammar.Proofs.Alphabet.Naming

/-!
# Edits that fail

An edit checks all that it was given before it changes the alphabet, so that one
that fails leaves the alphabet as it was.  The request for both brackets is the
exception, since it consists of two edits: if the second fails, the first is not
undone.  Rules without weight are no failure of this kind; they are reported
once they have been set.
-/

namespace GrowthGrammar

/-- Whether an error refuses an edit.  The only one that does not is that of
rules without weight. -/
def GrowthError.IsRefusal (error : GrowthError) : Prop :=
  ∀ name, error ≠ .weightlessRules name

namespace Edit

/-- A refused edit leaves the alphabet as it was. -/
def IsAtomic {α : Type} (edit : Edit α) : Prop :=
  ∀ (alphabet : Alphabet) {error : GrowthError},
    (runFrom alphabet edit).1 = .error error → error.IsRefusal →
      (runFrom alphabet edit).2 = alphabet

/-- What an edit gives does not matter to its atomicity. -/
theorem IsAtomic.discard {α : Type} {edit : Edit α} (atomic : edit.IsAtomic) :
    IsAtomic (do let _ ← edit) := by
  intro alphabet error failed refused
  rw [runFrom_bind] at failed ⊢
  cases ran : runFrom alphabet edit with
  | mk result next =>
      simp only [ran] at failed ⊢
      cases result with
      | error first =>
          have kept := @atomic alphabet first (by rw [ran])
          rw [ran] at kept
          cases failed
          exact kept refused
      | ok value => cases failed

theorem define_isAtomic (name : String) (action : Action) :
    (define name action).IsAtomic := by
  intro alphabet error failed _
  rw [runFrom_define] at failed ⊢
  by_cases taken : (alphabet.resolve name).isSome
  · simp [taken]
  · by_cases room : alphabet.hasRoomFor name
    · simp [taken, room] at failed
    · simp [taken, room]

/-- Whatever is set before rules turn out to be without weight, the error is no
refusal. -/
theorem not_isRefusal_of_weightless {symbol : Symbol} {error : GrowthError}
    (failed : (if symbol.isWeightless then
      .error (.weightlessRules symbol.name) else .ok ()) =
        (.error error : Except GrowthError Unit)) : ¬ error.IsRefusal := by
  intro refused
  split at failed
  · exact refused symbol.name (Except.error.inj failed).symm
  · cases failed

theorem refresh_isAtomic (letter : Letter) : (refresh letter).IsAtomic := by
  intro alphabet error failed refused
  rw [runFrom_refresh] at failed ⊢
  cases found : alphabet.find letter with
  | error error => rfl
  | ok symbol =>
      rw [found] at failed
      exact absurd refused (not_isRefusal_of_weightless failed)

theorem setRules_isAtomic (letter : Letter) (rules : List Rule) :
    (setRules letter rules).IsAtomic := by
  intro alphabet error failed refused
  rw [runFrom_setRules] at failed ⊢
  cases checked : rules.forM (alphabet.requireRule letter) with
  | error error => rfl
  | ok passed =>
      cases found : alphabet.find letter with
      | error error => rfl
      | ok symbol =>
          rw [checked, found] at failed
          exact absurd refused
            (@not_isRefusal_of_weightless { symbol with rules := rules } _ failed)

theorem setWeight_isAtomic (letter : Letter) (index : Nat) (weight : Float) :
    (setWeight letter index weight).IsAtomic := by
  intro alphabet error failed _
  rw [runFrom_setWeight] at failed ⊢
  cases checked : alphabet.requireWeight letter weight with
  | error error => rfl
  | ok passed =>
      cases found : alphabet.find letter with
      | error error => rfl
      | ok symbol =>
          cases ruleFound : symbol.rules[index]? with
          | none => simp [ruleFound]
          | some rule => simp [checked, found, ruleFound] at failed

theorem setFixed_isAtomic (letter : Letter) (fixed : Bool) :
    (setFixed letter fixed).IsAtomic := by
  intro alphabet error failed _
  rw [runFrom_setFixed] at failed ⊢
  cases found : alphabet.find letter with
  | error error => rfl
  | ok symbol => simp [found] at failed

end Edit

namespace Alphabet

/-- The symbol of the bracket that saves the turtle. -/
def openingBracket : Symbol :=
  Symbol.ofAction "[" Act.save

/-- The first bracket is untaken and fits in. -/
def AdmitsOpening (alphabet : Alphabet) : Prop :=
  alphabet.resolve "[" = none ∧ alphabet.hasRoomFor "[" = true

theorem append_ne (alphabet : Alphabet) (symbol : Symbol) :
    alphabet.append symbol ≠ alphabet := by
  intro same
  have longer := alphabet.size_append symbol
  rw [same] at longer
  omega

/-- A request other than that for both brackets is atomic. -/
theorem isAtomic_edit {request : EditRequest}
    (single : request ≠ .defineBrackets) : request.edit.IsAtomic := by
  cases request with
  | define name action => exact (Edit.define_isAtomic name action).discard
  | defineBare name => exact (Edit.define_isAtomic name Act.skip).discard
  | defineBrackets => contradiction
  | setRules letter rules => exact Edit.setRules_isAtomic letter rules
  | setWeight letter index weight =>
      exact Edit.setWeight_isAtomic letter index weight
  | refresh letter => exact Edit.refresh_isAtomic letter
  | setFixed letter fixed => exact Edit.setFixed_isAtomic letter fixed

/-- The request defines the first of the two brackets, whatever becomes of the
second. -/
def LeavesOpening (alphabet : Alphabet) (request : EditRequest) : Prop :=
  request = .defineBrackets ∧ alphabet.AdmitsOpening

/-- Once the first bracket is defined, the second is refused for its name or for
want of room. -/
theorem runFrom_brackets_of_admitsOpening {alphabet : Alphabet}
    (admitted : alphabet.AdmitsOpening) :
    runFrom alphabet (EditRequest.edit .defineBrackets) =
      let opened := alphabet.append openingBracket
      if (alphabet.resolve "]").isSome then
        (.error (.nameTaken "]"), opened)
      else if opened.hasRoomFor "]" then
        (.ok (), opened.append (Symbol.ofAction "]" Act.restore))
      else
        (.error .alphabetFull, opened) := by
  have resolved :
      (alphabet.append openingBracket).resolve "]" = alphabet.resolve "]" := by
    rw [resolve_append, if_neg (by decide)]
  simp only [EditRequest.edit, runFrom_bind, Edit.runFrom_defineBrackets,
    Edit.runFrom_define_of_room admitted.1 admitted.2 Act.save,
    Edit.runFrom_define]
  rw [← openingBracket, resolved]
  by_cases taken : (alphabet.resolve "]").isSome
  · simp [taken]
  · by_cases room : (alphabet.append openingBracket).hasRoomFor "]" <;>
      simp [taken, room]

/-- If the first bracket is refused, so is the request for both. -/
theorem after_defineBrackets_of_not_admitsOpening {alphabet : Alphabet}
    (unadmitted : ¬ alphabet.AdmitsOpening) :
    alphabet.after .defineBrackets = alphabet := by
  simp only [after, EditRequest.edit, runFrom_bind,
    Edit.runFrom_defineBrackets, Edit.runFrom_define]
  by_cases taken : (alphabet.resolve "[").isSome
  · simp [taken]
  · have room : alphabet.hasRoomFor "[" = false := by
      simpa [AdmitsOpening, Option.not_isSome_iff_eq_none.mp taken] using
        unadmitted
    simp [taken, room]

/-- A refused edit leaves the alphabet as it was, unless it was to define both
brackets and the first of them could be defined: then that one stays, and the
second was refused for its name or for want of room. -/
theorem refused_edit_leaves_opening_at_most {alphabet : Alphabet}
    {request : EditRequest} {error : GrowthError}
    (failed : (runFrom alphabet request.edit).1 = .error error)
    (refused : error.IsRefusal) :
    (alphabet.after request = alphabet ↔ ¬ alphabet.LeavesOpening request) ∧
      (alphabet.LeavesOpening request →
        alphabet.after request = alphabet.append openingBracket ∧
        error = if (alphabet.resolve "]").isSome then .nameTaken "]"
          else .alphabetFull) := by
  by_cases single : request = .defineBrackets
  · subst single
    by_cases admitted : alphabet.AdmitsOpening
    · have ran := runFrom_brackets_of_admitsOpening admitted
      have opened : alphabet.after .defineBrackets =
            alphabet.append openingBracket ∧
          error = if (alphabet.resolve "]").isSome then .nameTaken "]"
            else .alphabetFull := by
        rw [after, ran]
        rw [ran] at failed
        by_cases taken : (alphabet.resolve "]").isSome
        · simp only [taken, if_true] at failed ⊢
          exact ⟨trivial, (Except.error.inj failed).symm⟩
        · by_cases room : (alphabet.append openingBracket).hasRoomFor "]"
          · simp [taken, room] at failed
          · simp only [taken, room] at failed ⊢
            exact ⟨rfl, (Except.error.inj failed).symm⟩
      refine ⟨?_, fun _ => opened⟩
      simp [LeavesOpening, admitted, opened.1, append_ne]
    · have kept := after_defineBrackets_of_not_admitsOpening admitted
      simp [LeavesOpening, admitted, kept]
  · have kept : alphabet.after request = alphabet :=
      isAtomic_edit single alphabet failed refused
    simp [LeavesOpening, single, kept]

/-- The second of two rules leads to a letter that is not there, so that neither
is set. -/
theorem refused_rules_are_not_set :
    let alphabet := Alphabet.empty.append (Symbol.ofAction "A" Act.skip)
    let request := EditRequest.setRules 0
      [{ weight := 1.0, replacement := [0] },
        { weight := 1.0, replacement := [0, 1] }]
    (runFrom alphabet request.edit).1 = .error (.noSuchSymbol 1) ∧
      alphabet.after request = alphabet := by
  intro alphabet request
  have weightPasses : alphabet.requireWeight 0 1.0 = .ok () :=
    if_pos (by decide +kernel)
  have firstPasses : alphabet.requireLetters [0] = .ok () := by
    simp only [alphabet, append_empty]
    rfl
  have secondFails : alphabet.requireLetters [0, 1] = .error (.noSuchSymbol 1) := by
    simp only [alphabet, append_empty]
    rfl
  have failed : (runFrom alphabet request.edit).1 = .error (.noSuchSymbol 1) := by
    simp only [request, EditRequest.edit, Edit.runFrom_setRules,
      List.forM_eq_forM, List.forM_cons, requireRule, weightPasses, firstPasses,
      secondFails]
    rfl
  have kept := (refused_edit_leaves_opening_at_most failed
    (by simp [GrowthError.IsRefusal])).1
  exact ⟨failed, kept.mpr (by simp [LeavesOpening, request])⟩

/-- If only the second bracket is taken, the first is left behind. -/
theorem opening_left_by_refused_brackets :
    let alphabet := Alphabet.empty.after (.defineBare "]")
    alphabet.Reachable ∧ alphabet.names = ["]"] ∧
      (runFrom alphabet (EditRequest.edit .defineBrackets)).1 =
        .error (.nameTaken "]") ∧
      (alphabet.after .defineBrackets).names = ["]", "["] ∧
      alphabet.after .defineBrackets ≠ alphabet := by
  intro alphabet
  have alphabetIs :
      alphabet = empty.append (Symbol.ofAction "]" Act.skip) :=
    after_defineBare_empty rfl
  have untaken : alphabet.resolve "[" = none := by
    simp [alphabetIs, resolve_append, Symbol.ofAction]
  have taken : (alphabet.resolve "]").isSome := by
    simp [alphabetIs, resolve_append, Symbol.ofAction]
  have room : alphabet.hasRoomFor "[" = true := by
    rw [alphabetIs, append_empty]
    rfl
  have ran := runFrom_brackets_of_admitsOpening ⟨untaken, room⟩
  have failed : (runFrom alphabet (EditRequest.edit .defineBrackets)).1 =
      .error (.nameTaken "]") := by
    simp [ran, taken]
  have left : alphabet.after .defineBrackets = alphabet.append openingBracket := by
    simp [after, ran, taken]
  have names : alphabet.names = ["]"] := by
    rw [alphabetIs, append_empty]
    rfl
  have named : alphabet.WellNamed := (Reachable.edit _ .empty).wellNamed
  refine ⟨.edit _ .empty, names, failed, ?_, ?_⟩
  · rw [left, named.names_append untaken, names]
    rfl
  · rw [left]
    exact append_ne alphabet openingBracket

end Alphabet

end GrowthGrammar
