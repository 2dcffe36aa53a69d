import Mathlib.Data.List.Forall2
import Mathlib.Logic.Relation
import GrowthGrammar.Proofs.Alphabet.Reachable

/-!
# Defined letters

The letters of a replacement are checked when the rules are set, and not again
when the rules are used.  They need not be: no change takes a symbol out of an
alphabet, so a letter that stands for a symbol once does so ever after.
-/

namespace GrowthGrammar.Alphabet

/-- Whether all letters stand for symbols. -/
def Defines (alphabet : Alphabet) (letters : List Letter) : Prop :=
  ∀ letter ∈ letters, alphabet.contains letter = true

theorem requireLetters_eq_ok_iff (alphabet : Alphabet) (letters : List Letter) :
    alphabet.requireLetters letters = .ok () ↔ alphabet.Defines letters := by
  rw [requireLetters, Defines]
  cases undefined : letters.find? fun letter => !alphabet.contains letter with
  | none => simpa using List.find?_eq_none.mp undefined
  | some letter =>
      have missing := List.find?_some undefined
      have listed := List.mem_of_find?_eq_some undefined
      simp only [reduceCtorEq, false_iff]
      intro defines
      simp [defines letter listed] at missing

theorem Defines.exists_symbols {alphabet : Alphabet} {letters : List Letter}
    (defines : alphabet.Defines letters) :
    ∃ symbols, List.Forall₂ (fun letter symbol => alphabet.find letter = .ok symbol)
      letters symbols := by
  induction letters with
  | nil => exact ⟨[], .nil⟩
  | cons letter letters ih =>
      rw [Defines, List.forall_mem_cons] at defines
      obtain ⟨symbol, found⟩ := exists_find_of_contains defines.1
      obtain ⟨symbols, allFound⟩ := ih defines.2
      exact ⟨symbol :: symbols, .cons found allFound⟩

/-! ## Letters stay defined -/

/-- A request makes a number of changes one after another. -/
theorem edited_after (alphabet : Alphabet) (request : EditRequest) :
    Relation.ReflTransGen Edited alphabet (alphabet.after request) := by
  have bySingle : ∀ {before : Alphabet} {request : EditRequest},
      request ≠ .defineBrackets →
        Relation.ReflTransGen Edited before (before.after request) := by
    intro before request single
    rcases before.after_eq_or_edited single with unchanged | edited
    · rw [unchanged]
    · exact .single edited
  -- The request for both brackets is the only one that can make two changes.
  by_cases single : request = .defineBrackets
  · subst single
    rcases alphabet.after_defineBrackets with first | both
    · rw [first]
      exact bySingle (by simp)
    · rw [both]
      exact (bySingle (by simp)).trans (bySingle (by simp))
  · exact bySingle single

theorem Edited.contains {alphabet next : Alphabet}
    (edited : alphabet.Edited next) {letter : Letter}
    (defined : alphabet.contains letter = true) : next.contains letter = true := by
  cases edited with
  | defined untaken room => exact contains_append defined _
  | ruled found checked => exact contains_replace defined _ _
  | refreshed found => exact contains_replace defined _ _
  | weighted found ruleFound checked => exact contains_replace defined _ _
  | marked found => exact contains_replace defined _ _

theorem Defines.mono {alphabet next : Alphabet} {letters : List Letter}
    (defines : alphabet.Defines letters)
    (stays : ∀ {letter}, alphabet.contains letter = true →
      next.contains letter = true) : next.Defines letters :=
  fun letter listed => stays (defines letter listed)

theorem Defines.after {alphabet : Alphabet} {letters : List Letter}
    (defines : alphabet.Defines letters) (request : EditRequest) :
    (alphabet.after request).Defines letters := by
  have changes := alphabet.edited_after request
  generalize alphabet.after request = next at changes ⊢
  induction changes with
  | refl => exact defines
  | tail _ edited ih => exact ih.mono edited.contains

/-! ## Replacements -/

/-- Every replacement is made of letters that stand for symbols. -/
def Closed (alphabet : Alphabet) : Prop :=
  ∀ ⦃letter symbol⦄, alphabet.find letter = .ok symbol →
    ∀ rule ∈ symbol.rules, alphabet.Defines rule.replacement

theorem defines_of_requireRule {alphabet : Alphabet} {letter : Letter}
    {rule : Rule} (checked : alphabet.requireRule letter rule = .ok ()) :
    alphabet.Defines rule.replacement := by
  rw [← requireLetters_eq_ok_iff]
  exact ((alphabet.requireRule_eq_ok_iff letter rule).mp checked).2

theorem Closed.append {alphabet : Alphabet} (closed : alphabet.Closed)
    (name : String) (action : Action) :
    (alphabet.append (Symbol.ofAction name action)).Closed := by
  intro letter symbol found rule isRule
  rcases find_append_eq_ok found with foundBefore | rfl
  · exact (closed foundBefore rule isRule).mono (contains_append · _)
  · simp [Symbol.ofAction] at isRule

theorem Closed.replace {alphabet : Alphabet} (closed : alphabet.Closed)
    (letter : Letter) {changed : Symbol}
    (changedClosed : ∀ rule ∈ changed.rules, alphabet.Defines rule.replacement) :
    (alphabet.replace letter changed).Closed := by
  intro other symbol found rule isRule
  rcases find_replace_eq_ok found with foundBefore | rfl
  · exact (closed foundBefore rule isRule).mono (contains_replace · _ _)
  · exact (changedClosed rule isRule).mono (contains_replace · _ _)

theorem Reachable.closed {alphabet : Alphabet}
    (reachable : alphabet.Reachable) : alphabet.Closed := by
  apply Reachable.of_kept _ _ reachable
  · intro letter symbol found
    simp [find, Alphabet.empty] at found
  · intro before next _ closed edited
    cases edited with
    | defined untaken room => exact closed.append _ _
    | ruled found checked =>
        apply closed.replace
        intro rule isRule
        exact defines_of_requireRule ((forM_eq_ok_iff _).mp checked rule isRule)
    | refreshed found =>
        have symbolClosed := closed found
        exact closed.replace _ symbolClosed
    | weighted found ruleFound checked =>
        apply closed.replace
        intro rule isRule
        rcases List.mem_or_eq_of_mem_set isRule with isOld | rfl
        · exact closed found rule isOld
        · have isOld := List.mem_of_getElem? ruleFound
          exact fun other listed => closed found _ isOld other listed
    | marked found =>
        have symbolClosed := closed found
        exact closed.replace _ symbolClosed

end GrowthGrammar.Alphabet
