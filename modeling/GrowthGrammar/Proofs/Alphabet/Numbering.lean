import Mathlib.Data.List.Nodup
import GrowthGrammar.Proofs.Alphabet.Atomicity
import GrowthGrammar.Proofs.Alphabet.Closure
import GrowthGrammar.Proofs.Alphabet.Freshness
import GrowthGrammar.Proofs.Alphabet.Naming

/-!
# The numbering of symbols

Letters number the symbols of an alphabet without a gap, in the order in which they
were defined, and every symbol has a name of its own.  So letters and names stand for
each other, and they do so for good: no edit takes a name away or moves it, also none
that fails.
-/

namespace GrowthGrammar.Alphabet

/-- No two symbols share a name, since the look-up finds only one letter for it. -/
theorem WellNamed.nodup_names {alphabet : Alphabet} (named : alphabet.WellNamed) :
    alphabet.names.Nodup := by
  rw [List.nodup_iff_getElem?_ne_getElem?]
  intro first second before inside same
  have listed := List.getElem?_eq_getElem inside
  have secondFound := (named.resolve_eq_some_iff _ second).mpr listed
  have firstFound := (named.resolve_eq_some_iff _ first).mpr (same.trans listed)
  rw [firstFound, Option.some.injEq] at secondFound
  exact absurd secondFound (Nat.ne_of_lt before)

/-- A name that is taken is listed. -/
theorem WellNamed.isSome_resolve_iff {alphabet : Alphabet}
    (named : alphabet.WellNamed) (name : String) :
    (alphabet.resolve name).isSome = true ↔ name ∈ alphabet.names := by
  constructor
  · intro taken
    obtain ⟨letter, resolved⟩ := Option.isSome_iff_exists.mp taken
    exact List.mem_of_getElem? ((named.resolve_eq_some_iff name letter).mp resolved)
  · intro listed
    obtain ⟨letter, listedThere⟩ := List.mem_iff_getElem?.mp listed
    rw [(named.resolve_eq_some_iff name letter).mpr listedThere]
    rfl

/-- A definition is refused for its name exactly if the name is listed. -/
theorem WellNamed.define_nameTaken_iff {alphabet : Alphabet}
    (named : alphabet.WellNamed) (name : String) (action : Action) :
    (runFrom alphabet (Edit.define name action)).1 = .error (.nameTaken name) ↔
      name ∈ alphabet.names := by
  rw [← named.isSome_resolve_iff, Edit.runFrom_define]
  by_cases taken : (alphabet.resolve name).isSome
  · simp [taken]
  · by_cases room : alphabet.hasRoomFor name <;> simp [taken, room]

/-! ## Names stay -/

theorem names_prefix_replace {alphabet : Alphabet} {letter : Letter}
    {symbol changed : Symbol} (found : alphabet.find letter = .ok symbol)
    (sameName : changed.name = symbol.name) :
    alphabet.names <+: (alphabet.replace letter changed).names :=
  (names_replace found sameName).symm ▸ List.prefix_refl _

theorem WellNamed.names_prefix_of_edited {alphabet next : Alphabet}
    (named : alphabet.WellNamed) (edited : alphabet.Edited next) :
    alphabet.names <+: next.names := by
  cases edited with
  | defined untaken room =>
      rw [named.names_append untaken]
      exact List.prefix_append _ _
  | ruled found checked => exact names_prefix_replace found rfl
  | refreshed found => exact names_prefix_replace found rfl
  | weighted found ruleFound checked => exact names_prefix_replace found rfl
  | marked found => exact names_prefix_replace found rfl

/-- A request takes no name away and moves none, whether it fails or not. -/
theorem Reachable.names_prefix_after {alphabet : Alphabet}
    (reachable : alphabet.Reachable) (request : EditRequest) :
    alphabet.names <+: (alphabet.after request).names := by
  have changes := alphabet.edited_after request
  generalize alphabet.after request = next at changes ⊢
  have kept : next.WellNamed ∧ alphabet.names <+: next.names := by
    induction changes with
    | refl => exact ⟨reachable.wellNamed, List.prefix_refl _⟩
    | tail _ edited ih =>
        exact ⟨ih.1.edited edited, ih.2.trans (ih.1.names_prefix_of_edited edited)⟩
  exact kept.2

theorem Reachable.names_prefix_afterAll {alphabet : Alphabet}
    (reachable : alphabet.Reachable) (requests : List EditRequest) :
    alphabet.names <+: (alphabet.afterAll requests).names := by
  induction requests generalizing alphabet with
  | nil => exact List.prefix_refl _
  | cons request requests ih =>
      exact (reachable.names_prefix_after request).trans (ih (reachable.edit request))

/-- Whatever requests have built an alphabet, and whether they have failed or not, there
are as many places as symbols are counted and names are numbered, and none is empty: the
letters that stand for symbols are the numbers below the size.  The names are those of
the symbols in this order, each listed once.  A name has the number of a letter, and
resolves to it, exactly if the symbol of the letter has this name.  A definition appends
its name and gives the next letter, and it is refused for its name exactly if the name is
listed.  Later requests leave all names where they are. -/
theorem letters_number_names (requests : List EditRequest) :
    let alphabet := empty.afterAll requests
    alphabet.symbols.size = alphabet.size ∧
    alphabet.nameTable.count = alphabet.size ∧
    (∀ letter,
      (∃ symbol, alphabet.find letter = .ok symbol) ↔ letter < alphabet.size) ∧
    alphabet.names.length = alphabet.size ∧
    (∀ letter name, alphabet.names[letter]? = some name ↔
      ∃ symbol, alphabet.find letter = .ok symbol ∧ symbol.name = name) ∧
    alphabet.names.Nodup ∧
    (∀ name letter, alphabet.nameTable.numberOf name = some letter ↔
      ∃ symbol, alphabet.find letter = .ok symbol ∧ symbol.name = name) ∧
    (∀ name letter, alphabet.resolve name = some letter ↔
      ∃ symbol, alphabet.find letter = .ok symbol ∧ symbol.name = name) ∧
    (∀ name action letter next,
      runFrom alphabet (Edit.define name action) = (.ok letter, next) →
        letter = alphabet.size ∧ next.names = alphabet.names ++ [name]) ∧
    (∀ name action,
      (runFrom alphabet (Edit.define name action)).1 = .error (.nameTaken name) ↔
        name ∈ alphabet.names) ∧
    ∀ later, alphabet.names <+: (alphabet.afterAll later).names := by
  intro alphabet
  have reachable : alphabet.Reachable := Reachable.empty.afterAll requests
  have named := reachable.wellNamed
  refine ⟨named.size_eq.symm, named.count_eq.trans named.size_eq.symm, ?_,
    named.length_names, named.getElem?_names_eq_some_iff, named.nodup_names, ?_, ?_, ?_,
    named.define_nameTaken_iff, reachable.names_prefix_afterAll⟩
  · intro letter
    rw [← contains_iff, named.contains_iff_lt]
  · intro name letter
    rw [named.numberOf_eq_some_iff, named.getElem?_names_eq_some_iff]
  · intro name letter
    rw [named.resolve_eq_some_iff, named.getElem?_names_eq_some_iff]
  · intro name action letter next defined
    obtain ⟨untaken, rfl, rfl⟩ := Edit.of_define_eq_ok defined
    exact ⟨named.letterFor_eq untaken, named.names_append untaken⟩

/-- A closing bracket that is there already refuses the request for both brackets.  The
opening one is then numbered behind it, and is found by its name. -/
theorem letters_after_refused_brackets :
    let alphabet := empty.afterAll [.defineBare "]", .defineBrackets]
    alphabet.names = ["]", "["] ∧ alphabet.resolve "[" = some 1 ∧
      (∃ symbol, alphabet.find 1 = .ok symbol ∧ symbol.name = "[") ∧
      (runFrom alphabet (Edit.define "[" Act.skip)).1 = .error (.nameTaken "[") := by
  intro alphabet
  have first : empty.after (.defineBare "]") =
      empty.append (Symbol.ofAction "]" Act.skip) :=
    after_defineBare_empty rfl
  have untaken : (empty.after (.defineBare "]")).resolve "[" = none := by
    simp [first, resolve_append, Symbol.ofAction]
  have admitted : (empty.after (.defineBare "]")).AdmitsOpening :=
    ⟨untaken, by rw [first, append_empty]; rfl⟩
  have taken : ((empty.after (.defineBare "]")).resolve "]").isSome := by
    simp [first, resolve_append, Symbol.ofAction]
  have alphabetIs : alphabet =
      (empty.after (.defineBare "]")).append openingBracket := by
    change (empty.after (.defineBare "]")).after .defineBrackets = _
    rw [after, runFrom_brackets_of_admitsOpening admitted]
    simp [taken]
  have names : alphabet.names = ["]", "["] := by
    have named := (Reachable.empty.edit (.defineBare "]")).wellNamed
    rw [alphabetIs, named.names_append untaken, first, append_empty]
    rfl
  obtain ⟨_, _, _, _, listed, _, _, resolved, _, refused, _⟩ :=
    letters_number_names [.defineBare "]", .defineBrackets]
  have opening := (listed 1 "[").mp (by
    change alphabet.names[1]? = some "["
    rw [names]
    rfl)
  refine ⟨names, (resolved "[" 1).mpr opening, opening, (refused "[" Act.skip).mpr ?_⟩
  change "[" ∈ alphabet.names
  simp [names]

end GrowthGrammar.Alphabet
