import GrowthGrammar.Alphabet.Basic
import GrowthGrammar.Proofs.Fallible

/-!
# What edits do

Each edit of an alphabet ends in one of a few ways.  The laws of this module say
for every edit when it fails, with which error, and which alphabet it leaves.
-/

namespace GrowthGrammar

namespace Alphabet

theorem find_eq_ok_iff (alphabet : Alphabet) (letter : Letter)
    (symbol : Symbol) :
    alphabet.find letter = .ok symbol ↔
      alphabet.symbols[letter]? = some (some symbol) := by
  rw [find, ← Option.join_eq_some_iff]
  cases alphabet.symbols[letter]?.join <;> simp

/-- Only letters that stand for no symbol are not found. -/
theorem find_eq_error_iff (alphabet : Alphabet) (letter : Letter)
    (error : GrowthError) :
    alphabet.find letter = .error error ↔
      alphabet.contains letter = false ∧ error = .noSuchSymbol letter := by
  rw [find, contains]
  cases alphabet.symbols[letter]?.join <;> simp [eq_comm]

theorem contains_iff (alphabet : Alphabet) (letter : Letter) :
    alphabet.contains letter = true ↔
      ∃ symbol, alphabet.find letter = .ok symbol := by
  rw [find, contains]
  cases alphabet.symbols[letter]?.join <;> simp

theorem contains_of_find {alphabet : Alphabet} {letter : Letter} {symbol : Symbol}
    (found : alphabet.find letter = .ok symbol) :
    alphabet.contains letter = true :=
  (alphabet.contains_iff letter).mpr ⟨symbol, found⟩

theorem exists_find_of_contains {alphabet : Alphabet} {letter : Letter}
    (defined : alphabet.contains letter) :
    ∃ symbol, alphabet.find letter = .ok symbol :=
  (alphabet.contains_iff letter).mp defined

theorem join_getElem?_place (alphabet : Alphabet) (letter : Letter)
    (symbol : Symbol) (other : Letter) :
    (alphabet.place letter symbol).symbols[other]?.join =
      if other = letter then some symbol else alphabet.symbols[other]?.join := by
  unfold place
  simp only [Array.getElem?_setIfInBounds, Array.size_append,
    Array.size_replicate, Array.getElem?_append, Array.getElem?_replicate]
  by_cases same : other = letter
  · subst same
    rw [if_pos rfl, if_pos (by omega), if_pos rfl]
    rfl
  · rw [if_neg (Ne.symm same), if_neg same]
    by_cases inside : other < alphabet.symbols.size
    · rw [if_pos inside]
    · -- A place that was made is as empty as one that is not there.
      rw [if_neg inside,
        Array.getElem?_eq_none (Nat.le_of_not_lt inside)]
      split <;> rfl

/-- Putting a symbol into a place changes no other place. -/
theorem find_place (alphabet : Alphabet) (letter : Letter) (symbol : Symbol)
    (other : Letter) :
    (alphabet.place letter symbol).find other =
      if other = letter then .ok symbol else alphabet.find other := by
  rw [find, find, join_getElem?_place]
  by_cases same : other = letter
  · rw [if_pos same, if_pos same]
  · rw [if_neg same, if_neg same]

/-- A symbol is added in the place of its name and nowhere else. -/
theorem find_append (alphabet : Alphabet) (symbol : Symbol) (letter : Letter) :
    (alphabet.append symbol).find letter =
      if letter = alphabet.letterFor symbol.name then .ok symbol
      else alphabet.find letter :=
  alphabet.find_place _ symbol letter

theorem find_replace_self {alphabet : Alphabet} {letter : Letter}
    {found : Symbol} (symbolFound : alphabet.find letter = .ok found)
    (symbol : Symbol) :
    (alphabet.replace letter symbol).find letter = .ok symbol := by
  rw [find_eq_ok_iff] at symbolFound ⊢
  have inside := (Array.getElem?_eq_some_iff.mp symbolFound).1
  simp [replace, inside]

/-- A rule passes if its weight and its replacement do. -/
theorem requireRule_eq_ok_iff (alphabet : Alphabet) (letter : Letter)
    (rule : Rule) :
    alphabet.requireRule letter rule = .ok () ↔
      alphabet.requireWeight letter rule.weight = .ok () ∧
        alphabet.requireLetters rule.replacement = .ok () := by
  rw [requireRule]
  cases alphabet.requireWeight letter rule.weight <;> simp [bind, Except.bind]

@[simp]
theorem resolve_empty (name : String) : empty.resolve name = none := by
  simp [resolve, empty]

/-- A name that is added resolves to its letter, and all others as before. -/
theorem resolve_append (alphabet : Alphabet) (symbol : Symbol)
    (name : String) :
    (alphabet.append symbol).resolve name =
      if symbol.name = name then some (alphabet.letterFor symbol.name)
      else alphabet.resolve name := by
  have contained : ∀ letter, (alphabet.append symbol).contains letter = true ↔
      letter = alphabet.letterFor symbol.name ∨ alphabet.contains letter = true := by
    intro letter
    rw [contains_iff, contains_iff, find_append]
    by_cases new : letter = alphabet.letterFor symbol.name <;> simp [new]
  rw [resolve, resolve]
  change ((alphabet.nameTable.enter symbol.name).numberOf name).filter _ = _
  rw [NameTable.numberOf_enter]
  by_cases same : symbol.name = name
  · rw [if_pos same, if_pos same]
    exact Option.filter_some_pos ((contained _).mpr (Or.inl rfl))
  · rw [if_neg same, if_neg same]
    cases numbered : alphabet.nameTable.numberOf name with
    | none => rfl
    | some letter =>
        have other : letter ≠ alphabet.letterFor symbol.name :=
          NameTable.ne_numberFor_of_numberOf same numbered
        have unchanged : (alphabet.append symbol).contains letter =
            alphabet.contains letter := by
          rw [Bool.eq_iff_iff, contained]
          simp [other]
        simp only [Option.filter, unchanged]

@[simp]
theorem replace_replace (alphabet : Alphabet) (letter : Letter)
    (first second : Symbol) :
    (alphabet.replace letter first).replace letter second =
      alphabet.replace letter second := by
  simp [replace]

end Alphabet

namespace Edit

variable (alphabet : Alphabet)

@[simp]
theorem runFrom_inspect {α : Type} (look : Alphabet → Except GrowthError α) :
    runFrom alphabet (inspect look) = (look alphabet, alphabet) := by
  rw [inspect, runFrom_bind]
  simp only [runFrom_get]
  cases look alphabet <;> rfl

@[simp]
theorem runFrom_replace (letter : Letter) (symbol : Symbol) :
    runFrom alphabet (replace letter symbol) =
      (.ok (), alphabet.replace letter symbol) :=
  rfl

/-- A name that the table does not take up changes nothing. -/
theorem runFrom_intern (name : String) :
    runFrom alphabet (intern name) =
      if alphabet.hasRoomFor name then
        (.ok (alphabet.letterFor name),
          { alphabet with nameTable := alphabet.nameTable.enter name })
      else
        (.error .alphabetFull, alphabet) := by
  rw [intern, runFrom_bind]
  by_cases room : alphabet.hasRoomFor name
  · rw [if_pos room]
    simp [room]
    rfl
  · rw [if_neg room]
    simp [room]

theorem runFrom_define (name : String) (action : Action) :
    runFrom alphabet (define name action) =
      if (alphabet.resolve name).isSome then
        (.error (.nameTaken name), alphabet)
      else if alphabet.hasRoomFor name then
        (.ok (alphabet.letterFor name),
          alphabet.append (Symbol.ofAction name action))
      else
        (.error .alphabetFull, alphabet) := by
  rw [define, runFrom_bind]
  by_cases taken : (alphabet.resolve name).isSome
  · simp [taken]
  · simp only [runFrom_get, taken]
    by_cases room : alphabet.hasRoomFor name
    · rw [if_pos room]
      simp [runFrom_bind, runFrom_intern, room, Except.map]
      rfl
    · rw [if_neg room]
      simp [runFrom_bind, runFrom_intern, room]

theorem runFrom_define_of_room {alphabet : Alphabet} {name : String}
    (untaken : alphabet.resolve name = none)
    (room : alphabet.hasRoomFor name = true) (action : Action) :
    runFrom alphabet (define name action) =
      (.ok (alphabet.letterFor name),
        alphabet.append (Symbol.ofAction name action)) := by
  simp [runFrom_define, untaken, room]

theorem of_define_eq_ok {alphabet next : Alphabet} {name : String}
    {action : Action} {letter : Letter}
    (defined : runFrom alphabet (define name action) = (.ok letter, next)) :
    alphabet.resolve name = none ∧ letter = alphabet.letterFor name ∧
      next = alphabet.append (Symbol.ofAction name action) := by
  rw [runFrom_define] at defined
  split at defined
  · cases defined
  · next untaken =>
      split at defined
      · cases defined
        exact ⟨by simpa using untaken, rfl, rfl⟩
      · cases defined

/-- The second bracket is defined only after the first. -/
theorem runFrom_defineBrackets :
    runFrom alphabet defineBrackets =
      match runFrom alphabet (define "[" Act.save) with
      | (.error error, next) => (.error error, next)
      | (.ok opening, next) =>
          match runFrom next (define "]" Act.restore) with
          | (.error error, final) => (.error error, final)
          | (.ok closing, final) => (.ok (opening, closing), final) := by
  rw [defineBrackets, runFrom_bind]
  rcases runFrom alphabet (define "[" Act.save) with ⟨_ | opening, next⟩
  · rfl
  · simp only [runFrom_bind]
    rcases runFrom next (define "]" Act.restore) with ⟨_ | closing, final⟩ <;>
      rfl

theorem runFrom_refresh (letter : Letter) :
    runFrom alphabet (refresh letter) =
      match alphabet.find letter with
      | .error error => (.error error, alphabet)
      | .ok symbol =>
          (if symbol.isWeightless then .error (.weightlessRules symbol.name)
            else .ok (),
            alphabet.replace letter symbol.refreshed) := by
  rw [refresh, runFrom_bind, runFrom_inspect]
  cases alphabet.find letter with
  | error error => rfl
  | ok symbol =>
      simp only [runFrom_bind, runFrom_replace]
      by_cases weightless : symbol.isWeightless <;> simp [weightless]

/-- The rules are checked one after another, and nothing is changed before all
of them have passed. -/
theorem runFrom_requireRules (letter : Letter) (rules : List Rule) :
    runFrom alphabet
        (rules.forM fun rule => inspect (·.requireRule letter rule)) =
      (rules.forM (alphabet.requireRule letter), alphabet) := by
  simp only [List.forM_eq_forM]
  induction rules with
  | nil => rfl
  | cons rule rules ih =>
      rw [List.forM_cons, List.forM_cons, runFrom_bind, runFrom_inspect]
      cases alphabet.requireRule letter rule with
      | error error => rfl
      | ok checked => exact ih

theorem runFrom_setRules (letter : Letter) (rules : List Rule) :
    runFrom alphabet (setRules letter rules) =
      match rules.forM (alphabet.requireRule letter), alphabet.find letter with
      | .error error, _ => (.error error, alphabet)
      | .ok _, .error error => (.error error, alphabet)
      | .ok _, .ok symbol =>
          let changed := { symbol with rules := rules }
          (if changed.isWeightless then .error (.weightlessRules symbol.name)
            else .ok (),
            alphabet.replace letter changed.refreshed) := by
  rw [setRules, runFrom_bind, runFrom_requireRules]
  cases rules.forM (alphabet.requireRule letter) with
  | error error => rfl
  | ok checked =>
      simp only [runFrom_bind, runFrom_inspect]
      cases symbolFound : alphabet.find letter with
      | error error => rfl
      | ok symbol =>
          simp only [runFrom_replace, runFrom_refresh,
            Alphabet.find_replace_self symbolFound, Alphabet.replace_replace]

theorem runFrom_setWeight (letter : Letter) (index : Nat) (weight : Float) :
    runFrom alphabet (setWeight letter index weight) =
      match alphabet.requireWeight letter weight, alphabet.find letter with
      | .error error, _ => (.error error, alphabet)
      | .ok _, .error error => (.error error, alphabet)
      | .ok _, .ok symbol =>
          match symbol.rules[index]? with
          | none => (.error (.missingRule symbol.name index), alphabet)
          | some rule =>
              (.ok (), alphabet.replace letter
                { symbol with
                  rules :=
                    symbol.rules.set index { rule with weight := weight } }) := by
  rw [setWeight]
  simp only [runFrom_bind, runFrom_inspect]
  cases alphabet.requireWeight letter weight with
  | error error => rfl
  | ok checked =>
      simp only
      cases alphabet.find letter with
      | error error => rfl
      | ok symbol =>
          simp only
          cases symbol.rules[index]? <;> rfl

theorem runFrom_setFixed (letter : Letter) (fixed : Bool) :
    runFrom alphabet (setFixed letter fixed) =
      match alphabet.find letter with
      | .error error => (.error error, alphabet)
      | .ok symbol =>
          (.ok (), alphabet.replace letter { symbol with fixed := fixed }) := by
  rw [setFixed]
  simp only [runFrom_bind, runFrom_inspect]
  cases alphabet.find letter <;> rfl

end Edit

end GrowthGrammar
