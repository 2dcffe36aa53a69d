import Mathlib.Algebra.GroupWithZero.Nat
import Mathlib.Data.List.Induction
import GrowthGrammar.Proofs.Alphabet.Reachable

/-!
# Names of an alphabet

An alphabet keeps its names in three ways: in the name table, with the symbols in
their places, and as a count.  An edit changes them one after the other, and the
places may have gaps.  In every alphabet that a host can have the three agree and
there is no gap.  So which letter a definition gives, whether a name is still free,
and whether one more name fits in, can be read off the list of symbols alone.
-/

namespace GrowthGrammar.Alphabet

/-- No place is empty, as many symbols are counted and as many names numbered as
there are places, each name has the number of the place of its symbol, and the
bytes of all names are counted. -/
structure WellNamed (alphabet : Alphabet) : Prop where
  filled : none ∉ alphabet.symbols.toList
  size_eq : alphabet.size = alphabet.symbols.size
  count_eq : alphabet.nameTable.count = alphabet.symbols.size
  numberOf_eq_some_iff : ∀ name letter,
    alphabet.nameTable.numberOf name = some letter ↔
      alphabet.names[letter]? = some name
  bytes_eq :
    alphabet.nameTable.bytes = (alphabet.names.map String.utf8ByteSize).sum

/-! ## What can be read off -/

/-- In a list without empty places the entries stand where the places are. -/
theorem map_some_filterMap_id {α : Type} {places : List (Option α)}
    (filled : none ∉ places) : (places.filterMap id).map some = places := by
  induction places with
  | nil => rfl
  | cons place places ih =>
      rw [List.mem_cons, not_or] at filled
      cases place with
      | none => exact absurd rfl filled.1
      | some entry =>
          change some entry :: (places.filterMap id).map some = _
          rw [ih filled.2]

namespace WellNamed

variable {alphabet : Alphabet} (named : alphabet.WellNamed)

include named

theorem getElem?_symbols (letter : Letter) :
    alphabet.symbols[letter]? = alphabet.listed[letter]?.map some := by
  rw [← Array.getElem?_toList, ← map_some_filterMap_id named.filled, listed,
    List.getElem?_map]

theorem find_eq_ok_iff_listed (letter : Letter) (symbol : Symbol) :
    alphabet.find letter = .ok symbol ↔
      alphabet.listed[letter]? = some symbol := by
  rw [find_eq_ok_iff, named.getElem?_symbols]
  simp

theorem length_listed : alphabet.listed.length = alphabet.size := by
  rw [named.size_eq, ← Array.length_toList, ← map_some_filterMap_id named.filled,
    List.length_map, listed]

/-- There are as many names as symbols. -/
theorem length_names : alphabet.names.length = alphabet.size := by
  rw [names, List.length_map, named.length_listed]

theorem getElem?_names_eq_some_iff (letter : Letter) (name : String) :
    alphabet.names[letter]? = some name ↔
      ∃ symbol, alphabet.find letter = .ok symbol ∧ symbol.name = name := by
  simp only [names, List.getElem?_map, Option.map_eq_some_iff,
    named.find_eq_ok_iff_listed]

/-- The letters that stand for symbols are the numbers below the size. -/
theorem contains_iff_lt (letter : Letter) :
    alphabet.contains letter = true ↔ letter < alphabet.size := by
  rw [contains_iff, ← named.length_listed]
  simp only [named.find_eq_ok_iff_listed]
  constructor
  · rintro ⟨symbol, found⟩
    exact (List.getElem?_eq_some_iff.mp found).1
  · intro inside
    exact ⟨_, List.getElem?_eq_getElem inside⟩

/-- The name table and the places agree, so that the look-up finds each name. -/
theorem resolve_eq_numberOf (name : String) :
    alphabet.resolve name = alphabet.nameTable.numberOf name := by
  rw [resolve]
  cases numbered : alphabet.nameTable.numberOf name with
  | none => rfl
  | some letter =>
      have inside := (named.numberOf_eq_some_iff name letter).mp numbered
      rw [named.getElem?_names_eq_some_iff] at inside
      obtain ⟨symbol, found, -⟩ := inside
      exact Option.filter_some_pos (contains_of_find found)

theorem resolve_eq_some_iff (name : String) (letter : Letter) :
    alphabet.resolve name = some letter ↔
      alphabet.names[letter]? = some name := by
  rw [named.resolve_eq_numberOf, named.numberOf_eq_some_iff]

/-- A name is free if no symbol has it. -/
theorem resolve_eq_none {name : String} (unlisted : name ∉ alphabet.names) :
    alphabet.resolve name = none := by
  cases resolved : alphabet.resolve name with
  | none => rfl
  | some letter =>
      rw [named.resolve_eq_some_iff] at resolved
      exact absurd (List.mem_of_getElem? resolved) unlisted

theorem numberOf_eq_none {name : String} (untaken : alphabet.resolve name = none) :
    alphabet.nameTable.numberOf name = none := by
  rw [← named.resolve_eq_numberOf, untaken]

/-- A free name gets the letter behind all others. -/
theorem letterFor_eq {name : String} (untaken : alphabet.resolve name = none) :
    alphabet.letterFor name = alphabet.size := by
  rw [letterFor, NameTable.numberFor_of_new (named.numberOf_eq_none untaken),
    named.count_eq, named.size_eq]

/-- A letter that a definition gives stood for no symbol before. -/
theorem contains_letterFor {name : String} (untaken : alphabet.resolve name = none) :
    alphabet.contains (alphabet.letterFor name) = false := by
  rw [Bool.eq_false_iff, Ne, named.contains_iff_lt, named.letterFor_eq untaken]
  exact Nat.lt_irrefl _

/-- A free name fits in if there are not too many names and bytes. -/
theorem hasRoomFor_eq {name : String} (untaken : alphabet.resolve name = none) :
    alphabet.hasRoomFor name =
      (decide (alphabet.size < NameTable.maxNames) &&
        decide ((alphabet.names.map String.utf8ByteSize).sum +
          name.utf8ByteSize ≤ NameTable.maxBytes)) := by
  rw [hasRoomFor, NameTable.admits, named.numberOf_eq_none untaken,
    named.count_eq, ← named.size_eq, named.bytes_eq]
  simp

end WellNamed

/-! ## Kept by all edits -/

theorem wellNamed_empty : empty.WellNamed :=
  { filled := by simp [empty]
    size_eq := rfl
    count_eq := rfl
    numberOf_eq_some_iff := by simp [names, listed, empty]
    bytes_eq := rfl }

/-- The place behind all others is made. -/
theorem symbols_place_size (alphabet : Alphabet) (symbol : Symbol) :
    (alphabet.place alphabet.symbols.size symbol).symbols =
      alphabet.symbols.push (some symbol) := by
  have one : alphabet.symbols.size + 1 - alphabet.symbols.size = 1 := by omega
  apply Array.toList_inj.mp
  simp [place, one]

section Append

variable {alphabet : Alphabet} (named : alphabet.WellNamed) {symbol : Symbol}
  (untaken : alphabet.resolve symbol.name = none)

include named untaken

theorem WellNamed.symbols_append :
    (alphabet.append symbol).symbols = alphabet.symbols.push (some symbol) := by
  rw [← symbols_place_size, ← named.size_eq, ← named.letterFor_eq untaken]
  rfl

theorem WellNamed.append_eq :
    alphabet.append symbol =
      { nameTable := alphabet.nameTable.add symbol.name
        symbols := alphabet.symbols.push (some symbol)
        size := alphabet.size + 1 } := by
  rw [← named.symbols_append untaken,
    ← NameTable.enter_of_new (named.numberOf_eq_none untaken)]
  rfl

theorem WellNamed.listed_append :
    (alphabet.append symbol).listed = alphabet.listed ++ [symbol] := by
  simp [listed, named.symbols_append untaken]

theorem WellNamed.names_append :
    (alphabet.append symbol).names = alphabet.names ++ [symbol.name] := by
  rw [names, named.listed_append untaken, List.map_append]
  rfl

omit named untaken in
theorem getElem?_concat_eq_some_iff {names : List String} {last name : String}
    {letter : Letter} : (names ++ [last])[letter]? = some name ↔
      names[letter]? = some name ∨ letter = names.length ∧ last = name := by
  rcases Nat.lt_trichotomy letter names.length with inside | rfl | outside
  · simp [List.getElem?_append_left inside, Nat.ne_of_lt inside]
  · simp
  · have beyond : (names ++ [last]).length ≤ letter := by
      rw [List.length_append]
      exact outside
    simp [List.getElem?_eq_none beyond, List.getElem?_eq_none (Nat.le_of_lt outside),
      Nat.ne_of_gt outside]

/-- The new name gets the place behind all others. -/
theorem WellNamed.numberOf_append (name : String) (letter : Letter) :
    (alphabet.append symbol).nameTable.numberOf name = some letter ↔
      (alphabet.append symbol).names[letter]? = some name := by
  have unlisted : symbol.name ∉ alphabet.names := by
    intro isListed
    obtain ⟨letter, there⟩ := List.mem_iff_getElem?.mp isListed
    rw [← named.resolve_eq_some_iff, untaken] at there
    contradiction
  have next : alphabet.nameTable.numberFor symbol.name = alphabet.names.length := by
    rw [named.length_names]
    exact named.letterFor_eq untaken
  change (alphabet.nameTable.enter symbol.name).numberOf name = _ ↔ _
  rw [NameTable.numberOf_enter, next, named.names_append untaken,
    getElem?_concat_eq_some_iff]
  by_cases same : symbol.name = name
  · subst same
    have outside : alphabet.names[letter]? ≠ some symbol.name :=
      fun there => unlisted (List.mem_of_getElem? there)
    simp [outside, eq_comm]
  · simp [same, named.numberOf_eq_some_iff]

theorem WellNamed.append : (alphabet.append symbol).WellNamed :=
  { filled := by
      rw [named.symbols_append untaken]
      simpa using named.filled
    size_eq := by
      rw [named.symbols_append untaken, size_append, named.size_eq,
        Array.size_push]
    count_eq := by
      change (alphabet.nameTable.enter symbol.name).count = _
      rw [NameTable.enter_of_new (named.numberOf_eq_none untaken),
        named.symbols_append untaken, Array.size_push, ← named.count_eq]
      rfl
    numberOf_eq_some_iff := named.numberOf_append untaken
    bytes_eq := by
      change (alphabet.nameTable.enter symbol.name).bytes = _
      rw [NameTable.enter_of_new (named.numberOf_eq_none untaken),
        named.names_append untaken, List.map_append, List.sum_append,
        ← named.bytes_eq]
      simp [NameTable.add] }

end Append

/-- A symbol is exchanged for one of the same name. -/
theorem names_replace {alphabet : Alphabet} {letter : Letter}
    {symbol changed : Symbol} (found : alphabet.find letter = .ok symbol)
    (sameName : changed.name = symbol.name) :
    (alphabet.replace letter changed).names = alphabet.names := by
  have namesAre : ∀ alphabet : Alphabet, alphabet.names =
      (alphabet.symbols.toList.map (Option.map Symbol.name)).filterMap id := by
    intro alphabet
    simp [names, listed, List.map_filterMap, List.filterMap_map]
  rw [find_eq_ok_iff, ← Array.getElem?_toList] at found
  have listed : (alphabet.symbols.toList.map (Option.map Symbol.name))[letter]? =
      some (some symbol.name) := by
    rw [List.getElem?_map, found]
    rfl
  obtain ⟨inside, nameIs⟩ := List.getElem?_eq_some_iff.mp listed
  rw [namesAre, namesAre, replace, Array.toList_setIfInBounds, List.map_set,
    Option.map_some, sameName, ← nameIs, List.set_getElem_self]

theorem WellNamed.replace {alphabet : Alphabet} (named : alphabet.WellNamed)
    {letter : Letter} {symbol changed : Symbol}
    (found : alphabet.find letter = .ok symbol)
    (sameName : changed.name = symbol.name) :
    (alphabet.replace letter changed).WellNamed := by
  have names := names_replace found sameName
  have places : (alphabet.replace letter changed).symbols.size =
      alphabet.symbols.size := Array.size_setIfInBounds
  exact
    { filled := by
        intro empty
        rw [Alphabet.replace, Array.toList_setIfInBounds] at empty
        rcases List.mem_or_eq_of_mem_set empty with before | now
        · exact named.filled before
        · contradiction
      size_eq := named.size_eq.trans places.symm
      count_eq := named.count_eq.trans places.symm
      numberOf_eq_some_iff := names ▸ named.numberOf_eq_some_iff
      bytes_eq := names ▸ named.bytes_eq }

theorem WellNamed.edited {alphabet next : Alphabet} (named : alphabet.WellNamed)
    (edited : alphabet.Edited next) : next.WellNamed := by
  cases edited with
  | defined untaken room => exact named.append untaken
  | ruled found checked => exact named.replace found rfl
  | refreshed found => exact named.replace found rfl
  | weighted found ruleFound checked => exact named.replace found rfl
  | marked found => exact named.replace found rfl

theorem Reachable.wellNamed {alphabet : Alphabet}
    (reachable : alphabet.Reachable) : alphabet.WellNamed :=
  reachable.of_kept wellNamed_empty fun _ named edited => named.edited edited

theorem WellNamed.runFrom_define {alphabet : Alphabet}
    (named : alphabet.WellNamed) {name : String} (unlisted : name ∉ alphabet.names)
    (few : alphabet.size < NameTable.maxNames)
    (short : (alphabet.names.map String.utf8ByteSize).sum + name.utf8ByteSize ≤
      NameTable.maxBytes) (action : Action) :
    runFrom alphabet (Edit.define name action) =
      (.ok alphabet.size, alphabet.append (Symbol.ofAction name action)) := by
  have untaken := named.resolve_eq_none unlisted
  have room : alphabet.hasRoomFor name = true := by
    rw [named.hasRoomFor_eq untaken]
    simp [few, short]
  rw [Edit.runFrom_define_of_room untaken room, named.letterFor_eq untaken]

/-! ## Symbols added one after the other -/

/-- Symbols of different names that are added to the empty alphabet stand in their
order. -/
theorem foldl_append_empty {symbols : List Symbol}
    (distinct : (symbols.map Symbol.name).Nodup) :
    (symbols.foldl append empty).WellNamed ∧
      symbols.foldl append empty =
        { nameTable := (symbols.map Symbol.name).foldl NameTable.add NameTable.empty
          symbols := (symbols.map some).toArray
          size := symbols.length } := by
  induction symbols using List.reverseRecOn with
  | nil => exact ⟨wellNamed_empty, rfl⟩
  | append_singleton symbols added ih =>
      rw [List.map_append, List.map_singleton, List.nodup_append] at distinct
      obtain ⟨earlier, -, apart⟩ := distinct
      have unlisted : added.name ∉ symbols.map Symbol.name :=
        fun isListed => apart _ isListed _ List.mem_cons_self rfl
      obtain ⟨named, isSo⟩ := ih earlier
      have untaken : (symbols.foldl append empty).resolve added.name = none := by
        apply named.resolve_eq_none
        rw [isSo]
        simpa [names, listed] using unlisted
      rw [List.foldl_append, List.foldl_cons, List.foldl_nil]
      refine ⟨named.append untaken, ?_⟩
      rw [named.append_eq untaken, isSo]
      simp

section Brackets

variable {symbol : Symbol} (distinct : [symbol.name, "[", "]"].Nodup)

include distinct

theorem append_brackets_eq :
    ((empty.append symbol).append (Symbol.ofAction "[" Act.save)).append
        (Symbol.ofAction "]" Act.restore) =
      { nameTable := ((NameTable.empty.add symbol.name).add "[").add "]"
        symbols := #[some symbol, some (Symbol.ofAction "[" Act.save),
          some (Symbol.ofAction "]" Act.restore)]
        size := 3 } :=
  (@foldl_append_empty
    [symbol, Symbol.ofAction "[" Act.save, Symbol.ofAction "]" Act.restore]
    distinct).2

/-- The brackets get the two letters behind that of the symbol. -/
theorem runFrom_defineBrackets_of_append_empty
    (short : symbol.name.utf8ByteSize + 2 ≤ NameTable.maxBytes) :
    runFrom (empty.append symbol) Edit.defineBrackets =
      (.ok (1, 2),
        ((empty.append symbol).append (Symbol.ofAction "[" Act.save)).append
          (Symbol.ofAction "]" Act.restore)) := by
  obtain ⟨named, alone⟩ := @foldl_append_empty [symbol] (by simp)
  obtain ⟨openedNamed, opened⟩ :=
    @foldl_append_empty [symbol, Symbol.ofAction "[" Act.save]
      (distinct.sublist (by simp [Symbol.ofAction]))
  simp only [List.foldl_cons, List.foldl_nil] at named alone openedNamed opened
  have names : (empty.append symbol).names = [symbol.name] := by
    rw [alone]
    rfl
  have openedNames :
      ((empty.append symbol).append (Symbol.ofAction "[" Act.save)).names =
        [symbol.name, "["] := by
    rw [opened]
    rfl
  have apart : symbol.name ≠ "[" ∧ symbol.name ≠ "]" := by
    simpa using distinct
  have unopened : "[" ∉ (empty.append symbol).names := by
    rw [names]
    simpa [eq_comm] using apart.1
  have unclosed :
      "]" ∉ ((empty.append symbol).append (Symbol.ofAction "[" Act.save)).names := by
    rw [openedNames]
    simpa [eq_comm] using apart.2
  rw [Edit.runFrom_defineBrackets,
    named.runFrom_define unopened (by simp [empty, NameTable.maxNames])
      (by rw [names]; exact Nat.le_of_succ_le short)]
  simp only
  rw [openedNamed.runFrom_define unclosed (by simp [empty, NameTable.maxNames])
      (by rw [openedNames]; exact short)]
  rfl

end Brackets

end GrowthGrammar.Alphabet
