import Std.Data.HashMap

/-!
# Name tables

A name table numbers names from zero in the order in which they are entered.  A
name keeps its number for good, no two names have the same, and a name that is
entered again is found again.  A table admits a limited number of names and of
bytes.
-/

namespace GrowthGrammar

/-- A table that numbers names. -/
structure NameTable where
  /-- The number of each name. -/
  numbers : Std.HashMap String Nat
  /-- How many names there are, and so the number of the next one. -/
  count : Nat
  /-- The number of bytes that all names take up in UTF-8. -/
  bytes : Nat
  number_lt : ∀ {name : String} {number : Nat},
    numbers[name]? = some number → number < count
  number_unique : ∀ {first second : String} {number : Nat},
    numbers[first]? = some number → numbers[second]? = some number →
      first = second

namespace NameTable

/-- The greatest number of names. -/
def maxNames : Nat :=
  65535

/-- The greatest number of bytes that all names may take up. -/
def maxBytes : Nat :=
  10485760

/-- The table without names. -/
def empty : NameTable :=
  { numbers := ∅
    count := 0
    bytes := 0
    number_lt := by simp
    number_unique := by simp }

/-- The number of a name, if it is in the table. -/
def numberOf (table : NameTable) (name : String) : Option Nat :=
  table.numbers[name]?

/-- The number that a name has, or gets when it is entered. -/
def numberFor (table : NameTable) (name : String) : Nat :=
  (table.numberOf name).getD table.count

/-- The table with one more name. -/
def add (table : NameTable) (name : String) : NameTable :=
  { numbers := table.numbers.insert name table.count
    count := table.count + 1
    bytes := table.bytes + name.utf8ByteSize
    number_lt := by
      intro other number found
      rw [Std.HashMap.getElem?_insert] at found
      split at found
      · cases found
        exact Nat.lt_succ_self _
      · exact Nat.lt_succ_of_lt (table.number_lt found)
    number_unique := by
      intro first second number firstFound secondFound
      rw [Std.HashMap.getElem?_insert] at firstFound secondFound
      -- The number of the new name is greater than those of all others.
      split at firstFound <;> split at secondFound
      · simp_all
      · cases firstFound
        exact absurd (table.number_lt secondFound) (Nat.lt_irrefl _)
      · cases secondFound
        exact absurd (table.number_lt firstFound) (Nat.lt_irrefl _)
      · exact table.number_unique firstFound secondFound }

/-- The table with a name entered. -/
def enter (table : NameTable) (name : String) : NameTable :=
  match table.numberOf name with
  | some _ => table
  | none => table.add name

/-- Whether a name is in the table or one more name fits in. -/
def admits (table : NameTable) (name : String) : Bool :=
  (table.count < maxNames &&
      table.bytes + name.utf8ByteSize ≤ maxBytes) ||
    (table.numberOf name).isSome

/-! ## Laws of numbering -/

variable (table : NameTable)

@[simp]
theorem numberOf_empty (name : String) : empty.numberOf name = none := by
  simp [numberOf, empty]

variable {table} in
/-- A new name gets the next number. -/
theorem numberFor_of_new {name : String} (new : table.numberOf name = none) :
    table.numberFor name = table.count := by
  rw [numberFor, new]
  rfl

variable {table} in
theorem enter_of_new {name : String} (new : table.numberOf name = none) :
    table.enter name = table.add name := by
  rw [enter, new]

/-- Entering a name gives it its number and leaves all others. -/
theorem numberOf_enter (name other : String) :
    (table.enter name).numberOf other =
      if name = other then some (table.numberFor name)
      else table.numberOf other := by
  cases known : table.numberOf name with
  | some number =>
      have same : table.enter name = table := by rw [enter, known]
      rw [same, numberFor, known]
      split
      · next isName => rw [← isName, known]; rfl
      · rfl
  | none =>
      rw [enter_of_new known, numberFor_of_new known]
      simp [numberOf, add, Std.HashMap.getElem?_insert]

variable {table} in
/-- The number of a name is that of no other. -/
theorem ne_numberFor_of_numberOf {name other : String} {number : Nat}
    (different : name ≠ other) (found : table.numberOf other = some number) :
    number ≠ table.numberFor name := by
  rintro rfl
  cases known : table.numberOf name with
  | some number =>
      rw [numberFor, known] at found
      exact different (table.number_unique known found)
  | none =>
      rw [numberFor_of_new known] at found
      exact absurd (table.number_lt found) (Nat.lt_irrefl _)

/-- Different names get different numbers. -/
theorem numberFor_enter_ne {first second : String} (different : first ≠ second) :
    (table.enter first).numberFor second ≠ table.numberFor first := by
  have entered : (table.enter first).numberOf first =
      some (table.numberFor first) := by
    rw [numberOf_enter, if_pos rfl]
  exact (ne_numberFor_of_numberOf different.symm entered).symm

end NameTable

end GrowthGrammar
