import GrowthGrammar.Alphabet.NameTable
import GrowthGrammar.Alphabet.Symbol

/-!
# Alphabets

An alphabet numbers its symbols; these numbers are the letters of sentences.  A
name table gives out the letters, and each symbol is put into the place of its
letter.  An `Edit` changes an alphabet and may fail.  An edit that fails changes
nothing, with two exceptions: rules without weight are kept by their symbol, with
a share table from which no draw can choose, and the first of the two brackets
stays defined when the second cannot be.
-/

namespace GrowthGrammar

/-- The symbols of a grammar. -/
structure Alphabet where
  /-- The table that gives the letters out. -/
  nameTable : NameTable
  /-- The places of the letters.  A place may be empty. -/
  symbols : Array (Option Symbol)
  /-- The number of symbols that were defined. -/
  size : Nat

/-- A change of an alphabet that may fail. -/
abbrev Edit (α : Type) :=
  ExceptT GrowthError (StateM Alphabet) α

namespace Alphabet

/-- The alphabet without symbols. -/
def empty : Alphabet :=
  { nameTable := NameTable.empty
    symbols := #[]
    size := 0 }

/-- The symbols in the order of their letters, without the empty places. -/
def listed (alphabet : Alphabet) : List Symbol :=
  alphabet.symbols.toList.filterMap id

/-- The names in the order of their letters. -/
def names (alphabet : Alphabet) : List String :=
  alphabet.listed.map Symbol.name

/-- The symbol of a letter. -/
def find (alphabet : Alphabet) (letter : Letter) : Except GrowthError Symbol :=
  match alphabet.symbols[letter]?.join with
  | some symbol => .ok symbol
  | none => .error (.noSuchSymbol letter)

/-- Whether a letter stands for a symbol. -/
def contains (alphabet : Alphabet) (letter : Letter) : Bool :=
  alphabet.symbols[letter]?.join.isSome

/-- The letter of a name. -/
def resolve (alphabet : Alphabet) (name : String) : Option Letter :=
  (alphabet.nameTable.numberOf name).filter alphabet.contains

/-- The letter that a name has, or gets when it is defined. -/
def letterFor (alphabet : Alphabet) (name : String) : Letter :=
  alphabet.nameTable.numberFor name

/-- Whether the name table takes a name up. -/
def hasRoomFor (alphabet : Alphabet) (name : String) : Bool :=
  alphabet.nameTable.admits name

/-- Fails at the first letter that stands for no symbol. -/
def requireLetters (alphabet : Alphabet) (letters : List Letter) :
    Except GrowthError Unit :=
  match letters.find? (fun letter => !alphabet.contains letter) with
  | some letter => .error (.noSuchSymbol letter)
  | none => .ok ()

/-- Fails at a weight that is negative, infinite or no number. -/
def requireWeight (alphabet : Alphabet) (letter : Letter) (weight : Float) :
    Except GrowthError Unit :=
  if weight.isFinite ∧ 0.0 ≤ weight then
    .ok ()
  else
    match alphabet.find letter with
    | .ok symbol => .error (.badWeight symbol.name weight)
    | .error error => .error error

/-- Checks a rule of a symbol: its weight first, then its replacement. -/
def requireRule (alphabet : Alphabet) (letter : Letter) (rule : Rule) :
    Except GrowthError Unit := do
  alphabet.requireWeight letter rule.weight
  alphabet.requireLetters rule.replacement

/-- The weight of one rule of a symbol. -/
def weightOf (alphabet : Alphabet) (letter : Letter) (index : Nat) :
    Except GrowthError Float := do
  let symbol ← alphabet.find letter
  match symbol.rules[index]? with
  | some rule => .ok rule.weight
  | none => .error (.missingRule symbol.name index)

/-- Puts a symbol into the place of a letter.  Places that are missing before it
are made and left empty. -/
def place (alphabet : Alphabet) (letter : Letter) (symbol : Symbol) :
    Alphabet :=
  let missing := Array.replicate (letter + 1 - alphabet.symbols.size) none
  { alphabet with
    symbols := (alphabet.symbols ++ missing).setIfInBounds letter (some symbol) }

/-- The alphabet with one more symbol, in the place of its name. -/
def append (alphabet : Alphabet) (symbol : Symbol) : Alphabet :=
  { alphabet.place (alphabet.letterFor symbol.name) symbol with
    nameTable := alphabet.nameTable.enter symbol.name
    size := alphabet.size + 1 }

@[simp]
theorem size_append (alphabet : Alphabet) (symbol : Symbol) :
    (alphabet.append symbol).size = alphabet.size + 1 :=
  rfl

/-- The alphabet with one symbol exchanged for another of the same name. -/
def replace (alphabet : Alphabet) (letter : Letter) (symbol : Symbol) :
    Alphabet :=
  { alphabet with
    symbols := alphabet.symbols.setIfInBounds letter (some symbol) }

end Alphabet

namespace Edit

/-- Looks something up in the alphabet. -/
def inspect {α : Type} (look : Alphabet → Except GrowthError α) : Edit α := do
  match look (← get) with
  | .ok value => return value
  | .error error => throw error

/-- Puts a symbol in the place of a letter. -/
def replace (letter : Letter) (symbol : Symbol) : Edit Unit :=
  modify fun alphabet => alphabet.replace letter symbol

/-- Enters a name into the name table and gives its letter. -/
def intern (name : String) : Edit Letter := do
  let alphabet ← get
  unless alphabet.hasRoomFor name do
    throw .alphabetFull
  let letter := alphabet.letterFor name
  modify fun alphabet =>
    { alphabet with nameTable := alphabet.nameTable.enter name }
  return letter

/-- Defines a symbol without rules and gives its letter. -/
def define (name : String) (action : Action) : Edit Letter := do
  let alphabet ← get
  if (alphabet.resolve name).isSome then
    throw (.nameTaken name)
  let letter ← intern name
  modify fun alphabet => alphabet.place letter (Symbol.ofAction name action)
  modify fun alphabet => { alphabet with size := alphabet.size + 1 }
  return letter

/-- Defines a symbol whose action does nothing. -/
def defineBare (name : String) : Edit Letter :=
  define name Act.skip

/-- Defines the two symbols that save and restore the turtle. -/
def defineBrackets : Edit (Letter × Letter) := do
  let opening ← define "[" Act.save
  let closing ← define "]" Act.restore
  return (opening, closing)

/-- Computes the share table of a symbol from its rules. -/
def refresh (letter : Letter) : Edit Unit := do
  let symbol ← inspect (·.find letter)
  replace letter symbol.refreshed
  if symbol.isWeightless then
    throw (.weightlessRules symbol.name)

/-- Sets the rules of a symbol and computes its share table. -/
def setRules (letter : Letter) (rules : List Rule) : Edit Unit := do
  rules.forM fun rule => inspect (·.requireRule letter rule)
  let symbol ← inspect (·.find letter)
  replace letter { symbol with rules := rules }
  refresh letter

/-- Changes the weight of one rule; the share table stays as it is. -/
def setWeight (letter : Letter) (index : Nat) (weight : Float) :
    Edit Unit := do
  inspect (·.requireWeight letter weight)
  let symbol ← inspect (·.find letter)
  match symbol.rules[index]? with
  | some rule =>
      let changed := { rule with weight := weight }
      replace letter { symbol with rules := symbol.rules.set index changed }
  | none => throw (.missingRule symbol.name index)

/-- Says whether derivation keeps a symbol whatever its rules are. -/
def setFixed (letter : Letter) (fixed : Bool) : Edit Unit := do
  let symbol ← inspect (·.find letter)
  replace letter { symbol with fixed := fixed }

end Edit

end GrowthGrammar
