import GrowthGrammar.Plant.MonkeyPuzzle
import GrowthGrammar.Proofs.Alphabet.Construction

/-!
# The parts of the monkey-puzzle tree

The grammar of the tree defines its symbols one after another.  Here the same
symbols are a table with one entry for each part, so that what holds of the
tree can be shown part by part.  The main statement is that the grammar defines
exactly the symbols of the table.
-/

namespace GrowthGrammar.MonkeyPuzzle

/-- The parts of the tree in the order in which they are defined. -/
inductive Part where
  | opening
  | closing
  | trunk
  | short
  | middle
  | bend
  | fruit
  | twistForth
  | twistBack
  | twistStart
  | xForth
  | xBack
  | yForth
  | yBack
  | leaderStart
  | whorl
  | upright
  | level
  | anywhere
  | long
  | tip
deriving DecidableEq

namespace Part

/-- The parts in the order of their letters. -/
def all : List Part :=
  [opening, closing, trunk, short, middle, bend, fruit, twistForth, twistBack,
    twistStart, xForth, xBack, yForth, yBack, leaderStart, whorl, upright, level,
    anywhere, long, tip]

/-- The letter that stands for a part. -/
def letter (part : Part) : Letter :=
  part.ctorIdx

def name : Part → String
  | opening => "["
  | closing => "]"
  | trunk => "F"
  | short => "(f)"
  | middle => "(ff)"
  | bend => "(+Z)"
  | fruit => "(pear)"
  | twistForth => "(T+Y)"
  | twistBack => "(T-Y)"
  | twistStart => "(TS)"
  | xForth => "(B+x)"
  | xBack => "(B-x)"
  | yForth => "(B+y)"
  | yBack => "(B-y)"
  | leaderStart => "(BS)"
  | whorl => "(AS)"
  | upright => "(vert)"
  | level => "(flat)"
  | anywhere => "(rand)"
  | long => "(AL)"
  | tip => "(AT)"

def action : Part → Action
  | opening => Act.save
  | closing => Act.restore
  | trunk => segment 2.0
  | short => segment 1.55
  | middle => segment 1.75
  | bend => MonkeyPuzzle.bend
  | fruit => placeFruit
  | twistForth => twist twistAngle
  | twistBack => twist (-twistAngle)
  | twistStart => Act.skip
  | xForth => leader (Turtle.turnX leaderAngle)
  | xBack => leader (Turtle.turnX (-leaderAngle))
  | yForth => leader (Turtle.turnY leaderAngle)
  | yBack => leader (Turtle.turnY (-leaderAngle))
  | leaderStart => Act.skip
  | whorl => Act.skip
  | upright => straighten
  | level => aimLevel
  | anywhere => aimAnywhere
  | long => longBranch
  | tip => MonkeyPuzzle.tip

/-- A twig that carries another twig. -/
def fork : List Part :=
  [opening, anywhere, tip, opening, anywhere, tip, closing, closing]

/-- A long branch that ends in three forks. -/
def branch : List Part :=
  [opening, level, long, fruit, tip, opening, anywhere, tip]
    ++ fork ++ fork ++ fork ++ [closing, closing]

/-- What a part may be replaced by, in the order of its rules. -/
def replacements : Part → List (List Part)
  | twistForth =>
      [[twistForth, twistForth], [twistForth], [twistForth, twistBack]]
  | twistBack => [[twistBack, twistBack], [twistBack], [twistBack, twistForth]]
  | twistStart => [[twistForth], [twistBack]]
  | xForth =>
      [[xForth, whorl, whorl, whorl], [xForth], [xForth, xBack],
        [xForth, yForth], [xForth, yBack]]
  | xBack =>
      [[xBack, whorl, whorl, whorl], [xBack], [xBack, xForth],
        [xBack, yForth], [xBack, yBack]]
  | yForth =>
      [[yForth, whorl, whorl, whorl], [yForth], [yForth, yBack],
        [yForth, xForth], [yForth, xBack]]
  | yBack =>
      [[yBack, whorl, whorl, whorl], [yBack], [yBack, yForth],
        [yBack, xForth], [yBack, xBack]]
  | leaderStart => [[xForth], [xBack], [yForth], [yBack]]
  | whorl => [branch ++ branch, branch ++ [leaderStart] ++ branch]
  | tip =>
      [[tip], [tip, opening, anywhere, tip, closing],
        [tip, fruit, opening, anywhere, tip, closing], [tip, tip],
        [tip, fruit, tip]]
  | _ => []

/-- The weights of the replacements; the leader spawns whorls with the given
weight. -/
def weights (spawn : Float) : Part → List Float
  | twistForth | twistBack => [2.0, 4.0, 1.0]
  | twistStart => [1.0, 1.0]
  | xForth | xBack | yForth | yBack => [spawn, 6.0, 2.0, 1.0, 1.0]
  | leaderStart => [1.0, 1.0, 1.0, 1.0]
  | whorl => [6.0, 1.0]
  | tip => [1.0, 6.0, 3.0, 0.5, 0.5]
  | _ => []

def rules (spawn : Float) (part : Part) : List Rule :=
  List.zipWith (fun weight replacement => ⟨weight, replacement.map letter⟩)
    (part.weights spawn) part.replacements

/-- The symbol of a part, where the leader spawns whorls with a weight. -/
def symbol (spawn : Float) (part : Part) : Symbol :=
  if part.replacements = [] then
    Symbol.ofAction part.name part.action
  else
    { Symbol.ofAction part.name part.action with
      rules := part.rules spawn }.refreshed

/-- The letter of a part is its place in the table. -/
theorem getElem?_letter (spawn : Float) (part : Part) :
    (all.map (symbol spawn))[part.letter]? = some (part.symbol spawn) := by
  cases part <;> rfl

@[simp]
theorem name_symbol (spawn : Float) (part : Part) :
    (part.symbol spawn).name = part.name := by
  cases part <;> rfl

@[simp]
theorem action_symbol (spawn : Float) (part : Part) :
    (part.symbol spawn).action = part.action := by
  cases part <;> rfl

@[simp]
theorem rules_symbol (spawn : Float) (part : Part) :
    (part.symbol spawn).rules = part.rules spawn := by
  cases part <;> rfl

@[simp]
theorem fixed_symbol (spawn : Float) (part : Part) :
    (part.symbol spawn).fixed = false := by
  cases part <;> rfl

/-- No two parts have the same name. -/
theorem name_injective : Function.Injective name := by
  intro first second same
  cases first <;> cases second <;> first | rfl | simp [name] at same

/-- No two parts have the same letter. -/
theorem letter_injective : Function.Injective letter := by
  intro first second same
  have found := first.getElem?_letter 0.0
  rw [same, second.getElem?_letter, Option.some.injEq] at found
  have names := congrArg Symbol.name found
  rw [name_symbol, name_symbol] at names
  exact name_injective names.symm

/-- The pieces of the leader. -/
def leaders : List Part :=
  [xForth, xBack, yForth, yBack]

/-- The first rule of a piece of the leader spawns three whorls. -/
theorem exists_rules_of_leader {part : Part} (isLeader : part ∈ leaders) :
    ∃ others, ∀ spawn, part.rules spawn =
      ⟨spawn, [part, whorl, whorl, whorl].map letter⟩ :: others := by
  simp only [leaders, List.mem_cons, List.not_mem_nil, or_false] at isLeader
  rcases isLeader with rfl | rfl | rfl | rfl <;> exact ⟨_, fun _ => rfl⟩

/-- The parts of the young tree. -/
def seedling : List Part :=
  [short, bend, short, bend, short, bend, middle, twistStart, upright, trunk,
    leaderStart]

end Part

/-- The letters of a list of parts. -/
def letters (parts : List Part) : List Letter :=
  parts.map Part.letter

/-- The weight of the spawning rules as the grammar sets it. -/
def fullSpawnWeight : Float := 9.0

/-- The weights that the spawning rules have where no host changes them. -/
def spawnWeights : List Float :=
  [0.0, fullSpawnWeight]

theorem zero_mem_spawnWeights : 0.0 ∈ spawnWeights :=
  List.mem_cons_self

theorem fullSpawnWeight_mem_spawnWeights : fullSpawnWeight ∈ spawnWeights :=
  List.mem_cons_of_mem _ List.mem_cons_self

/-- With and without whorls something can be chosen for every part that is
replaced. -/
theorem Part.isWeightless_symbol {spawn : Float} (listed : spawn ∈ spawnWeights)
    (part : Part) : (part.symbol spawn).isWeightless = false := by
  simp only [spawnWeights, List.mem_cons, List.not_mem_nil, or_false] at listed
  rcases listed with rfl | rfl <;> cases part <;> decide +kernel

def landmarks : Landmarks :=
  { seedling := letters Part.seedling
    leaders :=
      { xForth := Part.xForth.letter
        xBack := Part.xBack.letter
        yForth := Part.yForth.letter
        yBack := Part.yBack.letter } }

/-- The grammar defines the symbols of the parts. -/
theorem makes_grammar :
    grammar.Makes [] landmarks (Part.all.map (Part.symbol fullSpawnWeight)) := by
  unfold grammar
  refine .bind (.bind (.define (by decide +kernel) _)
    (.bind (.define (by decide +kernel) _) (.pure _ _))) ?_
  iterate 8 refine .bind (.define (by decide +kernel) _) ?_
  iterate 3 refine .bind (.setRules rfl (by decide +kernel)) ?_
  iterate 5 refine .bind (.define (by decide +kernel) _) ?_
  refine .bind (.setRules rfl (by decide +kernel)) ?_
  refine .bind (.define (by decide +kernel) _) ?_
  iterate 4 refine .bind (.setRules rfl (by decide +kernel)) ?_
  iterate 5 refine .bind (.define (by decide +kernel) _) ?_
  iterate 2 refine .bind (.setRules rfl (by decide +kernel)) ?_
  exact .pure landmarks (Part.all.map (Part.symbol fullSpawnWeight))

/-! ## The alphabet of the tree -/

/-- Whether the symbols of an alphabet are those of the parts, where the leader
spawns whorls with a weight. -/
def IsTree (spawn : Float) (alphabet : Alphabet) : Prop :=
  alphabet.symbols = ((Part.all.map (Part.symbol spawn)).map some).toArray

namespace IsTree

variable {spawn : Float} {alphabet : Alphabet}

theorem find_eq_ok_iff (tree : IsTree spawn alphabet) (letter : Letter)
    (symbol : Symbol) :
    alphabet.find letter = .ok symbol ↔
      (Part.all.map (Part.symbol spawn))[letter]? = some symbol := by
  rw [Alphabet.find_eq_ok_iff, tree, List.getElem?_toArray, List.getElem?_map]
  simp

theorem find_letter (tree : IsTree spawn alphabet) (part : Part) :
    alphabet.find part.letter = .ok (part.symbol spawn) :=
  (tree.find_eq_ok_iff _ _).mpr (part.getElem?_letter spawn)

theorem getElem?_names (tree : IsTree spawn alphabet) (part : Part) :
    alphabet.names[part.letter]? = some part.name := by
  rw [Alphabet.names, Alphabet.listed, tree]
  cases part <;> rfl

theorem contains_letter (tree : IsTree spawn alphabet) (part : Part) :
    alphabet.contains part.letter = true :=
  Alphabet.contains_of_find (tree.find_letter part)

/-- The symbols of the tree are those of its parts. -/
theorem exists_part_of_find (tree : IsTree spawn alphabet) {letter : Letter}
    {symbol : Symbol} (found : alphabet.find letter = .ok symbol) :
    ∃ part : Part, part.letter = letter ∧ part.symbol spawn = symbol := by
  rw [tree.find_eq_ok_iff] at found
  have inside : letter < Part.all.length := by
    simpa using (List.getElem?_eq_some_iff.mp found).1
  have ordered : ∀ place : Fin Part.all.length,
      (Part.all.get place).letter = place := by
    decide
  have there := (Part.all.get ⟨letter, inside⟩).getElem?_letter spawn
  rw [ordered ⟨letter, inside⟩, found, Option.some.injEq] at there
  exact ⟨_, ordered ⟨letter, inside⟩, there.symm⟩

theorem exists_part_of_contains (tree : IsTree spawn alphabet) {letter : Letter}
    (defined : alphabet.contains letter = true) :
    ∃ part : Part, part.letter = letter := by
  obtain ⟨symbol, found⟩ := Alphabet.exists_find_of_contains defined
  obtain ⟨part, isLetter, -⟩ := tree.exists_part_of_find found
  exact ⟨part, isLetter⟩

/-- Every sentence over the alphabet of the tree is one of parts. -/
theorem exists_letters (tree : IsTree spawn alphabet) {sentence : List Letter}
    (defined : ∀ letter ∈ sentence, alphabet.contains letter = true) :
    ∃ parts, sentence = letters parts := by
  induction sentence with
  | nil => exact ⟨[], rfl⟩
  | cons letter rest ih =>
      rw [List.forall_mem_cons] at defined
      obtain ⟨part, rfl⟩ := tree.exists_part_of_contains defined.1
      obtain ⟨parts, rfl⟩ := ih defined.2
      exact ⟨part :: parts, rfl⟩

end IsTree

/-- Planting succeeds with all settings. -/
theorem exists_plant (settings : Settings) :
    ∃ alphabet, alphabet.Reachable ∧ IsTree fullSpawnWeight alphabet ∧
      plant settings =
        .ok
          ({ Derivation.ofAlphabet alphabet settings with
              start := letters Part.seedling
              sentence := letters Part.seedling },
            landmarks) := by
  obtain ⟨alphabet, run, holds⟩ := makes_grammar .empty
  refine ⟨alphabet, holds.reachable, holds.symbols_eq, ?_⟩
  have grown : grammar.run Alphabet.empty = (.ok landmarks, alphabet) := run
  rw [plant, grown]
  rfl

/-- What is planted is the young tree. -/
structure IsYoung (young : Derivation) : Prop where
  reachable : young.alphabet.Reachable
  tree : IsTree fullSpawnWeight young.alphabet
  start_eq : young.start = letters Part.seedling

theorem isYoung_of_plant {settings : Settings} {young : Derivation}
    {marks : Landmarks} (planted : plant settings = .ok (young, marks)) :
    IsYoung young ∧ marks = landmarks := by
  obtain ⟨alphabet, reachable, tree, plantIs⟩ := exists_plant settings
  rw [plantIs, Except.ok.injEq, Prod.mk.injEq] at planted
  rcases planted with ⟨rfl, rfl⟩
  exact ⟨⟨reachable, tree, rfl⟩, rfl⟩

end GrowthGrammar.MonkeyPuzzle
