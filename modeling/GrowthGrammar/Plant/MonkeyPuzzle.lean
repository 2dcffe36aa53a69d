import GrowthGrammar.Plant.Actions
import GrowthGrammar.Derivation.Basic

/-!
# The monkey-puzzle tree

A bent trunk turns upright and carries a leader that sheds whorls of long
branches with bushy tips.  The four pieces of the leader spawn whorls by their
first rule.  In a long run the last passes are made with these rules at weight
zero, so that every whorl has the time to grow out, and the weights are put back
afterwards.
-/

namespace GrowthGrammar.MonkeyPuzzle

/-- Runs of more passes than this are staged. -/
def plainRunLimit : Nat := 9

/-- The number of passes at the end of a staged run that spawn no whorl. -/
def closingPasses : Nat := 5

/-- A list of rules from weights and replacements. -/
def rules (table : List (Float × List Letter)) : List Rule :=
  table.map fun entry =>
    { weight := entry.1
      replacement := entry.2 }

/-- The rules of a twist: double it, keep it, or add its opposite. -/
def twistRules (this opposite : Letter) : List Rule :=
  rules
    [(2.0, [this, this]),
      (4.0, [this]),
      (1.0, [this, opposite])]

/-- The rules of a piece of the leader: spawn a whorl, go on, turn back, or veer
about the other axis. -/
def leaderRules (whorl this opposite otherForth otherBack : Letter) :
    List Rule :=
  rules
    [(9.0, [this, whorl, whorl, whorl]),
      (6.0, [this]),
      (2.0, [this, opposite]),
      (1.0, [this, otherForth]),
      (1.0, [this, otherBack])]

/-- The rules of a tip: rest, fork with or without a fruit, or grow on. -/
def tipRules (opening closing fruit anywhere tip : Letter) : List Rule :=
  rules
    [(1.0, [tip]),
      (6.0, [tip, opening, anywhere, tip, closing]),
      (3.0, [tip, fruit, opening, anywhere, tip, closing]),
      (0.5, [tip, tip]),
      (0.5, [tip, fruit, tip])]

/-- One long branch that ends in three forked twigs. -/
def cluster (opening closing fruit level anywhere long tip : Letter) :
    List Letter :=
  let fork :=
    [opening, anywhere, tip, opening, anywhere, tip, closing, closing]
  [opening, level, long, fruit, tip, opening, anywhere, tip]
    ++ fork ++ fork ++ fork ++ [closing, closing]

/-- The four pieces of the leader, which turn about two axes, forth and
back. -/
structure Leaders where
  xForth : Letter
  xBack : Letter
  yForth : Letter
  yBack : Letter
deriving DecidableEq

/-- The pieces of the leader in the order in which they are defined. -/
def Leaders.toList (leaders : Leaders) : List Letter :=
  [leaders.xForth, leaders.xBack, leaders.yForth, leaders.yBack]

/-- What is referred to after the alphabet is defined. -/
structure Landmarks where
  /-- The sentence of the young tree. -/
  seedling : List Letter
  leaders : Leaders
deriving DecidableEq

/-- Defines the alphabet of the tree. -/
def grammar : Edit Landmarks := do
  let (opening, closing) ← Edit.defineBrackets
  let trunk ← Edit.define "F" (segment 2.0)
  let short ← Edit.define "(f)" (segment 1.55)
  let middle ← Edit.define "(ff)" (segment 1.75)
  let bend ← Edit.define "(+Z)" bend
  let fruit ← Edit.define "(pear)" placeFruit
  let twistForth ← Edit.define "(T+Y)" (twist twistAngle)
  let twistBack ← Edit.define "(T-Y)" (twist (-twistAngle))
  let twistStart ← Edit.defineBare "(TS)"
  Edit.setRules twistStart (rules [(1.0, [twistForth]), (1.0, [twistBack])])
  Edit.setRules twistForth (twistRules twistForth twistBack)
  Edit.setRules twistBack (twistRules twistBack twistForth)
  let xForth ← Edit.define "(B+x)" (leader (Turtle.turnX leaderAngle))
  let xBack ← Edit.define "(B-x)" (leader (Turtle.turnX (-leaderAngle)))
  let yForth ← Edit.define "(B+y)" (leader (Turtle.turnY leaderAngle))
  let yBack ← Edit.define "(B-y)" (leader (Turtle.turnY (-leaderAngle)))
  let leaderStart ← Edit.defineBare "(BS)"
  Edit.setRules leaderStart
    (rules
      [(1.0, [xForth]), (1.0, [xBack]), (1.0, [yForth]), (1.0, [yBack])])
  let whorl ← Edit.defineBare "(AS)"
  Edit.setRules xForth (leaderRules whorl xForth xBack yForth yBack)
  Edit.setRules xBack (leaderRules whorl xBack xForth yForth yBack)
  Edit.setRules yForth (leaderRules whorl yForth yBack xForth xBack)
  Edit.setRules yBack (leaderRules whorl yBack yForth xForth xBack)
  let upright ← Edit.define "(vert)" straighten
  let level ← Edit.define "(flat)" aimLevel
  let anywhere ← Edit.define "(rand)" aimAnywhere
  let long ← Edit.define "(AL)" longBranch
  let tip ← Edit.define "(AT)" tip
  let branch := cluster opening closing fruit level anywhere long tip
  Edit.setRules whorl
    (rules
      [(6.0, branch ++ branch),
        (1.0, branch ++ [leaderStart] ++ branch)])
  Edit.setRules tip (tipRules opening closing fruit anywhere tip)
  return {
    seedling :=
      [short, bend, short, bend, short, bend, middle, twistStart, upright,
        trunk, leaderStart]
    leaders := ⟨xForth, xBack, yForth, yBack⟩ }

/-- The young tree as a derivation, with its landmarks. -/
def plant (settings : Settings) : Except GrowthError (Derivation × Landmarks) :=
  match grammar.run Alphabet.empty with
  | (.error error, _) => .error error
  | (.ok landmarks, alphabet) =>
      .ok
        ({ Derivation.ofAlphabet alphabet settings with
            start := landmarks.seedling
            sentence := landmarks.seedling },
          landmarks)

/-- The weight of the rule by which the leader spawns whorls. -/
def spawnWeight (leaders : Leaders) : Step Float :=
  Step.inspect (·.alphabet.weightOf leaders.xForth 0)

/-- Sets the weight of the spawning rule of every piece of the leader. -/
def setSpawnWeight (leaders : Leaders) (weight : Float) : Step Unit :=
  leaders.toList.forM fun leader => do
    Step.edit (Edit.setWeight leader 0 weight)
    Step.edit (Edit.refresh leader)

/-- Runs a step to its end and gives its result, whether it failed or not. -/
def attempt {α : Type} (step : Step α) : Step (Except GrowthError α) :=
  fun session =>
    let (result, session) := step.run session
    (.ok result, session)

/-- A number of passes, staged if they are many.  The weights of the
spawning rules are put back even if a pass fails. -/
def deriveTimes (leaders : Leaders) (passes : Nat) : Step Unit := do
  if passes ≤ plainRunLimit then
    Step.deriveTimes passes
  else
    Step.deriveTimes (passes - closingPasses)
    let weight ← spawnWeight leaders
    setSpawnWeight leaders 0.0
    let settled ← attempt (Step.deriveTimes closingPasses)
    setSpawnWeight leaders weight
    match settled with
    | .ok () => return ()
    | .error error => throw error

/-- Grows the tree from its seedling by the number of passes in the settings and
draws it. -/
def regrow (leaders : Leaders) : Step DrawingReport := do
  let settings := (← get).derivation.settings
  Step.regrowBy (deriveTimes leaders settings.passes)

end GrowthGrammar.MonkeyPuzzle
