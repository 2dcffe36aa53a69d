import GrowthGrammar.Random.Shares
import GrowthGrammar.Turtle.Program

/-!
# Symbols

A symbol has a name, an action, and weighted rules that say what it may be
replaced by.  Its share table is computed from the rules when they are set or
when it is asked to be, and not when a single weight is changed.
-/

namespace GrowthGrammar

/-- One weighted replacement of a symbol. -/
structure Rule where
  weight : Float
  replacement : List Letter
deriving DecidableEq

/-- A symbol of an alphabet. -/
structure Symbol where
  name : String
  action : Action
  rules : List Rule
  /-- The table that a draw chooses a rule from. -/
  table : ShareTable Float
  /-- Whether derivation keeps the symbol whatever its rules are. -/
  fixed : Bool

namespace Symbol

/-- A symbol without rules. -/
def ofAction (name : String) (action : Action) : Symbol :=
  { name := name
    action := action
    rules := []
    table := ShareTable.empty
    fixed := false }

/-- Whether derivation replaces the symbol. -/
def expands (symbol : Symbol) : Bool :=
  !symbol.fixed && !symbol.rules.isEmpty

/-- The share table of the present rules, if they have one. -/
def freshTable (symbol : Symbol) : Option (ShareTable Float) :=
  ShareTable.ofWeights (symbol.rules.map Rule.weight)

/-- The symbol with the share table of its present rules, or with the empty
table if they have none. -/
def refreshed (symbol : Symbol) : Symbol :=
  { symbol with table := symbol.freshTable.getD ShareTable.empty }

/-- Whether the symbol has rules, but none that could be chosen. -/
def isWeightless (symbol : Symbol) : Bool :=
  !symbol.rules.isEmpty && symbol.freshTable.isNone

/-- The replacement that a draw chooses.  A share table is never longer than
the list of rules, so the only failure is that of an empty table. -/
def choose (symbol : Symbol) (draw : Float) :
    Except GrowthError (List Letter) :=
  match (symbol.table.select draw).bind (symbol.rules[·]?) with
  | some rule => .ok rule.replacement
  | none => .error (.weightlessRules symbol.name)

end Symbol

end GrowthGrammar
