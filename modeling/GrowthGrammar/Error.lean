import GrowthGrammar.Decimal.Format

/-!
# Errors

What can go wrong while a grammar is defined, derived, drawn or grown.
Every error is a mistake in the grammar and says where it lies.
-/

namespace GrowthGrammar

/-- A letter of a sentence: the number of its symbol in the alphabet. -/
abbrev Letter := Nat

/-- The causes of failure. -/
inductive GrowthError where
  /-- The rules of a symbol have no positive total weight. -/
  | weightlessRules (symbol : String)
  /-- A rule weight is negative, infinite or no number. -/
  | badWeight (symbol : String) (weight : Float)
  /-- No symbol has this number. -/
  | noSuchSymbol (letter : Letter)
  /-- A name is defined twice. -/
  | nameTaken (name : String)
  /-- A symbol has fewer rules. -/
  | missingRule (symbol : String) (index : Nat)
  /-- No further name fits into the alphabet. -/
  | alphabetFull
  /-- A turtle is restored that was never saved. -/
  | noOpenBranch
  /-- More turtles are saved than the limit allows. -/
  | branchLimit (limit : Nat)
  /-- An axis index is neither zero nor one nor two. -/
  | noSuchAxis (index : Nat)
  /-- A shape is divided into no pieces. -/
  | noPieces (count : Nat)
deriving DecidableEq

/-- The text of an error. -/
def GrowthError.message : GrowthError → String
  | .weightlessRules symbol =>
      s!"symbol `{symbol}` has expansion rules but their total weight is zero"
  | .badWeight symbol weight =>
      s!"symbol `{symbol}` has an invalid rule weight " ++
        NumberFormat.plain.text weight
  | .noSuchSymbol letter => s!"unknown symbol id {letter}"
  | .nameTaken name => s!"symbol `{name}` is already defined"
  | .missingRule symbol index => s!"symbol `{symbol}` has no rule at index {index}"
  | .alphabetFull => "alphabet is full"
  | .noOpenBranch => "turtle stack underflow: pop without matching push"
  | .branchLimit limit =>
      s!"turtle stack exceeded its limit of {limit} saved states"
  | .noSuchAxis index => s!"axis index {index} is outside 0..=2"
  | .noPieces count => s!"subdivision produced {count} pieces"

end GrowthGrammar
