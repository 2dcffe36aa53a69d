import GrowthGrammar.Alphabet.Basic
import GrowthGrammar.Text.Quoted
import GrowthGrammar.Text.Visible

/-!
# Listing an alphabet

The text form of an alphabet, for inspection: its symbols in the order of their
letters, with their rules.  Actions and share tables are left out.
-/

namespace GrowthGrammar

/-- Texts between brackets, separated by commas. -/
def bracketed (items : List String) : String :=
  "[" ++ ", ".intercalate items ++ "]"

/-- The text form of a rule. -/
def Rule.listing (rule : Rule) : String :=
  "ExpansionRule \x7b weight: " ++ NumberFormat.listing.text rule.weight
    ++ ", replacement: " ++ bracketed (rule.replacement.map Nat.repr)
    ++ " \x7d"

/-- The text form of a symbol. -/
def Symbol.listing (symbol : Symbol) : String :=
  "Symbol \x7b name: " ++ Quoted.encode isVisible symbol.name
    ++ ", rules: " ++ bracketed (symbol.rules.map Rule.listing)
    ++ ", terminal: " ++ (if symbol.fixed then "true" else "false")
    ++ ", .. \x7d"

/-- The text form of an alphabet. -/
def Alphabet.listing (alphabet : Alphabet) : String :=
  bracketed (alphabet.listed.map Symbol.listing)

end GrowthGrammar
