import GrowthGrammar.Alphabet.Basic
import GrowthGrammar.Random.Drawn

/-!
# Passes

One pass replaces every symbol of a sentence at once.  Each symbol that can
expand takes one value from the random stream, in the order of the sentence,
and the value chooses its replacement; all other symbols stay.
-/

namespace GrowthGrammar

namespace Alphabet

/-- What one symbol is replaced by. -/
def expand (alphabet : Alphabet) (letter : Letter) :
    Drawn Float (List Letter) := do
  let symbol ← Drawn.ofExcept (alphabet.find letter)
  if symbol.expands then
    Drawn.ofExcept (symbol.choose (← Drawn.value))
  else
    return [letter]

/-- Writes what one symbol is replaced by behind what is already written. -/
def expandOnto (alphabet : Alphabet) (written : Array Letter)
    (letter : Letter) : Drawn Float (Array Letter) := do
  let replacement ← alphabet.expand letter
  return written ++ replacement

/-- One pass over a sentence. -/
def derive (alphabet : Alphabet) (sentence : List Letter) :
    Drawn Float (List Letter) := do
  let written ← sentence.foldlM alphabet.expandOnto #[]
  return written.toList

end Alphabet

end GrowthGrammar
