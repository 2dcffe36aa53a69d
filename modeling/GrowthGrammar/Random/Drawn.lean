import GrowthGrammar.Error
import GrowthGrammar.Random.Stream

/-!
# Random computations

A random computation takes values from a random stream one after another and may
fail.  The stream moves on with every value taken, also if the computation fails
later.
-/

namespace GrowthGrammar

/-- A random computation that may fail. -/
abbrev Drawn (D α : Type) :=
  ExceptT GrowthError (StateM (DrawStream D)) α

namespace Drawn

variable {D α : Type}

/-- The next random value. -/
def value [Scalar D] : Drawn D D :=
  modifyGet DrawStream.next

/-- A computation that draws nothing. -/
def ofExcept (result : Except GrowthError α) : Drawn D α :=
  match result with
  | .ok value => pure value
  | .error error => throw error

end Drawn

end GrowthGrammar
