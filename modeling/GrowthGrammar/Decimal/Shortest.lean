/-!
# Shortest decimals

A positive float stands for every real number that rounds to it: an interval
around its value, closed when its mantissa is even.  The shortest decimal of a
float is the point of the coarsest decimal grid that meets this interval; of two
such points it is the nearer one, and of two equally near points the greater.

Everything is computed in natural numbers, by scaling the interval and the grid
to a common unit.
-/

namespace GrowthGrammar

/-- The decimal number `digits * 10 ^ exponent`. -/
structure Decimal where
  digits : Nat
  exponent : Int
deriving DecidableEq, Repr

/-- The positive number `mantissa * 2 ^ exponent` of a float format. -/
structure Binary where
  mantissa : Nat
  exponent : Int
  /-- Whether the next smaller float lies at half the usual distance. -/
  crowdedBelow : Bool
deriving DecidableEq, Repr

namespace Binary

/-- The magnitude of a finite float that is not zero. -/
def ofFloat (x : Float) : Binary :=
  let bits : Nat := x.toBits.toNat
  let fraction : Nat := bits % Nat.pow 2 52
  let scale : Nat := bits / Nat.pow 2 52 % Nat.pow 2 11
  if scale = 0 then
    { mantissa := fraction
      exponent := -1074
      crowdedBelow := false }
  else
    { mantissa := Nat.pow 2 52 + fraction
      exponent := Int.ofNat scale - 1075
      crowdedBelow := fraction = 0 ∧ 1 < scale }

/-- The point of the grid of multiples of `10 ^ exponent` that rounds to the
float and lies nearest to it, if one does. -/
def onGrid (b : Binary) (exponent : Int) : Option Nat :=
  let unit := Nat.pow 10 exponent.toNat * Nat.pow 2 (2 - b.exponent).toNat
  let quarter := Nat.pow 2 (b.exponent - 2).toNat * Nat.pow 10 (-exponent).toNat
  let value := 4 * b.mantissa * quarter
  let low := (4 * b.mantissa - if b.crowdedBelow then 1 else 2) * quarter
  let high := (4 * b.mantissa + 2) * quarter
  let closed := b.mantissa % 2 = 0
  let floor := value / unit
  let below := floor * unit
  let above := below + unit
  let belowRounds := low < below ∨ (closed ∧ low = below)
  let aboveRounds := above < high ∨ (closed ∧ above = high)
  if belowRounds ∧ aboveRounds then
    some (if value - below < above - value then floor else floor + 1)
  else if belowRounds then
    some floor
  else if aboveRounds then
    some (floor + 1)
  else
    none

/-- The first grid with a point that rounds to the float, among `steps` grids
of which `exponent` is the coarsest. -/
def firstGrid (b : Binary) : Nat → Int → Decimal
  | 0, exponent => ⟨0, exponent⟩
  | steps + 1, exponent =>
      match b.onGrid exponent with
      | some digits => ⟨digits, exponent⟩
      | none => firstGrid b steps (exponent - 1)

/-- The decimal with the fewest digits that rounds to the float.  The grids
searched reach from the greatest float down to the grid that holds every float
exactly. -/
def shortest (b : Binary) : Decimal :=
  b.firstGrid 1384 309

end Binary

end GrowthGrammar
