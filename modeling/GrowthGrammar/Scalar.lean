/-!
# Number types

Geometry, noise, weights and draws are written once over an abstract number
type.  A `Scalar` carries exactly the operations these definitions use, in the
order they use them, so that one definition runs on machine floats, where every
operation rounds, and can be read over an exact field, where none does.

Two instances run: `Float`, in which random draws and rule weights are held,
and `Float32`, in which coordinates are held.  A `Narrowing` takes a draw to a
coordinate.
-/

namespace GrowthGrammar

/-- The operations on numbers that growth needs.  No law is assumed: on machine
floats every operation rounds, and a comparison with an undefined value
fails. -/
class Scalar (K : Type) extends Add K, Sub K, Mul K, Div K, Neg K, LT K, LE K,
    OfScientific K where
  decidableLT : DecidableLT K
  decidableLE : DecidableLE K
  /-- The value nearest to an integer. -/
  ofInt : Int → K
  /-- The greatest whole value not above the argument. -/
  floor : K → K
  /-- The value without its sign. -/
  abs : K → K
  sqrt : K → K
  sin : K → K
  cos : K → K
  /-- Whether the value is a number and not infinite. -/
  isFinite : K → Bool
  /-- The whole part as a count of at most `2 ^ 32 - 1`; values below one and
  undefined values count as zero. -/
  count : K → Nat
  /-- The ratio of a circle's circumference to its diameter. -/
  pi : K
  /-- One degree in radians. -/
  degree : K
  /-- The square root of one half. -/
  sqrtHalf : K
  /-- The distance from one to the next greater value, zero for an exact
  type. -/
  epsilon : K

attribute [reducible, instance] Scalar.decidableLT Scalar.decidableLE

namespace Scalar

variable {K : Type} [Scalar K]

/-- The value nearest to a natural number. -/
def ofNat (n : Nat) : K :=
  ofInt (Int.ofNat n)

/-- The lesser of two values; an undefined value gives way to the other. -/
def least (a b : K) : K :=
  if a ≤ b then a else if b ≤ b then b else a

/-- The nearest value of the interval from `low` to `high`; an undefined value
stays undefined. -/
def clamp (low high x : K) : K :=
  if x < low then low else if high < x then high else x

/-- The distance to the greatest whole value not above the argument. -/
def fraction (x : K) : K :=
  x - floor x

end Scalar

instance : Scalar Float where
  decidableLT := inferInstance
  decidableLE := inferInstance
  ofInt := Float.ofInt
  floor := Float.floor
  abs := Float.abs
  sqrt := Float.sqrt
  sin := Float.sin
  cos := Float.cos
  isFinite := Float.isFinite
  count := fun x => x.toUInt32.toNat
  pi := 3.141592653589793
  degree := 0.017453292519943295
  sqrtHalf := 0.7071067811865476
  epsilon := 2.220446049250313e-16

instance : Scalar Float32 where
  decidableLT := inferInstance
  decidableLE := inferInstance
  ofInt := Float32.ofInt
  floor := Float32.floor
  abs := Float32.abs
  sqrt := Float32.sqrt
  sin := Float32.sin
  cos := Float32.cos
  isFinite := Float32.isFinite
  count := fun x => x.toUInt32.toNat
  pi := 3.1415927
  degree := 0.017453292
  sqrtHalf := 0.70710677
  epsilon := 1.1920929e-7

/-- How a random draw of type `D` becomes a coordinate of type `K`. -/
class Narrowing (D K : Type) where
  /-- The coordinate nearest to a draw. -/
  narrow : D → K

instance : Narrowing Float Float32 where
  narrow := Float.toFloat32

end GrowthGrammar
