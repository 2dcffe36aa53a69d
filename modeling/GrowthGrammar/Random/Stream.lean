import GrowthGrammar.Scalar

/-!
# Random streams

A random stream hands out values of the unit interval one after another.  In
deterministic mode each value is a function of an integer cursor alone, so a
stream can be replayed from its seed; in stochastic mode values come from an
ambient sequence that the host supplies, and the cursor rests.

Both modes count the values handed out.
-/

namespace GrowthGrammar

/-- Where a random stream takes its values from. -/
inductive DrawMode where
  /-- The ambient sequence of the host. -/
  | stochastic
  /-- The hash of the cursor. -/
  | deterministic
deriving DecidableEq, Repr

/-- The fractional part of a large multiple of the sine of an integer: a value
of the unit interval that looks random from one integer to the next. -/
def sineHash {D : Type} [Scalar D] (n : Int) : D :=
  let f := Scalar.fraction (Scalar.sin (Scalar.ofInt n) * 43758.5453123)
  if 1.0 ≤ f then 0.0 else f

/-- A stream of draws of type `D`. -/
structure DrawStream (D : Type) where
  mode : DrawMode
  /-- The integer whose hash is the next deterministic value. -/
  cursor : Int64
  /-- The number of values handed out, in either mode. -/
  drawn : Nat
  /-- The host's sequence: the value to hand out in stochastic mode after a given
  number of draws. -/
  ambient : Nat → D

namespace DrawStream

variable {D : Type}

/-- A stream that has handed out nothing yet. -/
def start (ambient : Nat → D) (mode : DrawMode) (seed : Int64) :
    DrawStream D :=
  { mode := mode
    cursor := seed
    drawn := 0
    ambient := ambient }

/-- Moves the cursor; the mode and the number of draws stay. -/
def reseed (stream : DrawStream D) (seed : Int64) : DrawStream D :=
  { stream with cursor := seed }

/-- Changes the mode; the cursor and the number of draws stay. -/
def withMode (stream : DrawStream D) (mode : DrawMode) : DrawStream D :=
  { stream with mode := mode }

/-- The stream after one draw: the count grows by one, and in deterministic
mode the cursor moves on, wrapping at the end of its range. -/
def advance (stream : DrawStream D) : DrawStream D :=
  match stream.mode with
  | .stochastic => { stream with drawn := stream.drawn + 1 }
  | .deterministic =>
      { stream with
        cursor := stream.cursor + 1
        drawn := stream.drawn + 1 }

@[simp]
theorem drawn_advance (stream : DrawStream D) :
    stream.advance.drawn = stream.drawn + 1 := by
  unfold advance
  split <;> rfl

@[simp]
theorem mode_advance (stream : DrawStream D) :
    stream.advance.mode = stream.mode := by
  unfold advance
  split <;> simp_all

variable [Scalar D]

/-- The value handed out next. -/
def value (stream : DrawStream D) : D :=
  match stream.mode with
  | .stochastic => stream.ambient stream.drawn
  | .deterministic => sineHash stream.cursor.toInt

/-- Hands out the next value. -/
def next : StateM (DrawStream D) D := fun stream =>
  (stream.value, stream.advance)

end DrawStream

end GrowthGrammar
