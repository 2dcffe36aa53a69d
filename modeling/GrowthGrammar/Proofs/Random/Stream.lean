import GrowthGrammar.Proofs.Guarantee
import GrowthGrammar.Random.Drawn

/-!
# Streams after some draws

A draw changes nothing of a stream but its count and, in deterministic mode, its
cursor.  So a deterministic stream is at a known place after any number of
draws, and what it hands out there is a function of that place alone.
-/

namespace GrowthGrammar

namespace DrawStream

variable {D : Type}

/-- The stream after a number of draws. -/
def after (stream : DrawStream D) : Nat → DrawStream D
  | 0 => stream
  | count + 1 => stream.advance.after count

@[simp]
theorem after_zero (stream : DrawStream D) : stream.after 0 = stream :=
  rfl

@[simp]
theorem after_one (stream : DrawStream D) : stream.after 1 = stream.advance :=
  rfl

@[simp]
theorem after_after (stream : DrawStream D) (first second : Nat) :
    (stream.after first).after second = stream.after (first + second) := by
  induction first generalizing stream with
  | zero => simp
  | succ first ih =>
      rw [Nat.succ_add]
      exact ih stream.advance

/-- Every draw is counted. -/
@[simp]
theorem drawn_after (stream : DrawStream D) (count : Nat) :
    (stream.after count).drawn = stream.drawn + count := by
  induction count generalizing stream with
  | zero => rfl
  | succ count ih =>
      rw [after, ih, drawn_advance]
      omega

@[simp]
theorem ambient_advance (stream : DrawStream D) :
    stream.advance.ambient = stream.ambient := by
  rw [advance]
  split <;> rfl

theorem advance_of_deterministic {stream : DrawStream D}
    (deterministic : stream.mode = .deterministic) :
    stream.advance =
      { stream with
        cursor := stream.cursor + 1
        drawn := stream.drawn + 1 } := by
  simp [advance, deterministic]

/-- In deterministic mode the cursor moves by one with every draw and wraps at
the end of its range. -/
theorem after_of_deterministic {stream : DrawStream D}
    (deterministic : stream.mode = .deterministic) (count : Nat) :
    stream.after count =
      { stream with
        cursor := stream.cursor + Int64.ofNat count
        drawn := stream.drawn + count } := by
  induction count generalizing stream with
  | zero => simp
  | succ count ih =>
      have still : stream.advance.mode = .deterministic := by
        rw [mode_advance, deterministic]
      rw [after, ih still, advance_of_deterministic deterministic]
      simp only [Int64.ofNat_add, mk.injEq, true_and, and_true]
      constructor
      · rw [Int64.add_assoc, Int64.add_comm 1]
        rfl
      · omega

/-- In stochastic mode the sequence of the host is followed. -/
theorem after_of_stochastic {stream : DrawStream D}
    (stochastic : stream.mode = .stochastic) (count : Nat) :
    stream.after count = { stream with drawn := stream.drawn + count } := by
  induction count generalizing stream with
  | zero => simp
  | succ count ih =>
      have still : stream.advance.mode = .stochastic := by
        rw [mode_advance, stochastic]
      rw [after, ih still]
      simp only [advance, stochastic, mk.injEq, true_and, and_true]
      omega

/-- Two deterministic streams that stand at the same place. -/
structure InStep (first second : DrawStream D) : Prop where
  deterministic : first.mode = .deterministic
  mode_eq : first.mode = second.mode
  cursor_eq : first.cursor = second.cursor

theorem InStep.advance {first second : DrawStream D}
    (inStep : first.InStep second) : first.advance.InStep second.advance := by
  have secondDeterministic : second.mode = .deterministic :=
    inStep.mode_eq.symm.trans inStep.deterministic
  rw [advance_of_deterministic inStep.deterministic,
    advance_of_deterministic secondDeterministic]
  exact ⟨inStep.deterministic, inStep.mode_eq, by simp [inStep.cursor_eq]⟩

variable [Scalar D]

theorem value_of_deterministic {stream : DrawStream D}
    (deterministic : stream.mode = .deterministic) :
    stream.value = sineHash stream.cursor.toInt := by
  simp [value, deterministic]

theorem value_after_of_deterministic {stream : DrawStream D}
    (deterministic : stream.mode = .deterministic) (count : Nat) :
    (stream.after count).value =
      sineHash (stream.cursor + Int64.ofNat count).toInt := by
  rw [after_of_deterministic deterministic]
  simp [value, deterministic]

theorem value_after_of_stochastic {stream : DrawStream D}
    (stochastic : stream.mode = .stochastic) (count : Nat) :
    (stream.after count).value = stream.ambient (stream.drawn + count) := by
  rw [after_of_stochastic stochastic]
  simp [value, stochastic]

/-- Streams in step hand out the same value. -/
theorem InStep.value_eq {first second : DrawStream D}
    (inStep : first.InStep second) : first.value = second.value := by
  have secondDeterministic : second.mode = .deterministic :=
    inStep.mode_eq.symm.trans inStep.deterministic
  rw [value_of_deterministic inStep.deterministic,
    value_of_deterministic secondDeterministic, inStep.cursor_eq]

end DrawStream

namespace Drawn

variable {D α : Type}

@[simp]
theorem runFrom_value [Scalar D] (stream : DrawStream D) :
    runFrom stream Drawn.value = (.ok stream.value, stream.advance) :=
  rfl

@[simp]
theorem runFrom_ofExcept (stream : DrawStream D)
    (result : Except GrowthError α) :
    runFrom stream (Drawn.ofExcept result) = (result, stream) := by
  cases result <;> rfl

theorem delivers_value [Scalar D] :
    Delivers (Drawn.value (D := D)) fun _ => True :=
  fun stream => ⟨stream.value, stream.advance, rfl, trivial⟩

section Values

variable [Scalar D] {fits : DrawStream D → Prop} {allowed : D → Prop}

theorem deliversFrom_value_iff :
    DeliversFrom fits Drawn.value allowed ↔
      ∀ ⦃stream⦄, fits stream → fits stream.advance ∧ allowed stream.value := by
  simp [DeliversFrom]

/-- What every value keeps, several values keep. -/
theorem fits_after (values : DeliversFrom fits Drawn.value allowed)
    {stream : DrawStream D} (fitting : fits stream) (count : Nat) :
    fits (stream.after count) := by
  induction count generalizing stream with
  | zero => exact fitting
  | succ count ih => exact ih (deliversFrom_value_iff.mp values fitting).1

end Values

theorem deliversFrom_ofExcept {fits : DrawStream D → Prop}
    {result : Except GrowthError α} {value : α} (succeeds : result = .ok value) :
    DeliversFrom fits (Drawn.ofExcept (D := D) result) (· = value) := by
  rw [succeeds]
  exact .pure rfl

theorem parallel_value [Scalar D] :
    Parallel DrawStream.InStep (Drawn.value (D := D)) Drawn.value := by
  intro left right inStep
  rw [runFrom_value, runFrom_value]
  exact ⟨congrArg Except.ok inStep.value_eq, inStep.advance⟩

theorem parallel_ofExcept (result : Except GrowthError α) :
    Parallel DrawStream.InStep (Drawn.ofExcept (D := D) result)
      (Drawn.ofExcept result) := by
  intro left right inStep
  rw [runFrom_ofExcept, runFrom_ofExcept]
  exact ⟨rfl, inStep⟩

end Drawn

end GrowthGrammar
