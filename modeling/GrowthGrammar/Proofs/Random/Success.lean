import Mathlib.Data.List.Forall2
import GrowthGrammar.Proofs.Float.Counting
import GrowthGrammar.Proofs.Random.Stream

/-!
# Random computations that succeed

A random computation gives a property if it succeeds with every random stream
that stays below one, whatever its values are, and if its result has the
property.  The hash of the deterministic mode stays below one by itself, so only
the sequence of the host has to be known to.
-/

namespace GrowthGrammar

namespace DrawStream

/-- Whether the sequence of the host stays below one. -/
def StaysBelowOne (stream : DrawStream Float) : Prop :=
  ∀ count, ¬ 1.0 ≤ stream.ambient count

theorem not_one_le_sineHash (n : Int) : ¬ 1.0 ≤ (sineHash n : Float) := by
  unfold sineHash
  simp only
  split
  · decide +kernel
  · assumption

/-- No value that is handed out is one or more, in either mode. -/
theorem StaysBelowOne.value {stream : DrawStream Float}
    (stays : stream.StaysBelowOne) : ¬ 1.0 ≤ stream.value := by
  rw [DrawStream.value]
  cases stream.mode with
  | stochastic => exact stays stream.drawn
  | deterministic => exact not_one_le_sineHash _

theorem StaysBelowOne.advance {stream : DrawStream Float}
    (stays : stream.StaysBelowOne) : stream.advance.StaysBelowOne := by
  intro count
  rw [ambient_advance]
  exact stays count

end DrawStream

namespace Drawn

variable {α β : Type}

/-- The computation succeeds with every stream that stays below one, and its
result has a property. -/
def Gives (computation : Drawn Float α) (post : α → Prop) : Prop :=
  ∀ ⦃stream : DrawStream Float⦄, stream.StaysBelowOne →
    ∃ value next, runFrom stream computation = (.ok value, next) ∧
      next.StaysBelowOne ∧ post value

theorem gives_iff {computation : Drawn Float α} {post : α → Prop} :
    Gives computation post ↔
      DeliversFrom DrawStream.StaysBelowOne computation post :=
  Iff.rfl

namespace Gives

theorem pure {post : α → Prop} {value : α} (holds : post value) :
    Gives (pure value) post :=
  gives_iff.mpr (.pure holds)

theorem value : Gives Drawn.value (fun draw => ¬ 1.0 ≤ draw) := by
  intro stream stays
  exact ⟨stream.value, stream.advance, rfl, stays.advance, stays.value⟩

theorem bind {computation : Drawn Float α} {rest : α → Drawn Float β}
    {middle : α → Prop} {post : β → Prop} (first : Gives computation middle)
    (others : ∀ value, middle value → Gives (rest value) post) :
    Gives (computation >>= rest) post := by
  rw [gives_iff] at first ⊢
  exact first.bind fun value holds => gives_iff.mp (others value holds)

theorem weaken {computation : Drawn Float α} {post weaker : α → Prop}
    (gives : Gives computation post)
    (implies : ∀ value, post value → weaker value) :
    Gives computation weaker :=
  gives_iff.mpr ((gives_iff.mp gives).weaken implies)

theorem mapM {computation : α → Drawn Float β} {post : α → β → Prop}
    {sources : List α}
    (each : ∀ source ∈ sources, Gives (computation source) (post source)) :
    Gives (sources.mapM computation) (List.Forall₂ post sources) := by
  rw [gives_iff]
  exact .mapM fun source isSource => gives_iff.mp (each source isSource)

end Gives

end Drawn

end GrowthGrammar
