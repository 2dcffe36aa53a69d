import Mathlib.Data.List.Forall2
import GrowthGrammar.Proofs.Fallible

/-!
# What steps guarantee

Guarantees of a fallible step: what is true of its value if it succeeds, that it does
succeed with such a value, from every state or from every state with an invariant,
and what it leaves true of the state in any case.  All are put together from the
guarantees of the parts of a step.
-/

namespace GrowthGrammar

universe u

variable {ε σ α β : Type u}

/-- What holds of every entry of every part holds of all entries of the joined
parts. -/
theorem forall_mem_flatten_of_forall₂ {post : α → List β → Prop}
    {holds : β → Prop} {sources : List α} {parts : List (List β)}
    (related : List.Forall₂ post sources parts)
    (each : ∀ {source part}, post source part → ∀ value ∈ part, holds value) :
    ∀ value ∈ parts.flatten, holds value := by
  induction related with
  | nil => simp
  | cons first _ ih =>
      rw [List.flatten_cons, List.forall_mem_append]
      exact ⟨each first, ih⟩

theorem exists_of_forall₂ {post : α → β → Prop} {sources : List α} {parts : List β}
    (related : List.Forall₂ post sources parts) {source : α}
    (isSource : source ∈ sources) : ∃ part ∈ parts, post source part := by
  induction related with
  | nil => contradiction
  | cons first _ ih =>
      rcases List.mem_cons.mp isSource with rfl | later
      · exact ⟨_, List.mem_cons_self, first⟩
      · obtain ⟨part, isPart, holds⟩ := ih later
        exact ⟨part, List.mem_cons_of_mem _ isPart, holds⟩

/-- If the step succeeds, its value has a property. -/
def Ensures (step : ExceptT ε (StateM σ) α) (post : α → Prop) : Prop :=
  ∀ ⦃state value next⦄, runFrom state step = (.ok value, next) → post value

namespace Ensures

theorem pure {post : α → Prop} {value : α} (holds : post value) :
    Ensures (ε := ε) (σ := σ) (pure value) post := by
  intro state other next run
  cases run
  exact holds

theorem bind {step : ExceptT ε (StateM σ) α}
    {rest : α → ExceptT ε (StateM σ) β} {middle : α → Prop} {post : β → Prop}
    (first : Ensures step middle)
    (others : ∀ value, middle value → Ensures (rest value) post) :
    Ensures (step >>= rest) post := by
  intro state value next run
  rw [runFrom_bind_eq_ok_iff] at run
  obtain ⟨between, reached, firstRun, restRun⟩ := run
  exact others between (first firstRun) restRun

/-- A sequence whose rest ensures the property whatever value it goes on with. -/
theorem bind_of_forall {step : ExceptT ε (StateM σ) α}
    {rest : α → ExceptT ε (StateM σ) β} {post : β → Prop}
    (others : ∀ value, Ensures (rest value) post) :
    Ensures (step >>= rest) post := by
  have first : Ensures step fun _ => True := fun _ _ _ _ => trivial
  exact first.bind fun value _ => others value

theorem weaken {step : ExceptT ε (StateM σ) α} {post weaker : α → Prop}
    (ensures : Ensures step post)
    (implies : ∀ value, post value → weaker value) : Ensures step weaker :=
  fun _ value _ run => implies value (ensures run)

/-- A step for every entry of a list ensures what each of them ensures. -/
theorem mapM {step : α → ExceptT ε (StateM σ) β} {post : α → β → Prop}
    {sources : List α}
    (each : ∀ source ∈ sources, Ensures (step source) (post source)) :
    Ensures (sources.mapM step) (List.Forall₂ post sources) := by
  induction sources with
  | nil => exact pure .nil
  | cons source sources ih =>
      rw [List.forall_mem_cons] at each
      rw [List.mapM_cons]
      refine each.1.bind fun value holds => ?_
      refine (ih each.2).bind fun values restHolds => ?_
      exact pure (.cons holds restHolds)

end Ensures

/-- From every state with the invariant the step succeeds and keeps the invariant, and
its value has a property. -/
def DeliversFrom (invariant : σ → Prop) (step : ExceptT ε (StateM σ) α)
    (post : α → Prop) : Prop :=
  ∀ ⦃state⦄, invariant state →
    ∃ value next, runFrom state step = (.ok value, next) ∧ invariant next ∧ post value

namespace DeliversFrom

variable {invariant : σ → Prop}

theorem pure {post : α → Prop} {value : α} (holds : post value) :
    DeliversFrom (ε := ε) invariant (pure value) post :=
  fun state fits => ⟨value, state, rfl, fits, holds⟩

theorem bind {step : ExceptT ε (StateM σ) α}
    {rest : α → ExceptT ε (StateM σ) β} {middle : α → Prop} {post : β → Prop}
    (first : DeliversFrom invariant step middle)
    (others : ∀ value, middle value → DeliversFrom invariant (rest value) post) :
    DeliversFrom invariant (step >>= rest) post := by
  intro state fits
  obtain ⟨value, next, firstRun, nextFits, holds⟩ := first fits
  obtain ⟨last, final, restRun, finalFits, lastHolds⟩ := others value holds nextFits
  rw [runFrom_bind_of_ok firstRun]
  exact ⟨last, final, restRun, finalFits, lastHolds⟩

theorem weaken {step : ExceptT ε (StateM σ) α} {post weaker : α → Prop}
    (delivers : DeliversFrom invariant step post)
    (implies : ∀ value, post value → weaker value) :
    DeliversFrom invariant step weaker := by
  intro state fits
  obtain ⟨value, next, run, nextFits, holds⟩ := delivers fits
  exact ⟨value, next, run, nextFits, implies value holds⟩

/-- A step for every entry of a list delivers what each of them delivers. -/
theorem mapM {step : α → ExceptT ε (StateM σ) β} {post : α → β → Prop}
    {sources : List α}
    (each : ∀ source ∈ sources, DeliversFrom invariant (step source) (post source)) :
    DeliversFrom invariant (sources.mapM step) (List.Forall₂ post sources) := by
  induction sources with
  | nil => exact pure .nil
  | cons source sources ih =>
      rw [List.forall_mem_cons] at each
      rw [List.mapM_cons]
      refine each.1.bind fun value holds => ?_
      refine (ih each.2).bind fun values restHolds => ?_
      exact pure (.cons holds restHolds)

end DeliversFrom

/-- The step always succeeds, and its value has a property. -/
def Delivers (step : ExceptT ε (StateM σ) α) (post : α → Prop) : Prop :=
  ∀ state, ∃ value next, runFrom state step = (.ok value, next) ∧ post value

theorem delivers_iff {step : ExceptT ε (StateM σ) α} {post : α → Prop} :
    Delivers step post ↔ DeliversFrom (fun _ => True) step post := by
  simp [Delivers, DeliversFrom]

namespace Delivers

theorem pure {post : α → Prop} {value : α} (holds : post value) :
    Delivers (ε := ε) (σ := σ) (pure value) post :=
  delivers_iff.mpr (.pure holds)

theorem bind {step : ExceptT ε (StateM σ) α}
    {rest : α → ExceptT ε (StateM σ) β} {middle : α → Prop} {post : β → Prop}
    (first : Delivers step middle)
    (others : ∀ value, middle value → Delivers (rest value) post) :
    Delivers (step >>= rest) post := by
  rw [delivers_iff] at first ⊢
  exact first.bind fun value holds => delivers_iff.mp (others value holds)

theorem ensures {step : ExceptT ε (StateM σ) α} {post : α → Prop}
    (delivers : Delivers step post) : Ensures step post := by
  intro state value next run
  obtain ⟨delivered, _, deliveredRun, holds⟩ := delivers state
  rw [run] at deliveredRun
  cases deliveredRun
  exact holds

theorem weaken {step : ExceptT ε (StateM σ) α} {post weaker : α → Prop}
    (delivers : Delivers step post)
    (implies : ∀ value, post value → weaker value) : Delivers step weaker :=
  delivers_iff.mpr ((delivers_iff.mp delivers).weaken implies)

/-- What is delivered is delivered by some run. -/
theorem attained {step : ExceptT ε (StateM σ) α} {post : α → Prop}
    (delivers : Delivers step post) :
    Delivers step fun value =>
      post value ∧ ∃ state next, runFrom state step = (.ok value, next) := by
  intro state
  obtain ⟨value, next, run, holds⟩ := delivers state
  exact ⟨value, next, run, holds, state, next, run⟩

theorem mapM {step : α → ExceptT ε (StateM σ) β} {post : α → β → Prop}
    {sources : List α}
    (each : ∀ source ∈ sources, Delivers (step source) (post source)) :
    Delivers (sources.mapM step) (List.Forall₂ post sources) := by
  rw [delivers_iff]
  exact .mapM fun source isSource => delivers_iff.mp (each source isSource)

end Delivers

/-- A step keeps a property of the state, whether it fails or not. -/
def Preserves (invariant : σ → Prop) (step : ExceptT ε (StateM σ) α) : Prop :=
  ∀ ⦃state⦄, invariant state → invariant (runFrom state step).2

namespace Preserves

variable {invariant : σ → Prop}

theorem pure (value : α) :
    Preserves (ε := ε) invariant (pure value) :=
  fun _ holds => holds

theorem bind {step : ExceptT ε (StateM σ) α}
    {rest : α → ExceptT ε (StateM σ) β} (first : Preserves invariant step)
    (others : ∀ value, Preserves invariant (rest value)) :
    Preserves invariant (step >>= rest) := by
  intro state holds
  have holdsNext := first holds
  rw [runFrom_bind]
  generalize runFrom state step = ended at holdsNext ⊢
  rcases ended with ⟨_ | value, next⟩
  · exact holdsNext
  · exact others value holdsNext

end Preserves

end GrowthGrammar
