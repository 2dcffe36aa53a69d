import GrowthGrammar.Error

/-!
# Fallible steps over a state

Edits, passes, drawings, sessions and growth are all steps that change a state
and may fail, and that keep what they did before they failed.  This module says
how such a step ends when it is run from a state.  The two exact laws for
sequences take a successful and a failed run apart at the step in the middle.
-/

namespace GrowthGrammar

universe u

variable {ε σ α β : Type u}

/-- The result of a step that is run from a state, and the state it leaves. -/
def runFrom (state : σ) (step : ExceptT ε (StateM σ) α) : Except ε α × σ :=
  step.run state

@[simp]
theorem runFrom_pure (state : σ) (value : α) :
    runFrom (ε := ε) state (pure value) = (.ok value, state) :=
  rfl

@[simp]
theorem runFrom_throw (state : σ) (error : ε) :
    runFrom (α := α) state (throw error) = (.error error, state) :=
  rfl

@[simp]
theorem runFrom_get (state : σ) :
    runFrom (ε := ε) state get = (.ok state, state) :=
  rfl

@[simp]
theorem runFrom_set (state next : σ) :
    runFrom (ε := ε) state (set next) = (.ok ⟨⟩, next) :=
  rfl

@[simp]
theorem runFrom_modify (state : σ) (change : σ → σ) :
    runFrom (ε := ε) state (modify change) = (.ok ⟨⟩, change state) :=
  rfl

@[simp]
theorem runFrom_modifyGet (state : σ) (change : σ → α × σ) :
    runFrom (ε := ε) state (modifyGet change) =
      (.ok (change state).1, (change state).2) :=
  rfl

theorem runFrom_eq_ok {state : σ} {step : ExceptT ε (StateM σ) α} {value : α}
    (reached : (runFrom state step).1.toOption = some value) :
    runFrom state step = (.ok value, (runFrom state step).2) := by
  generalize runFrom state step = ended at reached ⊢
  rcases ended with ⟨_ | other, next⟩
  · cases reached
  · cases reached
    rfl

theorem exists_runFrom_eq_error {state : σ} {step : ExceptT ε (StateM σ) α}
    (failed : (runFrom state step).1.toOption = none) :
    ∃ error, runFrom state step = (.error error, (runFrom state step).2) := by
  generalize runFrom state step = ended at failed ⊢
  rcases ended with ⟨error | other, next⟩
  · exact ⟨error, rfl⟩
  · cases failed

/-- A sequence goes on from where its first step ended, unless that failed. -/
theorem runFrom_bind (state : σ) (first : ExceptT ε (StateM σ) α)
    (rest : α → ExceptT ε (StateM σ) β) :
    runFrom state (first >>= rest) =
      match runFrom state first with
      | (.ok value, next) => runFrom next (rest value)
      | (.error error, next) => (.error error, next) := by
  simp only [runFrom, bind, ExceptT.bind, ExceptT.run, ExceptT.mk, StateT.bind,
    ExceptT.bindCont]
  generalize first state = ended
  obtain ⟨_ | _, _⟩ := ended <;> rfl

@[simp]
theorem runFrom_map (state : σ) (f : α → β) (step : ExceptT ε (StateM σ) α) :
    runFrom state (f <$> step) =
      ((runFrom state step).1.map f, (runFrom state step).2) := by
  rw [map_eq_pure_bind, runFrom_bind]
  rcases runFrom state step with ⟨_ | value, next⟩ <;> rfl

theorem runFrom_bind_of_ok {state next : σ} {value : α}
    {first : ExceptT ε (StateM σ) α}
    (firstRun : runFrom state first = (.ok value, next))
    (rest : α → ExceptT ε (StateM σ) β) :
    runFrom state (first >>= rest) = runFrom next (rest value) := by
  rw [runFrom_bind, firstRun]

theorem runFrom_bind_of_error {state next : σ} {error : ε}
    {first : ExceptT ε (StateM σ) α}
    (firstRun : runFrom state first = (.error error, next))
    (rest : α → ExceptT ε (StateM σ) β) :
    runFrom state (first >>= rest) = (.error error, next) := by
  rw [runFrom_bind, firstRun]

/-- A sequence succeeds exactly when both of its steps do. -/
theorem runFrom_bind_eq_ok_iff (state final : σ) (value : β)
    (first : ExceptT ε (StateM σ) α) (rest : α → ExceptT ε (StateM σ) β) :
    runFrom state (first >>= rest) = (.ok value, final) ↔
      ∃ middle next, runFrom state first = (.ok middle, next) ∧
        runFrom next (rest middle) = (.ok value, final) := by
  rw [runFrom_bind]
  rcases firstRun : runFrom state first with ⟨_ | middle, next⟩ <;> simp [and_assoc]

/-- A sequence fails exactly when one of its steps does. -/
theorem runFrom_bind_eq_error_iff (state final : σ) (error : ε)
    (first : ExceptT ε (StateM σ) α) (rest : α → ExceptT ε (StateM σ) β) :
    runFrom state (first >>= rest) = (.error error, final) ↔
      runFrom state first = (.error error, final) ∨
        ∃ middle next, runFrom state first = (.ok middle, next) ∧
          runFrom next (rest middle) = (.error error, final) := by
  rw [runFrom_bind]
  rcases firstRun : runFrom state first with ⟨_ | middle, next⟩ <;> simp [and_assoc]

/-- Writing one part after another behind what is already written is the same as
collecting the parts first. -/
theorem toList_foldlM_append {m : Type u → Type u} [Monad m] [LawfulMonad m]
    (part : α → m (List β)) (sources : List α) (written : Array β) :
    Array.toList <$> sources.foldlM
        (fun written source => do return written ++ (← part source)) written =
      (fun parts => written.toList ++ parts.flatten) <$> sources.mapM part := by
  induction sources generalizing written with
  | nil => simp
  | cons source sources ih =>
      simp only [bind_pure_comp] at ih ⊢
      simp [bind_pure_comp, ih]

/-- A list of checks passes exactly when each of them does. -/
theorem forM_eq_ok_iff {check : α → Except ε PUnit} (sources : List α) :
    sources.forM check = .ok ⟨⟩ ↔ ∀ source ∈ sources, check source = .ok ⟨⟩ := by
  simp only [List.forM_eq_forM]
  induction sources with
  | nil => simp [pure, Except.pure]
  | cons source sources ih =>
      rw [List.forM_cons, List.forall_mem_cons]
      cases checked : check source with
      | error error => simp [bind, Except.bind]
      | ok passed => simpa [bind, Except.bind] using ih

/-! ## Two runs -/

/-- From related states two steps end with the same result, and in related
states. -/
def Parallel (related : σ → σ → Prop) (first second : ExceptT ε (StateM σ) α) :
    Prop :=
  ∀ ⦃left right⦄, related left right →
    (runFrom left first).1 = (runFrom right second).1 ∧
      related (runFrom left first).2 (runFrom right second).2

namespace Parallel

variable {related : σ → σ → Prop}

theorem pure (value : α) :
    Parallel (ε := ε) related (pure value) (pure value) := by
  intro left right states
  exact ⟨rfl, states⟩

theorem bind {first second : ExceptT ε (StateM σ) α}
    {firstRest secondRest : α → ExceptT ε (StateM σ) β}
    (parallel : Parallel related first second)
    (restParallel : ∀ value,
      Parallel related (firstRest value) (secondRest value)) :
    Parallel related (first >>= firstRest) (second >>= secondRest) := by
  intro left right states
  have ended := parallel states
  rw [runFrom_bind, runFrom_bind]
  generalize runFrom left first = leftEnd at ended ⊢
  generalize runFrom right second = rightEnd at ended ⊢
  rcases leftEnd with ⟨result, leftNext⟩
  rcases rightEnd with ⟨_, rightNext⟩
  rcases ended with ⟨rfl, sameStates⟩
  cases result with
  | error error => exact ⟨rfl, sameStates⟩
  | ok value => exact restParallel value sameStates

/-- The second of two parallel steps ends as the first does. -/
theorem exists_run {first second : ExceptT ε (StateM σ) α}
    (parallel : Parallel related first second) {left right next : σ}
    {result : Except ε α} (states : related left right)
    (firstRun : runFrom left first = (result, next)) :
    ∃ other, runFrom right second = (result, other) ∧ related next other := by
  obtain ⟨sameResult, sameStates⟩ := parallel states
  rw [firstRun] at sameResult sameStates
  exact ⟨(runFrom right second).2, Prod.ext sameResult.symm rfl, sameStates⟩

theorem mapM {first second : α → ExceptT ε (StateM σ) β}
    (parallel : ∀ source, Parallel related (first source) (second source))
    (sources : List α) :
    Parallel related (sources.mapM first) (sources.mapM second) := by
  induction sources with
  | nil => exact Parallel.pure []
  | cons source sources ih =>
      rw [List.mapM_cons, List.mapM_cons]
      apply (parallel source).bind
      intro value
      apply ih.bind
      intro values
      exact Parallel.pure (value :: values)

end Parallel

end GrowthGrammar
