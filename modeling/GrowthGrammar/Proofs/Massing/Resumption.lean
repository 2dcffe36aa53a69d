import GrowthGrammar.Proofs.Massing.Unfolding

/-!
# Growth can be interrupted

No round fails, whatever the random values are.  So growth until nothing can expand may
be cut anywhere: the rounds before the cut and those behind it do together what one run
does.  Only the idle round at the end may be made on both sides of the cut.  It takes no
value and changes no shape, and it is the same for all rounds that follow: a sequence in
which nothing can expand stays as it is.
-/

namespace GrowthGrammar.Growth

variable {D K : Type} [Scalar D] [Scalar K] [Narrowing D K] {site : Site D K}

/-! ## Rounds -/

/-- A round never fails, and tells whether a shape could expand. -/
theorem exists_round (site : Site D K) :
    ∃ next, runFrom site round = (.ok site.massing.canGrow, next) := by
  have values := delivers_iff.mp (Drawn.delivers_value (D := D))
  obtain ⟨next, run, -⟩ := round_renews values site trivial
  exact ⟨next, run⟩

/-- The site after an idle round: only the round is counted. -/
def idled (site : Site D K) : Site D K :=
  { site with massing := { site.massing with rounds := site.massing.rounds + 1 } }

/-- Shapes that cannot expand are written down as they are, and take no value. -/
theorem runFrom_expandAll_of_rest {shapes : List (Shape K)}
    (rest : ∀ shape ∈ shapes, shape.expands = false) (stream : DrawStream D) :
    runFrom stream (expandAll shapes) = (.ok shapes, stream) := by
  have unchanged : runFrom stream (shapes.mapM renew) =
      (.ok (shapes.map fun shape => [shape]), stream) := by
    induction shapes with
    | nil => rfl
    | cons shape shapes ih =>
        rw [List.forall_mem_cons] at rest
        have stays : renew (D := D) shape = pure [shape] := by
          rw [renew, if_neg (by simp [rest.1])]
        rw [List.mapM_cons, stays, pure_bind, runFrom_bind_of_ok (ih rest.2)]
        rfl
  rw [expandAll_eq, runFrom_map, unchanged, Except.map, ← List.flatMap_def,
    List.flatMap_singleton']

/-- A round in which nothing can expand is idle. -/
theorem runFrom_round_of_rest (rest : site.massing.canGrow = false) :
    runFrom site round = (.ok false, idled site) := by
  have rests : ∀ shape ∈ site.massing.shapes, shape.expands = false := by
    simpa [Massing.canGrow] using rest
  rw [runFrom_round_of_ok (runFrom_expandAll_of_rest rests site.stream), rest, idled]

/-- Only a round in which nothing can expand is idle. -/
theorem runFrom_round_eq_false_iff {idle : Site D K} :
    runFrom site round = (.ok false, idle) ↔
      site.massing.canGrow = false ∧ idle = idled site := by
  constructor
  · intro run
    obtain ⟨next, roundRun⟩ := exists_round site
    rw [run, Prod.mk.injEq, Except.ok.injEq] at roundRun
    have rest := roundRun.1.symm
    rw [runFrom_round_of_rest rest, Prod.mk.injEq] at run
    exact ⟨rest, run.2.symm⟩
  · rintro ⟨rest, rfl⟩
    exact runFrom_round_of_rest rest

/-- The rounds stop at the first idle one. -/
theorem runFrom_untilSettled_of_rest (rest : site.massing.canGrow = false) (limit : Nat) :
    runFrom site (untilSettled limit) =
      (.ok 0, if limit = 0 then site else idled site) := by
  cases limit with
  | zero => rfl
  | succ limit =>
      rw [untilSettled, runFrom_bind_of_ok (runFrom_round_of_rest rest)]
      rfl

/-- A productive round is followed by the rounds that are left. -/
theorem runFrom_untilSettled_of_grows {next later : Site D K} {limit productive : Nat}
    (first : runFrom site round = (.ok true, next))
    (others : runFrom next (untilSettled limit) = (.ok productive, later)) :
    runFrom site (untilSettled (limit + 1)) = (.ok (productive + 1), later) := by
  rw [untilSettled, runFrom_bind_of_ok first, if_pos rfl, runFrom_bind_of_ok others]
  rfl

/-- Runs never fail either. -/
theorem exists_untilSettled (site : Site D K) (limit : Nat) :
    ∃ productive later,
      runFrom site (untilSettled limit) = (.ok productive, later) := by
  induction limit generalizing site with
  | zero => exact ⟨0, site, rfl⟩
  | succ limit ih =>
      cases grows : site.massing.canGrow with
      | false => exact ⟨0, _, runFrom_untilSettled_of_rest grows _⟩
      | true =>
          obtain ⟨next, first⟩ := exists_round site
          obtain ⟨productive, later, others⟩ := ih next
          rw [grows] at first
          exact ⟨_, _, runFrom_untilSettled_of_grows first others⟩

/-! ## Cutting a run -/

/-- Two sites that differ in nothing but the number of rounds. -/
structure SameGrowth (first second : Site D K) : Prop where
  start_eq : first.massing.start = second.massing.start
  shapes_eq : first.massing.shapes = second.massing.shapes
  budget_eq : first.massing.budget = second.massing.budget
  stream_eq : first.stream = second.stream

namespace SameGrowth

omit [Scalar D] [Scalar K] [Narrowing D K]

variable {start : Site D K}

theorem refl (site : Site D K) : SameGrowth site site :=
  ⟨rfl, rfl, rfl, rfl⟩

theorem canGrow_eq (same : SameGrowth site start) :
    site.massing.canGrow = start.massing.canGrow := by
  rw [Massing.canGrow, Massing.canGrow, same.shapes_eq]

theorem idled (same : SameGrowth site start) : SameGrowth (Growth.idled site) start :=
  ⟨same.start_eq, same.shapes_eq, same.budget_eq, same.stream_eq⟩

/-- What an idle run leaves. -/
theorem of_idle (same : SameGrowth site start) (limit : Nat) :
    SameGrowth (if limit = 0 then site else Growth.idled site) start := by
  split
  · exact same
  · exact same.idled

end SameGrowth

/-- A run of at most `first` rounds and one of at most `second` rounds behind it do what
one run of all these rounds does. -/
theorem exists_resumed (site : Site D K) (first second : Nat) :
    ∃ before after cut resumed whole,
      runFrom site (untilSettled first) = (.ok before, cut) ∧
      runFrom cut (untilSettled second) = (.ok after, resumed) ∧
      runFrom site (untilSettled (first + second)) = (.ok (before + after), whole) ∧
      SameGrowth resumed whole := by
  -- The induction is on the rounds before the cut; it ends there, or in an idle round.
  induction first generalizing site with
  | zero =>
      obtain ⟨after, resumed, run⟩ := exists_untilSettled site second
      refine ⟨0, after, site, resumed, resumed, rfl, run, ?_, .refl resumed⟩
      rw [Nat.zero_add, Nat.zero_add, run]
  | succ first ih =>
      obtain ⟨next, firstRun⟩ := exists_round site
      cases grows : site.massing.canGrow with
      | true =>
          rw [grows] at firstRun
          obtain ⟨before, after, cut, resumed, whole, beforeRun, afterRun, wholeRun,
            same⟩ := ih next
          refine ⟨before + 1, after, cut, resumed, whole,
            runFrom_untilSettled_of_grows firstRun beforeRun, afterRun, ?_, same⟩
          rw [Nat.succ_add, Nat.succ_add]
          exact runFrom_untilSettled_of_grows firstRun wholeRun
      | false =>
          have idledRest : (idled site).massing.canGrow = false := grows
          refine ⟨0, 0, idled site, _, idled site, ?_,
            runFrom_untilSettled_of_rest idledRest second, ?_, ?_⟩
          · rw [runFrom_untilSettled_of_rest grows, if_neg (Nat.succ_ne_zero first)]
          · rw [runFrom_untilSettled_of_rest grows, if_neg (by omega)]
          · exact (SameGrowth.refl (idled site)).of_idle second

/-! ## Rest -/

/-- The sites that further calls lead to: single rounds, and rounds until nothing can
expand. -/
inductive Continues (start : Site D K) : Site D K → Prop where
  | here : Continues start start
  | round {site : Site D K} (continued : Continues start site) :
      Continues start (runFrom site round).2
  | untilSettled {site : Site D K} (continued : Continues start site) (limit : Nat) :
      Continues start (runFrom site (untilSettled limit)).2

/-- No call behind an idle round changes the growth of a site. -/
theorem SameGrowth.of_continues {start : Site D K}
    (rest : start.massing.canGrow = false)
    (continued : Continues (Growth.idled start) site) : SameGrowth site start := by
  induction continued with
  | here => exact (SameGrowth.refl start).idled
  | round _ ih =>
      rw [runFrom_round_of_rest (ih.canGrow_eq.trans rest)]
      exact ih.idled
  | untilSettled _ limit ih =>
      rw [runFrom_untilSettled_of_rest (ih.canGrow_eq.trans rest)]
      exact ih.of_idle limit

/-- Growth can be cut into two runs anywhere: they never fail, they count as many
productive rounds as one run, and they leave the same shapes and the same random stream.
Once a round was idle, every further round is idle, every further run counts no round,
and no shape changes and no value is taken any more. -/
theorem growth_resumes_and_rests (site : Site D K) :
    (∀ first second, ∃ before after cut resumed whole,
      runFrom site (untilSettled first) = (.ok before, cut) ∧
      runFrom cut (untilSettled second) = (.ok after, resumed) ∧
      runFrom site (untilSettled (first + second)) = (.ok (before + after), whole) ∧
      SameGrowth resumed whole) ∧
    ∀ idle, runFrom site round = (.ok false, idle) →
      ∀ later, Continues idle later →
        later.massing.shapes = site.massing.shapes ∧ later.stream = site.stream ∧
        (∃ next, runFrom later round = (.ok false, next)) ∧
        ∀ limit, ∃ next, runFrom later (untilSettled limit) = (.ok 0, next) := by
  refine ⟨exists_resumed site, ?_⟩
  intro idle run later continued
  obtain ⟨rest, rfl⟩ := runFrom_round_eq_false_iff.mp run
  have same : SameGrowth later site := .of_continues rest continued
  have laterRest : later.massing.canGrow = false := same.canGrow_eq.trans rest
  refine ⟨same.shapes_eq, same.stream_eq, ?_, ?_⟩
  · exact ⟨_, runFrom_round_of_rest laterRest⟩
  · intro limit
    exact ⟨_, runFrom_untilSettled_of_rest laterRest limit⟩

/-- A block inside a building cannot expand, though it is not finished. -/
theorem inner_block_rests :
    let inner : Shape Float32 :=
      { Shape.block Vec3.zero Vec3.zero ⟨8.0, 8.0, 8.0⟩ with boundary := .none }
    let site : Site Float Float32 :=
      { massing := Massing.ofShapes [inner] none
        stream := DrawStream.start (fun _ => 0.5) .deterministic 42 }
    inner.status = .active ∧ runFrom site round = (.ok false, idled site) ∧
      ∀ later, Continues (idled site) later →
        later.massing.shapes = [inner] ∧ later.stream.cursor = 42 ∧
        later.stream.drawn = 0 := by
  intro inner site
  have idle : runFrom site round = (.ok false, idled site) := rfl
  refine ⟨rfl, idle, ?_⟩
  intro later continued
  obtain ⟨shapes, stream, -⟩ :=
    (growth_resumes_and_rests site).2 (idled site) idle later continued
  refine ⟨shapes, ?_, ?_⟩
  · rw [stream]
    rfl
  · rw [stream]
    rfl

end GrowthGrammar.Growth
