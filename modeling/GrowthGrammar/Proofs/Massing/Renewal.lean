import GrowthGrammar.Massing
import GrowthGrammar.Proofs.Guarantee

/-!
# Rounds renew shapes

A round puts in the place of every shape what it becomes, and does not look from
one shape to another.  So a property of sequences of shapes is kept by all rounds
if it is kept whenever each shape is exchanged for something that it can become.
-/

namespace GrowthGrammar.Growth

variable {D K : Type} [Scalar D] [Scalar K] [Narrowing D K]

/-- What a round puts in the place of one shape. -/
def renew (shape : Shape K) : Drawn D (List (Shape K)) := do
  if shape.expands then
    let draw ← Drawn.value
    shape.expand draw
  else
    return [shape]

theorem expandOnto_eq :
    expandOnto (D := D) = fun written (shape : Shape K) =>
      do return written ++ (← renew shape) := by
  funext written shape
  unfold expandOnto renew
  split
  · simp only [bind_assoc]
  · rw [pure_bind]
    rfl

/-- A round renews the shapes one by one and joins what they become. -/
theorem expandAll_eq (shapes : List (Shape K)) :
    expandAll (D := D) shapes = List.flatten <$> shapes.mapM renew := by
  have collected := toList_foldlM_append (m := Drawn D) renew shapes #[]
  simp only [List.nil_append] at collected
  rw [expandAll, expandOnto_eq]
  exact collected

theorem runFrom_round_of_ok {site : Site D K} {shapes : List (Shape K)}
    {stream : DrawStream D}
    (all : runFrom site.stream (expandAll site.massing.shapes) =
      (.ok shapes, stream)) :
    runFrom site round = (.ok site.massing.canGrow,
      { massing :=
          { site.massing with
            shapes := shapes
            rounds := site.massing.rounds + 1 }
        stream := stream }) := by
  unfold runFrom at all ⊢
  change round site = _
  rw [round]
  dsimp only
  rw [all]

theorem runFrom_round_of_error {site : Site D K} {error : GrowthError}
    {stream : DrawStream D}
    (all : runFrom site.stream (expandAll site.massing.shapes) =
      (.error error, stream)) :
    runFrom site round = (.error error, { site with stream := stream }) := by
  unfold runFrom at all ⊢
  change round site = _
  rw [round, all]

/-- After a round the shapes are as before, if the round failed, or every shape
has become what its renewal ensures. -/
theorem shapes_of_round {site : Site D K}
    {post : Shape K → List (Shape K) → Prop}
    (each : ∀ shape ∈ site.massing.shapes,
      Ensures (renew (D := D) shape) (post shape)) :
    (runFrom site round).2.massing.shapes = site.massing.shapes ∨
      ∃ parts, List.Forall₂ post site.massing.shapes parts ∧
        (runFrom site round).2.massing.shapes = parts.flatten := by
  have ensured := Ensures.mapM each
  rcases renewed : runFrom site.stream (site.massing.shapes.mapM renew) with
    ⟨error | parts, stream⟩
  · left
    have all : runFrom site.stream (expandAll site.massing.shapes) =
        (.error error, stream) := by
      rw [expandAll_eq, runFrom_map, renewed]
      rfl
    rw [runFrom_round_of_error all]
  · right
    have all : runFrom site.stream (expandAll site.massing.shapes) =
        (.ok parts.flatten, stream) := by
      rw [expandAll_eq, runFrom_map, renewed]
      rfl
    rw [runFrom_round_of_ok all]
    exact ⟨parts, ensured renewed, rfl⟩

/-! ## All that can be reached -/

/-- The sites that rounds make out of a site.  The random stream may be exchanged
between two rounds, so that every round may be given any values. -/
inductive Reaches (start : Site D K) : Site D K → Prop where
  | start : Reaches start start
  | round {site : Site D K} (reached : Reaches start site) :
      Reaches start (runFrom site round).2
  | redirected {site : Site D K} (reached : Reaches start site)
      (stream : DrawStream D) : Reaches start { site with stream := stream }

/-- What is kept when every shape becomes what its renewal ensures holds of all
sequences that can be reached. -/
theorem Reaches.of_kept {start site : Site D K}
    (reached : Reaches start site)
    {motive : List (Shape K) → Prop}
    {post : Shape K → List (Shape K) → Prop}
    (atStart : motive start.massing.shapes)
    (renewed : ∀ {shapes : List (Shape K)}, motive shapes →
      ∀ shape ∈ shapes, Ensures (renew (D := D) shape) (post shape))
    (kept : ∀ {shapes parts}, motive shapes →
      List.Forall₂ post shapes parts → motive parts.flatten) :
    motive site.massing.shapes := by
  induction reached with
  | start => exact atStart
  | redirected _ _ ih => exact ih
  | round _ ih =>
      rcases shapes_of_round (renewed ih) with same | ⟨parts, become, joined⟩
      · rw [same]
        exact ih
      · rw [joined]
        exact kept ih become

end GrowthGrammar.Growth
