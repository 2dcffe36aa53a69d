import GrowthGrammar.Proofs.Shape.Policy.Floors
import GrowthGrammar.Proofs.Shape.Prospects

/-!
# Towers grow within their prospects

A tower becomes at most nine floors and each floor at most nine bands.  Setting
floors and bands back changes nothing in what can become of them.
-/

namespace GrowthGrammar.Tower

variable {K : Type} [Scalar K]

theorem isFair_floorRange : floorRange.IsFair :=
  { least_pos := by decide
    spread_pos := by decide
    spread_small := by decide
    spread_whole := ⟨50, by decide, rfl⟩ }

theorem isFair_bandRange : bandRange.IsFair :=
  { least_pos := by decide
    spread_pos := by decide
    spread_small := by decide
    spread_whole := ⟨50, by decide, rfl⟩ }

/-! ## Setting back -/

/-- Whether a measure depends neither on the width of a shape nor on its number of
sides. -/
def IgnoresWidth (measure : Shape K → Nat) : Prop :=
  ∀ (shape : Shape K) (x z : K) (sides : Nat),
    measure { shape.scaleAcross x z with sides := sides } = measure shape

theorem ignoresWidth_roundsLeft : IgnoresWidth (K := K) Shape.roundsLeft := by
  intro shape x z sides
  rfl

theorem ignoresWidth_leaves : IgnoresWidth (K := K) Shape.leaves := by
  intro shape x z sides
  rfl

theorem map_taperFloors {measure : Shape K → Nat} (ignores : IgnoresWidth measure)
    (sides : Nat) (inset : K) (floors : List (Shape K)) :
    (taperFloors sides inset floors).map measure = floors.map measure := by
  induction floors generalizing inset with
  | nil => rfl
  | cons floor floors ih =>
      rw [taperFloors, List.map_cons, List.map_cons, ih, ignores]

theorem map_insetBands {measure : Shape K → Nat} (ignores : IgnoresWidth measure)
    (bands : List (Shape K)) :
    (insetBands bands).map measure = bands.map measure := by
  fun_induction insetBands bands with
  | case1 outer inner bands ih =>
      have kept := ignores inner 0.93 0.93 inner.sides
      simp only [List.map_cons, ih]
      congr 2
  | case2 bands _ => rfl

variable {shape : Shape K} {form : TowerForm}

theorem grows_taperFloors {floors : List (Shape K)} (grows : shape.Grows floors)
    (sides : Nat) (inset : K) :
    shape.Grows (taperFloors sides inset floors) := by
  apply grows.congr
  · exact map_taperFloors ignoresWidth_roundsLeft sides inset floors
  · exact map_taperFloors ignoresWidth_leaves sides inset floors

theorem grows_insetBands {bands : List (Shape K)} (grows : shape.Grows bands) :
    shape.Grows (insetBands bands) := by
  apply grows.congr
  · exact map_insetBands ignoresWidth_roundsLeft bands
  · exact map_insetBands ignoresWidth_leaves bands

theorem grows_tapered {floors : List (Shape K)} (grows : shape.Grows floors)
    (form : TowerForm) : shape.Grows (tapered form floors) := by
  rw [tapered]
  split
  · exact grows_taperFloors grows 8 0.71
  · exact grows_taperFloors grows 4 1.0

/-! ## Steps -/

/-- Whatever a tower becomes for values below one keeps within its prospects. -/
theorem Becomes.grows (expands : shape.expands = true)
    (isTower : shape.kind = .tower form) {parts : List (Shape K)}
    (becomes : Becomes (fun draw : Float => ¬ 1.0 ≤ draw) shape parts) :
    shape.Grows parts := by
  have unfated := Shape.not_isFated_of_kind isTower nofun
  cases becomes with
  | floors isWhole form below =>
      obtain ⟨positive, bounded⟩ := isFair_floorRange.pieces_bounds .y below
      have depth : (formed form shape).depth = 0 := isWhole
      apply grows_tapered
      apply Shape.grows_of_divided expands unfated .y positive bounded
      · rw [isTower, isWhole, depth]
        exact Nat.lt_add_one 2
      · rw [isTower, isWhole, depth]
        exact Nat.le_refl 81
  | crowned _ _ => exact Shape.grows_of_settled expands rfl
  | banded isFloor _ below =>
      obtain ⟨positive, bounded⟩ := isFair_bandRange.pieces_bounds .y below
      apply grows_insetBands
      apply Shape.grows_of_divided expands unfated .y positive bounded
      · rw [isTower, isFloor]
        exact Nat.one_lt_two
      · rw [isTower, isFloor]
        exact Nat.le_refl 9
  | plain isFloor _ =>
      apply Shape.grows_of_deepened expands unfated
      · rw [Shape.kind_deepen, Shape.depth_deepen, isTower, isFloor]
        exact Nat.one_lt_two
      · rw [Shape.kind_deepen, Shape.depth_deepen, isTower, isFloor]
        exact Nat.one_le_ofNat
  | finished _ => exact Shape.grows_of_settled expands rfl

end GrowthGrammar.Tower
