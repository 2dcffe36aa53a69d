import Mathlib
import GrowthGrammar.Proofs.Space.Exact
import GrowthGrammar.Shape.Boundary

/-!
# Boxes and tilings

A box has its sides along the axes.  Boxes tile a box if they lie inside it, share
no point of their interiors, and have its volume together.  A box is tiled by the
slices that it is cut into, and tilings of the tiles of a box make up a tiling of
the box.
-/

namespace GrowthGrammar

/-- What is decidable for an axis is decidable for all of them. -/
instance Axis.decidableForall {p : Axis → Prop} [DecidablePred p] :
    Decidable (∀ axis, p axis) :=
  decidable_of_iff (p .x ∧ p .y ∧ p .z)
    ⟨fun ⟨atX, atY, atZ⟩ axis => match axis with
      | .x => atX
      | .y => atY
      | .z => atZ,
    fun all => ⟨all .x, all .y, all .z⟩⟩

/-- A box by its lower and its upper end along each axis. -/
@[ext]
structure Box (K : Type) where
  lower : Axis → K
  upper : Axis → K

namespace Box

variable {K : Type} [ExactScalar K]

/-- The box with a given centre and given extents. -/
def around (centre extents : Vec3 K) : Box K :=
  { lower := fun axis => centre.along axis - extents.along axis / 2
    upper := fun axis => centre.along axis + extents.along axis / 2 }

/-- The extent along an axis. -/
def size (box : Box K) (axis : Axis) : K :=
  box.upper axis - box.lower axis

def volume (box : Box K) : K :=
  box.size .x * box.size .y * box.size .z

/-- The points between the lower and the upper ends. -/
def interior (box : Box K) : Set (Vec3 K) :=
  { point | ∀ axis,
    box.lower axis < point.along axis ∧ point.along axis < box.upper axis }

/-- Whether a box lies inside another; their sides may touch. -/
def IsInside (inner outer : Box K) : Prop :=
  ∀ axis, outer.lower axis ≤ inner.lower axis ∧
    inner.upper axis ≤ outer.upper axis

/-- One of `count` equal slices across an axis, from the lower end to the
upper. -/
def slice (box : Box K) (axis : Axis) (count number : Nat) : Box K :=
  let step := box.size axis / count
  { lower :=
      Function.update box.lower axis (box.lower axis + number * step)
    upper :=
      Function.update box.upper axis (box.lower axis + (number + 1) * step) }

/-- Boxes that fill a box without overlapping. -/
structure Tiles (outer : Box K) (tiles : List (Box K)) : Prop where
  inside : ∀ tile ∈ tiles, tile.IsInside outer
  apart : tiles.Pairwise fun first second =>
    Disjoint first.interior second.interior
  fills : (tiles.map volume).sum = outer.volume

@[simp]
theorem size_around (centre extents : Vec3 K) (axis : Axis) :
    (around centre extents).size axis = extents.along axis := by
  simp only [size, around]
  ring

theorem IsInside.refl (box : Box K) : box.IsInside box :=
  fun _ => ⟨le_rfl, le_rfl⟩

theorem IsInside.trans {inner middle outer : Box K}
    (first : inner.IsInside middle) (second : middle.IsInside outer) :
    inner.IsInside outer := by
  intro axis
  exact ⟨(second axis).1.trans (first axis).1,
    (first axis).2.trans (second axis).2⟩

theorem IsInside.interior_subset {inner outer : Box K}
    (inside : inner.IsInside outer) : inner.interior ⊆ outer.interior := by
  intro point isInner axis
  exact ⟨(inside axis).1.trans_lt (isInner axis).1,
    (isInner axis).2.trans_le (inside axis).2⟩

/-- Boxes are apart if one ends along some axis where the other begins, or
before. -/
theorem disjoint_interior {first second : Box K} {axis : Axis}
    (before : first.upper axis ≤ second.lower axis) :
    Disjoint first.interior second.interior := by
  rw [Set.disjoint_left]
  intro point inFirst inSecond
  have below := (inFirst axis).2
  have above := (inSecond axis).1
  linarith

/-! ## Slices -/

section Slices

variable (box : Box K) (axis : Axis) (count number : Nat)

theorem lower_slice : (box.slice axis count number).lower axis =
    box.lower axis + number * (box.size axis / count) := by
  simp [slice]

theorem upper_slice : (box.slice axis count number).upper axis =
    box.lower axis + (number + 1) * (box.size axis / count) := by
  simp [slice]

variable {axis} in
theorem slice_of_ne {other : Axis} (across : other ≠ axis) :
    (box.slice axis count number).lower other = box.lower other ∧
      (box.slice axis count number).upper other = box.upper other := by
  simp [slice, across]

theorem volume_slice :
    (box.slice axis count number).volume = box.volume / count := by
  cases axis <;> simp [volume, size, slice] <;> ring

variable {box axis count number}

/-- The slices together reach to the upper end. -/
theorem upper_eq (positive : 0 < count) :
    box.upper axis = box.lower axis + count * (box.size axis / count) := by
  have countNe : (count : K) ≠ 0 := by exact_mod_cast positive.ne'
  rw [mul_div_cancel₀ _ countNe, size]
  ring

theorem isInside_slice (solid : 0 ≤ box.size axis) (isSlice : number < count) :
    (box.slice axis count number).IsInside box := by
  intro other
  by_cases across : other = axis
  · subst across
    have stepNonneg : 0 ≤ box.size other / count :=
      div_nonneg solid (Nat.cast_nonneg count)
    have notLast : (number : K) + 1 ≤ count := by exact_mod_cast isSlice
    rw [lower_slice, upper_slice, upper_eq (Nat.zero_lt_of_lt isSlice)]
    constructor
    · have numberNonneg : (0 : K) ≤ number := Nat.cast_nonneg number
      have shift := mul_nonneg numberNonneg stepNonneg
      linarith
    · have within := mul_le_mul_of_nonneg_right notLast stepNonneg
      linarith
  · rw [(box.slice_of_ne count number across).1,
      (box.slice_of_ne count number across).2]
    exact ⟨le_rfl, le_rfl⟩

/-- A box is tiled by its slices. -/
theorem tiles_slices (solid : 0 ≤ box.size axis) (positive : 0 < count) :
    box.Tiles ((List.range count).map (box.slice axis count)) := by
  have countPos : (0 : K) < count := by exact_mod_cast positive
  constructor
  · rw [List.forall_mem_map]
    intro number isSlice
    rw [List.mem_range] at isSlice
    exact isInside_slice solid isSlice
  · rw [List.pairwise_map]
    apply List.pairwise_lt_range.imp
    intro first second before
    have ends : (box.slice axis count first).upper axis ≤
        (box.slice axis count second).lower axis := by
      rw [upper_slice, lower_slice]
      have ordered : (first : K) + 1 ≤ second := by exact_mod_cast before
      have stepNonneg : 0 ≤ box.size axis / count :=
        div_nonneg solid countPos.le
      have within := mul_le_mul_of_nonneg_right ordered stepNonneg
      linarith
    exact disjoint_interior ends
  · have equal : volume ∘ box.slice axis count =
        fun _ => box.volume / count := by
      funext number
      exact box.volume_slice axis count number
    rw [List.map_map, equal, List.map_const', List.length_range,
      List.sum_replicate, nsmul_eq_mul]
    field_simp

section Ends

variable {whole : Box K} (solid : 0 < box.size axis) (inside : box.IsInside whole)
  (isSlice : number < count)

include solid inside isSlice

/-- Of the slices of a box only the first can begin where the whole begins. -/
theorem lower_slice_eq_iff :
    (box.slice axis count number).lower axis = whole.lower axis ↔
      box.lower axis = whole.lower axis ∧ number = 0 := by
  have countPos : (0 : K) < count := by exact_mod_cast Nat.zero_lt_of_lt isSlice
  have stepPos : 0 < box.size axis / count := div_pos solid countPos
  have notBefore := (inside axis).1
  rw [lower_slice]
  constructor
  · intro meets
    rcases Nat.eq_zero_or_pos number with rfl | later
    · exact ⟨by simpa using meets, rfl⟩
    · have numberPos : (0 : K) < number := by exact_mod_cast later
      have shift := mul_pos numberPos stepPos
      linarith
  · rintro ⟨meets, rfl⟩
    simpa using meets

/-- Of the slices of a box only the last can end where the whole ends. -/
theorem upper_slice_eq_iff :
    (box.slice axis count number).upper axis = whole.upper axis ↔
      box.upper axis = whole.upper axis ∧ number + 1 = count := by
  have countPos : (0 : K) < count := by exact_mod_cast Nat.zero_lt_of_lt isSlice
  have stepPos : 0 < box.size axis / count := div_pos solid countPos
  have all : box.upper axis = box.lower axis + count * (box.size axis / count) :=
    upper_eq (Nat.zero_lt_of_lt isSlice)
  have notBehind := (inside axis).2
  rw [upper_slice]
  constructor
  · intro meets
    rcases Nat.lt_or_eq_of_le (Nat.succ_le_of_lt isSlice) with before | last
    · have early : (number : K) + 1 < count := by exact_mod_cast before
      have short := mul_lt_mul_of_pos_right early stepPos
      linarith
    · have final : (number : K) + 1 = count := by exact_mod_cast last
      rw [final, ← all] at meets
      exact ⟨meets, last⟩
  · rintro ⟨meets, rfl⟩
    rw [← meets, all]
    push_cast
    ring

end Ends

end Slices

/-! ## Tilings of tiles -/

theorem tiles_refl (box : Box K) : box.Tiles [box] := by
  constructor
  · simp [IsInside.refl]
  · simp
  · simp

section Refine

variable {tiles : List (Box K)} {parts : List (List (Box K))}
  (each : List.Forall₂ Tiles tiles parts)

include each

theorem exists_tile_of_mem_flatten {part : Box K}
    (isPart : part ∈ parts.flatten) : ∃ tile ∈ tiles, part.IsInside tile := by
  induction each with
  | nil => simp at isPart
  | @cons tile first tiles rest tiled _ ih =>
      rw [List.flatten_cons, List.mem_append] at isPart
      rcases isPart with inFirst | inRest
      · exact ⟨tile, List.mem_cons_self, tiled.inside part inFirst⟩
      · obtain ⟨other, isTile, inside⟩ := ih inRest
        exact ⟨other, List.mem_cons_of_mem _ isTile, inside⟩

theorem pairwise_flatten_of_tiles
    (apart : tiles.Pairwise fun first second =>
      Disjoint first.interior second.interior) :
    parts.flatten.Pairwise fun first second =>
      Disjoint first.interior second.interior := by
  induction each with
  | nil => exact .nil
  | @cons tile first tiles rest tiled others ih =>
      rw [List.pairwise_cons] at apart
      rw [List.flatten_cons, List.pairwise_append]
      refine ⟨tiled.apart, ih apart.2, ?_⟩
      intro part inFirst other inRest
      obtain ⟨otherTile, isTile, inside⟩ :=
        exists_tile_of_mem_flatten others inRest
      exact (apart.1 otherTile isTile).mono
        (tiled.inside part inFirst).interior_subset inside.interior_subset

theorem sum_volume_flatten_of_tiles :
    (parts.flatten.map volume).sum = (tiles.map volume).sum := by
  induction each with
  | nil => rfl
  | cons tiled _ ih =>
      rw [List.flatten_cons, List.map_append, List.sum_append, tiled.fills, ih,
        List.map_cons, List.sum_cons]

/-- Where every tile of a box is tiled, all these tiles together tile the
box. -/
theorem Tiles.flatten {outer : Box K} (tiled : outer.Tiles tiles) :
    outer.Tiles parts.flatten := by
  constructor
  · intro part isPart
    obtain ⟨tile, isTile, inside⟩ := exists_tile_of_mem_flatten each isPart
    exact inside.trans (tiled.inside tile isTile)
  · exact pairwise_flatten_of_tiles each tiled.apart
  · rw [sum_volume_flatten_of_tiles each, tiled.fills]

end Refine

end Box

end GrowthGrammar
