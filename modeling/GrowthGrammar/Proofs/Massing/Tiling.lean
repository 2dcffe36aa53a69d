import Mathlib
import GrowthGrammar.Proofs.Massing.Renewal
import GrowthGrammar.Proofs.Shape.Cell
import GrowthGrammar.Proofs.Shape.Policy.Erosion

/-!
# Blocks fill the volume that they grow from

What grows from an upright block are blocks and columns that stand upright inside
it.  Two things hold of them at every time, if numbers are not rounded.  A block
touches a face of the first volume exactly where its box ends with that volume;
and the boxes of the blocks, taken out or not, tile the volume together with the
boxes that were narrowed to columns.
-/

namespace GrowthGrammar

variable {D K : Type} [Scalar D] [ExactScalar K] [Narrowing D K]

/-! ## Blocks inside the first volume -/

namespace Block

/-- A block that stands upright in the whole and knows which of its ends are ends
of the whole. -/
structure StandsIn (whole : Box K) (shape : Shape K) : Prop where
  isBlock : shape.kind = .block
  upright : shape.rotation = Vec3.zero
  solid : ∀ axis, 0 < shape.extents.along axis
  inside : shape.bounds.IsInside whole
  touches_lower_iff : ∀ axis,
    shape.boundary.touches (Face.atEnd axis .min) = true ↔
      shape.bounds.lower axis = whole.lower axis
  touches_upper_iff : ∀ axis,
    shape.boundary.touches (Face.atEnd axis .max) = true ↔
      shape.bounds.upper axis = whole.upper axis

namespace StandsIn

variable {whole : Box K} {shape : Shape K}

/-- A fresh upright block is the whole. -/
theorem of_fresh {position extents : Vec3 K}
    (solid : ∀ axis, 0 < extents.along axis) :
    StandsIn (Box.around position extents)
      (Shape.block position Vec3.zero extents) := by
  constructor
  · rfl
  · rfl
  · exact solid
  · exact Box.IsInside.refl _
  · intro axis
    cases axis <;> exact iff_of_true rfl rfl
  · intro axis
    cases axis <;> exact iff_of_true rfl rfl

/-- Neither the depth nor the status nor the fate of a block moves it. -/
theorem restate (stands : StandsIn whole shape) (depth : Nat) (status : Status)
    (fate : Fate) :
    StandsIn whole
      { shape with depth := depth, status := status, fate := fate } :=
  ⟨stands.isBlock, stands.upright, stands.solid, stands.inside,
    stands.touches_lower_iff, stands.touches_upper_iff⟩

/-- The pieces of a block stand in the whole, too: the flags of a piece are passed
on to the ends of the row of pieces, and no inner end is an end of the whole. -/
theorem piece (stands : StandsIn whole shape) (axis : Axis) {count number : Nat}
    (isPiece : number < count) :
    StandsIn whole (shape.piece axis count number) := by
  have positive : 0 < count := Nat.zero_lt_of_lt isPiece
  have solid : ∀ other, 0 < shape.bounds.size other := by
    intro other
    rw [Shape.size_bounds]
    exact stands.solid other
  have bounds := Shape.bounds_piece stands.upright axis positive number
  constructor
  · rw [Shape.kind_piece, stands.isBlock]
  · rw [Shape.rotation_piece, stands.upright]
  · intro other
    rw [Shape.extents_piece]
    have countPos : (0 : K) < count := by exact_mod_cast positive
    split
    · exact div_pos (stands.solid other) countPos
    · exact stands.solid other
  · rw [bounds]
    exact (Box.isInside_slice (solid axis).le isPiece).trans stands.inside
  -- Across the divided axis the ends are those of a slice, of which only the
  -- outer ones can be ends of the whole.  Along the others nothing has changed.
  · intro other
    rw [Shape.touches_piece, bounds]
    by_cases across : other = axis
    · subst across
      rw [Box.lower_slice_eq_iff (solid other) stands.inside isPiece,
        ← stands.touches_lower_iff]
      simp
    · rw [(Box.slice_of_ne _ count number across).1,
        ← stands.touches_lower_iff]
      simp [across]
  · intro other
    rw [Shape.touches_piece, bounds]
    by_cases across : other = axis
    · subst across
      rw [Box.upper_slice_eq_iff (solid other) stands.inside isPiece,
        ← stands.touches_upper_iff]
      simp
    · rw [(Box.slice_of_ne _ count number across).2,
        ← stands.touches_upper_iff]
      simp [across]

end StandsIn

/-! ## What becomes of a block -/

/-- What the whole is made of: blocks that stand in it, and upright columns. -/
def IsPartOf (whole : Box K) (shape : Shape K) : Prop :=
  StandsIn whole shape ∨ shape.kind = .column ∧ shape.rotation = Vec3.zero

/-- Parts of the whole that fill a place in it. -/
structure Fill (whole place : Box K) (shapes : List (Shape K)) : Prop where
  parts : ∀ shape ∈ shapes, IsPartOf whole shape
  tiled : place.Tiles (shapes.map Shape.cell)

section Fill

variable {whole place : Box K} {shape : Shape K}

theorem fill_singleton (isPart : IsPartOf whole shape)
    (fits : shape.cell = place) : Fill whole place [shape] := by
  constructor
  · rw [List.forall_mem_singleton]
    exact isPart
  · rw [List.map_singleton, fits]
    exact Box.tiles_refl _

/-- A block whose fate is carried out keeps its place, and so does the column made
of it. -/
theorem StandsIn.fill_meetFate (stands : StandsIn whole shape) :
    Fill whole shape.cell [shape.meetFate] := by
  rw [Shape.meetFate]
  split
  · exact fill_singleton (Or.inl (stands.restate shape.depth .finished _)) rfl
  · apply fill_singleton
    · exact Or.inr ⟨rfl, stands.upright⟩
    · rw [Shape.cell_toColumn, Shape.cell_of_isBlock stands.isBlock]
  · exact fill_singleton (Or.inl (stands.restate shape.depth .removed _)) rfl

theorem StandsIn.fill_pieces (stands : StandsIn whole shape) (axis : Axis)
    {count : Nat} (positive : 0 < count) :
    Fill whole shape.cell (shape.pieces axis count) := by
  constructor
  · rw [Shape.pieces, List.forall_mem_map]
    intro number isPiece
    exact Or.inl (stands.piece axis (List.mem_range.mp isPiece))
  · have cells : Shape.cell ∘ shape.piece axis count =
        shape.cell.slice axis count := by
      funext number
      rw [Function.comp_apply, Shape.cell_of_isBlock stands.isBlock,
        Shape.cell_of_isBlock (by rw [Shape.kind_piece, stands.isBlock]),
        Shape.bounds_piece stands.upright axis positive]
    rw [Shape.pieces, List.map_map, cells]
    apply Box.tiles_slices _ positive
    rw [Shape.cell_of_isBlock stands.isBlock, Shape.size_bounds]
    exact (stands.solid axis).le

/-- Whatever a block becomes fills its place. -/
theorem StandsIn.fill_of_becomes (stands : StandsIn whole shape)
    {pieces : List (Shape K)} (becomes : Becomes shape pieces) :
    Fill whole shape.cell pieces := by
  cases becomes with
  | settled => exact stands.fill_meetFate
  | fated =>
      exact fill_singleton (Or.inl (stands.restate _ shape.status .column)) rfl
  | removed =>
      exact fill_singleton (Or.inl (stands.restate shape.depth .removed _)) rfl
  | divided _ _ axis several =>
      exact stands.fill_pieces axis (Nat.zero_lt_of_lt several)

/-- A round puts parts of the whole in the place of a part, which is the part
itself if it rests. -/
theorem IsPartOf.renew_ensures (isPart : IsPartOf whole shape) :
    Ensures (Growth.renew (D := D) shape) (Fill whole shape.cell) := by
  rw [Growth.renew]
  split
  · next expands =>
      have stands : StandsIn whole shape := by
        apply isPart.resolve_right
        rintro ⟨isColumn, -⟩
        simp [Shape.expands, isColumn] at expands
      refine .bind_of_forall fun draw => ?_
      refine (expand_delivers stands.isBlock expands draw).ensures.weaken ?_
      exact fun pieces becomes => stands.fill_of_becomes becomes
  · exact .pure (fill_singleton isPart rfl)

/-! ## All rounds -/

theorem fill_fresh {position extents : Vec3 K}
    (solid : ∀ axis, 0 < extents.along axis) :
    Fill (Box.around position extents) (Box.around position extents)
      [Shape.block position Vec3.zero extents] :=
  fill_singleton (Or.inl (StandsIn.of_fresh solid)) rfl

/-- A place stays filled if the place of every shape is filled anew. -/
theorem Fill.flatten {shapes : List (Shape K)} {parts : List (List (Shape K))}
    (fill : Fill whole place shapes)
    (refilled : List.Forall₂ (fun shape => Fill whole shape.cell) shapes parts) :
    Fill whole place parts.flatten := by
  constructor
  · exact forall_mem_flatten_of_forall₂ refilled fun part => part.parts
  · rw [List.map_flatten]
    apply Box.Tiles.flatten _ fill.tiled
    rw [List.forall₂_map_left_iff, List.forall₂_map_right_iff]
    exact refilled.imp fun _ _ part => part.tiled

end Fill

/-- Whether rounds can lead to a site from a fresh upright block. -/
def GrownFrom (position extents : Vec3 K) (site : Site D K) : Prop :=
  ∃ budget stream, Growth.Reaches
    { massing :=
        Massing.ofShapes [Shape.block position Vec3.zero extents] budget
      stream := stream } site

section Grown

variable {position extents : Vec3 K} {site : Site D K}

theorem GrownFrom.fill (grown : GrownFrom position extents site)
    (solid : ∀ axis, 0 < extents.along axis) :
    Fill (Box.around position extents) (Box.around position extents)
      site.massing.shapes := by
  obtain ⟨budget, stream, reached⟩ := grown
  apply reached.of_kept (fill_fresh solid)
  · intro shapes fill shape isShape
    exact (fill.parts shape isShape).renew_ensures
  · intro shapes parts fill refilled
    exact fill.flatten refilled

/-- Every block, taken out or not, stands upright, and it touches a face of the
first volume if and only if it ends there. -/
theorem touches_iff_ends (solid : ∀ axis, 0 < extents.along axis)
    (grown : GrownFrom position extents site) {piece : Shape K}
    (isPiece : piece ∈ site.massing.shapes) (isBlock : piece.kind = .block) :
    piece.rotation = Vec3.zero ∧ ∀ axis,
      (piece.boundary.touches (Face.atEnd axis .min) = true ↔
        piece.bounds.lower axis = (Box.around position extents).lower axis) ∧
      (piece.boundary.touches (Face.atEnd axis .max) = true ↔
        piece.bounds.upper axis = (Box.around position extents).upper axis) := by
  have isPart := (grown.fill solid).parts piece isPiece
  have stands : StandsIn (Box.around position extents) piece := by
    apply isPart.resolve_right
    rintro ⟨isColumn, -⟩
    rw [isBlock] at isColumn
    contradiction
  refine ⟨stands.upright, fun axis => ?_⟩
  exact ⟨stands.touches_lower_iff axis, stands.touches_upper_iff axis⟩

/-- After two rounds some block stands off the ground and below the top, between
all walls. -/
theorem ends_of_inner_block :
    let extents : Vec3 ℚ := ⟨9, 9, 9⟩
    let start : Site ℚ ℚ :=
      { massing :=
          Massing.ofShapes [Shape.block Vec3.zero Vec3.zero extents] none
        stream := DrawStream.start (fun _ => 3 / 10) .stochastic 0 }
    let next := fun site : Site ℚ ℚ => (runFrom site Growth.round).2
    let site := next (next start)
    (∀ axis, 0 < extents.along axis) ∧ GrownFrom Vec3.zero extents site ∧
      ∃ piece ∈ site.massing.shapes, piece.kind = .block ∧
        piece.boundary = ⟨true, true, false, false, true, true⟩ ∧
        piece.bounds.lower .x = -9 / 2 ∧ piece.bounds.upper .x = 9 / 2 ∧
        piece.bounds.lower .y ≠ -9 / 2 ∧ piece.bounds.upper .y ≠ 9 / 2 := by
  intro extents start next site
  have solid : ∀ axis, 0 < extents.along axis := by decide +kernel
  have grown : GrownFrom Vec3.zero extents site :=
    ⟨none, _, .round (.round .start)⟩
  have present : ∃ piece ∈ site.massing.shapes,
      piece.kind = .block ∧
        piece.boundary = ⟨true, true, false, false, true, true⟩ := by
    decide +kernel
  obtain ⟨piece, isPiece, isBlock, boundary⟩ := present
  have ends := (touches_iff_ends solid grown isPiece isBlock).2
  have lower : ∀ axis, (Box.around (Vec3.zero : Vec3 ℚ) extents).lower axis =
      -9 / 2 := by decide +kernel
  have upper : ∀ axis, (Box.around (Vec3.zero : Vec3 ℚ) extents).upper axis =
      9 / 2 := by decide +kernel
  simp only [lower, upper, boundary] at ends
  refine ⟨solid, grown, piece, isPiece, isBlock, boundary, ?_, ?_, ?_, ?_⟩
  · exact (ends .x).1.mp rfl
  · exact (ends .x).2.mp rfl
  · exact fun meets => Bool.false_ne_true ((ends .y).1.mpr meets)
  · exact fun meets => Bool.false_ne_true ((ends .y).2.mpr meets)

/-- All shapes are upright blocks and columns, and their cells tile the volume of
the first block. -/
theorem cells_tile_volume (solid : ∀ axis, 0 < extents.along axis)
    (grown : GrownFrom position extents site) :
    (∀ shape ∈ site.massing.shapes,
      (shape.kind = .block ∨ shape.kind = .column) ∧
        shape.rotation = Vec3.zero) ∧
      (Box.around position extents).Tiles (site.massing.shapes.map Shape.cell) := by
  have fill := grown.fill solid
  refine ⟨?_, fill.tiled⟩
  intro shape isShape
  rcases fill.parts shape isShape with stands | ⟨isColumn, upright⟩
  · exact ⟨Or.inl stands.isBlock, stands.upright⟩
  · exact ⟨Or.inr isColumn, upright⟩

/-- A block is cut into slices, of which one becomes a column and another is taken
out. -/
theorem cells_of_eroded_block :
    let extents : Vec3 ℚ := ⟨9, 9, 9⟩
    let start : Site ℚ ℚ :=
      { massing :=
          Massing.ofShapes [Shape.block Vec3.zero Vec3.zero extents] none
        stream :=
          DrawStream.start (fun count => if count < 6 then 3 / 10 else 9 / 10)
            .stochastic 0 }
    let next := fun site : Site ℚ ℚ => (runFrom site Growth.round).2
    let site := next (next (next (next start)))
    (∀ axis, 0 < extents.along axis) ∧ GrownFrom Vec3.zero extents site ∧
      (site.massing.shapes.map fun shape => (shape.kind, shape.isRemoved)) =
        [(.column, false), (.block, false), (.block, false), (.block, false),
          (.block, false), (.block, false), (.block, true)] ∧
      (Box.around Vec3.zero extents).Tiles
        (site.massing.shapes.map Shape.cell) := by
  intro extents start next site
  have solid : ∀ axis, 0 < extents.along axis := by decide +kernel
  have grown : GrownFrom Vec3.zero extents site :=
    ⟨none, _, .round (.round (.round (.round .start)))⟩
  have eroded :
      (site.massing.shapes.map fun shape => (shape.kind, shape.isRemoved)) =
        [(.column, false), (.block, false), (.block, false), (.block, false),
          (.block, false), (.block, false), (.block, true)] := by
    decide +kernel
  exact ⟨solid, grown, eroded, (cells_tile_volume solid grown).2⟩

end Grown

end Block

end GrowthGrammar
