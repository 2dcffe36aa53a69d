import Mathlib
import GrowthGrammar.Proofs.Shape.Cell

/-!
# The space that a shape fills

A point of a shape is given by three fractions of its extents, counted from the lower
ends of its axes.  Where numbers are not rounded, a piece of a divided shape fills a slab
of it, whichever way the shape is turned: the slabs follow one another along the axis,
each begins at the face where the one before ends, and together they fill the shape.
-/

namespace GrowthGrammar

theorem Vec3.ext_along {α : Type} {a b : Vec3 α}
    (equal : ∀ axis, a.along axis = b.along axis) : a = b := by
  obtain ⟨x, y, z⟩ := a
  obtain ⟨x', y', z'⟩ := b
  cases equal .x
  cases equal .y
  cases equal .z
  rfl

namespace Shape

variable {K : Type} [ExactScalar K] (shape : Shape K)

/-! ## Points of a shape -/

/-- The direction of an axis of the shape. -/
def direction (axis : Axis) : Vec3 K :=
  shape.orientation.apply axis.unit

/-- How far a fraction of the extent along an axis lies from the centre. -/
def offset (axis : Axis) (fraction : K) : Vec3 K :=
  shape.direction axis * (shape.extents.along axis * (fraction - 0.5))

theorem offset_eq (axis : Axis) (fraction : K) :
    shape.offset axis fraction =
      shape.direction axis * (shape.extents.along axis * (fraction - 1 / 2)) := by
  have half : (0.5 : K) = 1 / 2 := by
    rw [ExactScalar.ofScientific_eq]
    norm_num
  rw [offset, half]

/-- The point at some fractions of the extents, counted from the lower ends. -/
def pointAt (fractions : Axis → K) : Vec3 K :=
  shape.position + shape.offset .x (fractions .x) + shape.offset .y (fractions .y) +
    shape.offset .z (fractions .z)

/-- All points of the shape. -/
def region : Set (Vec3 K) :=
  shape.pointAt '' Set.Icc 0 1

/-- The points between two fractions of the extent along an axis. -/
def slab (axis : Axis) (low high : K) : Set (Vec3 K) :=
  shape.pointAt '' { fractions | fractions ∈ Set.Icc 0 1 ∧
    fractions axis ∈ Set.Icc low high }

/-- The points at one end of an axis. -/
def face (axis : Axis) : Side → Set (Vec3 K)
  | .min => shape.slab axis 0 0
  | .max => shape.slab axis 1 1

theorem slab_zero_one (axis : Axis) : shape.slab axis 0 1 = shape.region := by
  have same : { fractions : Axis → K | fractions ∈ Set.Icc 0 1 ∧
      fractions axis ∈ Set.Icc 0 1 } = Set.Icc 0 1 := by
    ext fractions
    exact and_iff_left_of_imp fun within => ⟨within.1 axis, within.2 axis⟩
  rw [slab, same, region]

/-! ## Pieces -/

theorem update_mem_unit {fractions : Axis → K} (within : fractions ∈ Set.Icc 0 1)
    {axis : Axis} {fraction : K} (between : fraction ∈ Set.Icc 0 1) :
    Function.update fractions axis fraction ∈ Set.Icc 0 1 :=
  ⟨le_update_iff.mpr ⟨between.1, fun other _ => within.1 other⟩,
    update_le_iff.mpr ⟨between.2, fun other _ => within.2 other⟩⟩

/-- A value up to a count lies between a smaller whole number and the next one. -/
theorem exists_unit_of_le {count : Nat} (positive : 0 < count) {value : K}
    (nonneg : 0 ≤ value) (bounded : value ≤ count) :
    ∃ number < count, (number : K) ≤ value ∧ value ≤ number + 1 := by
  induction count, positive using Nat.le_induction with
  | base => exact ⟨0, Nat.zero_lt_one, by simpa using nonneg, by simpa using bounded⟩
  | succ count _ ih =>
      rcases le_total value (count : K) with early | late
      · obtain ⟨number, isEarly, between⟩ := ih early
        exact ⟨number, Nat.lt_succ_of_lt isEarly, between⟩
      · exact ⟨count, Nat.lt_succ_self count, late, by exact_mod_cast bounded⟩

section Pieces

variable {shape} {axis : Axis} {count : Nat}

theorem direction_piece (number : Nat) (other : Axis) :
    (shape.piece axis count number).direction other = shape.direction other := by
  rw [direction, direction, orientation, orientation, rotation_piece]

/-- Across the divided axis a piece reaches as far as the shape. -/
theorem offset_piece_of_ne {other : Axis} (across : other ≠ axis) (number : Nat) :
    (shape.piece axis count number).offset other = shape.offset other := by
  funext fraction
  rw [offset, offset, direction_piece, extents_piece, if_neg across]

variable (positive : 0 < count)

include positive

/-- Along the divided axis the pieces follow one another. -/
theorem position_add_offset_piece (number : Nat) (fraction : K) (other : Axis) :
    (shape.piece axis count number).position.along other +
        ((shape.piece axis count number).offset axis fraction).along other =
      shape.position.along other +
        (shape.offset axis ((fraction + number) / count)).along other := by
  have countNe : (count : K) ≠ 0 := by exact_mod_cast positive.ne'
  rw [offset_eq, offset_eq, direction_piece, Vec3.along_mul, Vec3.along_mul,
    position_piece, extents_piece, if_pos rfl, direction]
  field_simp
  ring

/-- The points of a piece are points of the shape: their fractions along the divided axis
lie as near to one another as the pieces are many. -/
theorem pointAt_piece (number : Nat) (fractions : Axis → K) :
    (shape.piece axis count number).pointAt fractions =
      shape.pointAt
        (Function.update fractions axis ((fractions axis + number) / count)) := by
  have across : ∀ other, other ≠ axis →
      (shape.piece axis count number).offset other (fractions other) =
        shape.offset other
          (Function.update fractions axis ((fractions axis + number) / count) other) := by
    intro other isOther
    rw [offset_piece_of_ne isOther, Function.update_of_ne isOther]
  apply Vec3.ext_along
  intro component
  have along : (shape.piece axis count number).position.along component +
      ((shape.piece axis count number).offset axis (fractions axis)).along component = _ :=
    position_add_offset_piece positive number (fractions axis) component
  simp only [pointAt, Vec3.along_add]
  cases axis with
  | x =>
      rw [across .y (by decide), across .z (by decide), Function.update_self]
      linear_combination along
  | y =>
      rw [across .x (by decide), across .z (by decide), Function.update_self]
      linear_combination along
  | z =>
      rw [across .x (by decide), across .y (by decide), Function.update_self]
      linear_combination along

/-- A slab of a piece is a slab of the shape. -/
theorem slab_piece {number : Nat} (isPiece : number < count) {low high : K}
    (lowNonneg : 0 ≤ low) (highLe : high ≤ 1) :
    (shape.piece axis count number).slab axis low high =
      shape.slab axis ((low + number) / count) ((high + number) / count) := by
  have countPos : (0 : K) < count := by exact_mod_cast positive
  have notLast : (number : K) + 1 ≤ count := by exact_mod_cast isPiece
  have numberNonneg : (0 : K) ≤ number := Nat.cast_nonneg number
  ext point
  constructor
  · rintro ⟨fractions, ⟨within, above, below⟩, rfl⟩
    rw [pointAt_piece positive]
    refine ⟨_, ⟨update_mem_unit within ?_, ?_⟩, rfl⟩
    · constructor
      · exact div_nonneg (by linarith) countPos.le
      · rw [div_le_one countPos]
        linarith
    · rw [Function.update_self]
      exact ⟨by gcongr, by gcongr⟩
  · rintro ⟨fractions, ⟨within, above, below⟩, rfl⟩
    rw [div_le_iff₀ countPos] at above
    rw [le_div_iff₀ countPos] at below
    refine ⟨Function.update fractions axis (fractions axis * count - number),
      ⟨update_mem_unit within ?_, ?_⟩, ?_⟩
    · exact ⟨by linarith, by linarith⟩
    · rw [Function.update_self]
      exact ⟨by linarith, by linarith⟩
    · rw [pointAt_piece positive, Function.update_self, Function.update_idem,
        sub_add_cancel, mul_div_cancel_right₀ _ countPos.ne', Function.update_eq_self]

/-- A piece fills the part of the shape between two fractions of its extent. -/
theorem region_piece {number : Nat} (isPiece : number < count) :
    (shape.piece axis count number).region =
      shape.slab axis (number / count) ((number + 1) / count) := by
  rw [← slab_zero_one _ axis, slab_piece positive isPiece le_rfl le_rfl, zero_add,
    add_comm 1]

/-- A piece ends where the next one begins. -/
theorem face_piece_max {number : Nat} (isPiece : number + 1 < count) :
    (shape.piece axis count number).face axis .max =
      (shape.piece axis count (number + 1)).face axis .min := by
  rw [face, face, slab_piece positive (Nat.lt_of_succ_lt isPiece) zero_le_one le_rfl,
    slab_piece positive isPiece le_rfl zero_le_one]
  push_cast
  rw [zero_add, add_comm 1]

/-- The pieces fill the shape. -/
theorem iUnion_region_piece :
    ⋃ number < count, (shape.piece axis count number).region = shape.region := by
  have countPos : (0 : K) < count := by exact_mod_cast positive
  apply Set.Subset.antisymm
  · apply Set.iUnion₂_subset
    intro number isPiece
    rw [region_piece positive isPiece]
    rintro _ ⟨fractions, ⟨within, -⟩, rfl⟩
    exact ⟨fractions, within, rfl⟩
  · rintro _ ⟨fractions, within, rfl⟩
    have nonneg : 0 ≤ fractions axis * count := mul_nonneg (within.1 axis) countPos.le
    have le_count : fractions axis * count ≤ count :=
      mul_le_of_le_one_left countPos.le (within.2 axis)
    obtain ⟨number, isPiece, above, below⟩ := exists_unit_of_le positive nonneg le_count
    rw [Set.mem_iUnion₂]
    refine ⟨number, isPiece, ?_⟩
    rw [region_piece positive isPiece]
    refine ⟨fractions, ⟨within, ?_, ?_⟩, rfl⟩
    · rwa [div_le_iff₀ countPos]
    · rwa [le_div_iff₀ countPos]

end Pieces

/-! ## Rows of pieces -/

/-- The greatest value of a counter of a shape, and the greatest number of pieces. -/
def maxCounter : Nat :=
  4294967295

/-- Whether no counter of a shape overflows when it is divided along an axis. -/
structure CanCount {K : Type} (shape : Shape K) (axis : Axis) : Prop where
  depth_lt : shape.depth < maxCounter
  divisions_lt : shape.divisions.along axis < maxCounter

/-- What a piece has from the shape that it was divided from. -/
structure IsPiece {K : Type} (shape : Shape K) (axis : Axis) (count number : Nat)
    (piece : Shape K) : Prop where
  depth_eq : piece.depth = shape.depth + 1
  depth_le : piece.depth ≤ maxCounter
  divisions_eq : piece.divisions.along axis = shape.divisions.along axis + 1
  divisions_le : piece.divisions.along axis ≤ maxCounter
  divisions_across : ∀ other, other ≠ axis →
    piece.divisions.along other = shape.divisions.along other
  extents_across : ∀ other, other ≠ axis →
    piece.extents.along other = shape.extents.along other
  lower_of_first : number = 0 →
    piece.boundary.touches (Face.atEnd axis .min) =
      shape.boundary.touches (Face.atEnd axis .min)
  lower_of_later : number ≠ 0 →
    piece.boundary.touches (Face.atEnd axis .min) = false
  upper_of_last : number + 1 = count →
    piece.boundary.touches (Face.atEnd axis .max) =
      shape.boundary.touches (Face.atEnd axis .max)
  upper_of_earlier : number + 1 ≠ count →
    piece.boundary.touches (Face.atEnd axis .max) = false
  faces_across : ∀ other, other ≠ axis → ∀ side,
    piece.boundary.touches (Face.atEnd other side) =
      shape.boundary.touches (Face.atEnd other side)
  /-- Nothing else changes but the place, and the names of the copies. -/
  rest_eq : piece = { shape with
    name := if number = 0 then shape.name else shape.name.push '*'
    position := piece.position
    extents := piece.extents
    depth := piece.depth
    boundary := piece.boundary
    divisions := piece.divisions }

theorem isPiece_piece {K : Type} [Scalar K] {shape : Shape K} {axis : Axis}
    (counts : shape.CanCount axis) (count number : Nat) :
    shape.IsPiece axis count number (shape.piece axis count number) := by
  have divisions : (shape.piece axis count number).divisions.along axis =
      shape.divisions.along axis + 1 := by
    rw [divisions_piece, Vec3.along_modifyAlong, if_pos rfl]
  exact
    { depth_eq := depth_piece shape axis count number
      depth_le := (depth_piece shape axis count number).trans_le counts.depth_lt
      divisions_eq := divisions
      divisions_le := divisions.trans_le counts.divisions_lt
      divisions_across := by
        intro other across
        rw [divisions_piece, Vec3.along_modifyAlong, if_neg across]
      extents_across := by
        intro other across
        have extents : (shape.piece axis count number).extents =
            shape.extents.modifyAlong axis (· / Scalar.ofNat count) := by
          rw [piece]
          split <;> rfl
        rw [extents, Vec3.along_modifyAlong, if_neg across]
      lower_of_first := by simp +contextual [touches_piece]
      lower_of_later := by simp +contextual [touches_piece]
      upper_of_last := by simp +contextual [touches_piece]
      upper_of_earlier := by simp +contextual [touches_piece]
      faces_across := by
        intro other across side
        simp [touches_piece, across]
      rest_eq := by
        rw [piece]
        split <;> rfl }

/-- The place of a piece: its centre lies at an odd multiple of half its extent from the
lower end of the axis. -/
structure StandsInRow (shape : Shape K) (axis : Axis) (count number : Nat)
    (piece : Shape K) : Prop where
  position_eq : piece.position =
    shape.position + shape.direction axis *
      (shape.extents.along axis *
        ((2 * (number : K) + 1) / (2 * (count : K)) - 1 / 2))
  extent_eq : piece.extents.along axis = shape.extents.along axis / (count : K)

theorem standsInRow_piece (shape : Shape K) (axis : Axis) (count number : Nat) :
    shape.StandsInRow axis count number (shape.piece axis count number) :=
  { position_eq := by
      apply Vec3.ext_along
      intro other
      rw [position_piece, Vec3.along_add, Vec3.along_mul, direction]
    extent_eq := by rw [extents_piece, if_pos rfl] }

/-- What holds of every piece by its number holds along the row of pieces. -/
theorem forall₂_pieces {K : Type} [Scalar K] (shape : Shape K) (axis : Axis)
    (count : Nat) {holds : Nat → Shape K → Prop}
    (each : ∀ number, holds number (shape.piece axis count number)) :
    List.Forall₂ holds (List.range count) (shape.pieces axis count) := by
  rw [pieces, List.forall₂_map_right_iff, List.forall₂_same]
  exact fun number _ => each number

/-- Each piece ends where the one behind it begins. -/
theorem isChain_pieces (shape : Shape K) (axis : Axis) {count : Nat} (positive : 0 < count) :
    (shape.pieces axis count).IsChain fun before behind =>
      before.face axis .max = behind.face axis .min := by
  rw [List.isChain_iff_getElem]
  intro number inside
  rw [length_pieces] at inside
  simp only [pieces, List.getElem_map, List.getElem_range]
  exact face_piece_max positive inside

theorem iUnion_region_pieces (shape : Shape K) (axis : Axis) {count : Nat}
    (positive : 0 < count) :
    ⋃ piece ∈ shape.pieces axis count, piece.region = shape.region := by
  have whole : ⋃ number < count, (shape.piece axis count number).region = shape.region :=
    iUnion_region_piece positive
  rw [← whole]
  simp [pieces]

/-- A division takes one value.  It fails if the value asks for no piece.  Otherwise it
gives as many pieces as the value asks for, as long as no counter overflows, and each of
them has from the shape what a piece has.  Where numbers are not rounded the pieces stand
in a row that fills the shape. -/
theorem divide_makes_row {D : Type} [Scalar D] (axis : Axis) (range : PieceRange)
    (stream : DrawStream D) :
    let count := range.pieces axis stream.value
    (count = 0 → ∀ {K : Type} [Scalar K] (shape : Shape K),
      runFrom stream (shape.divide axis range) =
        (.error (.noPieces 0), stream.advance)) ∧
    (0 < count → count ≤ maxCounter →
      (∀ {K : Type} [Scalar K] (shape : Shape K), shape.CanCount axis →
        ∃ row, runFrom stream (shape.divide axis range) = (.ok row, stream.advance) ∧
          List.Forall₂ (shape.IsPiece axis count) (List.range count) row) ∧
      ∀ {K : Type} [ExactScalar K] (shape : Shape K), shape.CanCount axis →
        ∀ row, runFrom stream (shape.divide axis range) = (.ok row, stream.advance) →
          List.Forall₂ (shape.StandsInRow axis count) (List.range count) row ∧
            row.IsChain (fun before behind =>
              before.face axis .max = behind.face axis .min) ∧
            ⋃ piece ∈ row, piece.region = shape.region) := by
  intro count
  have divided : 0 < count → ∀ {K : Type} [Scalar K] (shape : Shape K),
      runFrom stream (shape.divide axis range) =
        (.ok (shape.pieces axis count), stream.advance) := by
    intro positive K _ shape
    rw [runFrom_divide, if_neg positive.ne']
  refine ⟨?_, fun positive _ => ⟨?_, ?_⟩⟩
  · intro none K _ shape
    rw [runFrom_divide, if_pos none]
  · intro K _ shape counts
    exact ⟨_, divided positive shape,
      forall₂_pieces shape axis count (isPiece_piece counts count)⟩
  · intro K _ shape _ row run
    rw [divided positive shape, Prod.mk.injEq, Except.ok.injEq] at run
    obtain ⟨rfl, -⟩ := run
    exact ⟨forall₂_pieces shape axis count (standsInRow_piece shape axis count),
      isChain_pieces shape axis positive, iUnion_region_pieces shape axis positive⟩

/-- A turned block is divided upwards into four pieces. -/
theorem turned_block_divided :
    let block : Shape ℚ := Shape.block Vec3.zero ⟨0, 30, 0⟩ ⟨4, 8, 4⟩
    let stream : DrawStream ℚ := DrawStream.start (fun _ => 1 / 2) .stochastic 0
    ∃ row,
      runFrom stream (block.divide .y PieceRange.standard) =
          (.ok row, stream.advance) ∧
        List.Forall₂ (block.IsPiece .y 4) (List.range 4) row ∧
        List.Forall₂ (block.StandsInRow .y 4) (List.range 4) row ∧
        ⋃ piece ∈ row, piece.region = block.region := by
  intro block stream
  have four : PieceRange.standard.pieces .y stream.value = 4 := by decide +kernel
  have counts : block.CanCount .y := ⟨by decide, by decide⟩
  obtain ⟨divided, placed⟩ :=
    (divide_makes_row .y PieceRange.standard stream).2 (by decide +kernel)
      (by decide +kernel)
  obtain ⟨row, run, pieces⟩ := divided block counts
  obtain ⟨stands, -, fills⟩ := placed block counts row run
  rw [four] at pieces stands
  exact ⟨row, run, pieces, stands, fills⟩

end Shape

end GrowthGrammar
