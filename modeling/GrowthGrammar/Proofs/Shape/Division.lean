import GrowthGrammar.Proofs.Random.Success
import GrowthGrammar.Shape.Division

/-!
# What a division gives

A division into a random number of pieces always succeeds, with the least number
of its range at least; for every value below one the number of pieces stays within
the range.  What its steps make of each piece follows from the number of the piece
alone.  A piece differs from the divided shape in its place, its depth and the faces
that it touches.
-/

namespace GrowthGrammar

/-! ## Numbers of pieces -/

namespace PieceRange

variable (range : PieceRange)

/-- The greatest number of pieces along an axis. -/
def most (axis : Axis) : Nat :=
  let top := range.least + range.spread - 1
  let raised := if range.extraUpwards ∧ axis = .y then top + 1 else top
  if range.onlyOdd ∧ raised % 2 = 0 then raised + 1 else raised

theorem least_le_pieces {D : Type} [Scalar D] (axis : Axis) (draw : D) :
    range.least ≤ range.pieces axis draw := by
  unfold pieces base
  dsimp only
  split <;> split <;> omega

/-- Upwards there is one piece more. -/
theorem three_le_pieces_standard {D : Type} [Scalar D] (draw : D) :
    3 ≤ standard.pieces .y draw := by
  simp [pieces, base, standard]

/-- An even number is raised. -/
theorem odd_pieces {range : PieceRange} (onlyOdd : range.onlyOdd = true) {D : Type}
    [Scalar D] (axis : Axis) (draw : D) : range.pieces axis draw % 2 = 1 := by
  unfold pieces
  simp only [onlyOdd, true_and]
  generalize (if range.extraUpwards ∧ axis = .y then range.base draw + 1
    else range.base draw) = raised
  split <;> omega

/-- A range whose counts stay within its spread. -/
structure IsFair : Prop where
  least_pos : 0 < range.least
  spread_pos : 0 < range.spread
  spread_small : range.spread ≤ 2 ^ 53
  spread_whole : Binary64.IsWhole range.spread (Scalar.ofNat range.spread)

theorem isFair_standard : standard.IsFair :=
  { least_pos := by decide
    spread_pos := by decide
    spread_small := by decide
    spread_whole := ⟨51, by decide, rfl⟩ }

variable {range}

/-- The number of pieces is positive and at most the greatest of the range. -/
theorem IsFair.pieces_bounds (fair : range.IsFair) (axis : Axis) {draw : Float}
    (below : ¬ 1.0 ≤ draw) :
    0 < range.pieces axis draw ∧ range.pieces axis draw ≤ range.most axis := by
  have leastPos := fair.least_pos
  have counted := Binary64.count_mul_lt below fair.spread_whole fair.spread_pos
    fair.spread_small
  unfold pieces most base
  generalize Scalar.count (draw * Scalar.ofNat range.spread) = count at counted ⊢
  simp only
  by_cases extra : range.extraUpwards ∧ axis = .y
  · rw [if_pos extra, if_pos extra]
    constructor
    · split <;> omega
    · by_cases odd : range.onlyOdd
      · simp only [odd, true_and]
        split <;> split <;> omega
      · rw [if_neg (odd ·.1), if_neg (odd ·.1)]
        omega
  · rw [if_neg extra, if_neg extra]
    constructor
    · split <;> omega
    · by_cases odd : range.onlyOdd
      · simp only [odd, true_and]
        split <;> split <;> omega
      · rw [if_neg (odd ·.1), if_neg (odd ·.1)]
        omega

/-- Side by side there are two to four pieces. -/
theorem pieces_bounds_of_level {axis : Axis} (level : axis ≠ .y) {draw : Float}
    (below : ¬ 1.0 ≤ draw) :
    2 ≤ standard.pieces axis draw ∧ standard.pieces axis draw ≤ 4 := by
  have most : standard.most axis = 4 := by
    cases axis with
    | x => rfl
    | y => exact absurd rfl level
    | z => rfl
  have bounds := isFair_standard.pieces_bounds axis below
  exact ⟨standard.least_le_pieces axis draw, most ▸ bounds.2⟩

end PieceRange

namespace Shape

variable {K : Type} [Scalar K]

/-! ## Single pieces -/

/-- The piece with a given number among `count` pieces along an axis.  All but
the first are copies. -/
def piece (shape : Shape K) (axis : Axis) (count number : Nat) : Shape K :=
  let first := shape.firstPiece axis count
  let placed :=
    if number = 0 then
      first
    else
      let direction := shape.orientation.apply axis.unit
      let step := Scalar.ofNat number * first.extents.along axis
      { first.copy with position := first.position + direction * step }
  let lower := Face.atEnd axis .min
  let upper := Face.atEnd axis .max
  { placed with
    boundary :=
      (placed.boundary.set lower
          (shape.boundary.touches lower && number == 0)).set upper
        (shape.boundary.touches upper && number + 1 == count) }

/-- The `count` pieces along an axis, from its lower end to its upper end. -/
def pieces (shape : Shape K) (axis : Axis) (count : Nat) : List (Shape K) :=
  (List.range count).map (shape.piece axis count)

@[simp]
theorem length_pieces (shape : Shape K) (axis : Axis) (count : Nat) :
    (shape.pieces axis count).length = count := by
  simp [pieces]

omit [Scalar K] in
/-- A face that a shape has let go of needs to be set only where it is given back. -/
theorem setFace_and {shape : Shape K} {face : Face}
    (released : shape.boundary.touches face = false) (touched given : Bool) :
    shape.setFace face (touched && given) =
      if given then shape.setFace face touched else shape := by
  cases given with
  | true => rw [Bool.and_true, if_pos rfl]
  | false =>
      rw [Bool.and_false, if_neg Bool.false_ne_true, setFace, ← released,
        Boundary.set_touches]

/-- The first piece has let go of both faces of the axis before its copies are made. -/
theorem touches_firstPiece (shape : Shape K) (axis : Axis) (count : Nat) (side : Side) :
    (shape.firstPiece axis count).boundary.touches (Face.atEnd axis side) = false := by
  cases axis <;> cases side <;> rfl

theorem piece_zero (shape : Shape K) (axis : Axis) (count : Nat) :
    shape.piece axis count 0 =
      ((shape.firstPiece axis count).setFace (Face.atEnd axis .min)
          (shape.boundary.touches (Face.atEnd axis .min))).setFace
        (Face.atEnd axis .max)
        (shape.boundary.touches (Face.atEnd axis .max) && 1 == count) := by
  simp [piece, setFace]

/-- A copy does not get the lower face back. -/
theorem piece_succ (shape : Shape K) (axis : Axis) (count number : Nat) :
    shape.piece axis count (number + 1) =
      ((shape.firstPiece axis count).copy.moveBy
          (shape.orientation.apply axis.unit *
            (Scalar.ofNat (number + 1) *
              (shape.firstPiece axis count).extents.along axis))).setFace
        (Face.atEnd axis .max)
        (shape.boundary.touches (Face.atEnd axis .max) && number + 2 == count) := by
  have lower := (shape.firstPiece axis count).boundary.set_touches
    (Face.atEnd axis .min)
  rw [touches_firstPiece] at lower
  simp [piece, setFace, moveBy, copy, lower]

/-- The steps of a division make these pieces. -/
theorem split_eq_pieces (shape : Shape K) (axis : Axis) {count : Nat}
    (positive : 0 < count) : shape.split axis count = shape.pieces axis count := by
  have last : ∀ number, (number + 1 == count) = true ↔ count - 1 = number := by
    intro number
    rw [beq_iff_eq]
    omega
  apply List.ext_getElem
  · simp only [split, List.length_modify, List.length_cons, List.length_map,
      List.length_range', length_pieces]
    omega
  · intro number _ _
    simp only [split, pieces, List.getElem_modify, List.length_modify, List.length_cons,
      List.length_map, List.length_range', Nat.add_sub_cancel, List.getElem_map,
      List.getElem_range]
    cases number with
    | zero =>
        have released :
            ((shape.firstPiece axis count).setFace (Face.atEnd axis .min)
              (shape.boundary.touches (Face.atEnd axis .min))).boundary.touches
                (Face.atEnd axis .max) = false := by
          cases axis <;> rfl
        rw [piece_zero, setFace_and released]
        simp only [last 0, List.getElem_cons_zero, if_true]
    | succ number =>
        have released :
            ((shape.firstPiece axis count).copy.moveBy
              (shape.orientation.apply axis.unit *
                (Scalar.ofNat (number + 1) *
                  (shape.firstPiece axis count).extents.along axis))).boundary.touches
                (Face.atEnd axis .max) = false :=
          shape.touches_firstPiece axis count .max
        rw [piece_succ, setFace_and released, if_neg (Nat.succ_ne_zero number).symm]
        simp only [last (number + 1), List.getElem_cons_succ, List.getElem_map,
          List.getElem_range', Nat.one_mul, Nat.add_comm 1]

/-! ## Divisions -/

/-- A division takes one value, and gives as many pieces as it asks for, unless it asks
for none. -/
theorem runFrom_divide {D : Type} [Scalar D] (stream : DrawStream D) (shape : Shape K)
    (axis : Axis) (range : PieceRange) :
    runFrom stream (shape.divide axis range) =
      (if range.pieces axis stream.value = 0 then .error (.noPieces 0)
        else .ok (shape.pieces axis (range.pieces axis stream.value)),
        stream.advance) := by
  rw [divide, runFrom_bind_of_ok (Drawn.runFrom_value stream), PieceRange.count]
  generalize range.pieces axis stream.value = count
  cases count with
  | zero => rfl
  | succ count =>
      rw [if_neg (by omega), if_neg (Nat.succ_ne_zero count),
        ← shape.split_eq_pieces axis (Nat.succ_pos count)]
      rfl

/-- A division gives as many pieces as an allowed value asks for. -/
theorem divide_deliversFrom {D : Type} [Scalar D] {fits : DrawStream D → Prop}
    {allowed : D → Prop} (values : DeliversFrom fits Drawn.value allowed)
    (shape : Shape K) (axis : Axis) {range : PieceRange}
    (positive : 0 < range.least) :
    DeliversFrom fits (shape.divide axis range) fun pieces =>
      ∃ draw, allowed draw ∧
        pieces = shape.pieces axis (range.pieces axis draw) := by
  rw [divide]
  apply values.bind
  intro draw drawn
  have enough := range.least_le_pieces axis draw
  have counted : range.count axis draw = .ok (range.pieces axis draw) := by
    rw [PieceRange.count, if_neg (by omega)]
  apply (Drawn.deliversFrom_ofExcept counted).bind
  rintro count rfl
  exact .pure ⟨draw, drawn, shape.split_eq_pieces axis (by omega)⟩

/-- A division gives a positive number of pieces, within the range. -/
theorem divide_gives (shape : Shape K) (axis : Axis) {range : PieceRange}
    (fair : range.IsFair) :
    Drawn.Gives (shape.divide axis range) fun pieces =>
      ∃ count, 0 < count ∧ count ≤ range.most axis ∧
        pieces = shape.pieces axis count := by
  apply (divide_deliversFrom Drawn.Gives.value shape axis fair.least_pos).weaken
  rintro _ ⟨draw, below, rfl⟩
  obtain ⟨positive, bounded⟩ := fair.pieces_bounds axis below
  exact ⟨_, positive, bounded, rfl⟩

/-- A round visits only shapes that are active. -/
theorem isSettled_of_expands {K : Type} {shape : Shape K}
    (expands : shape.expands = true) : shape.isSettled = false := by
  rw [Shape.expands, Bool.and_eq_true] at expands
  simpa using expands.1

theorem status_of_expands {K : Type} {shape : Shape K}
    (expands : shape.expands = true) : shape.status = .active := by
  simpa [isSettled] using isSettled_of_expands expands

/-! ## Pieces -/

section Pieces

variable (shape : Shape K) (axis : Axis) (count number : Nat)

@[simp]
theorem kind_piece : (shape.piece axis count number).kind = shape.kind := by
  rw [piece]
  split <;> rfl

@[simp]
theorem rotation_piece :
    (shape.piece axis count number).rotation = shape.rotation := by
  rw [piece]
  split <;> rfl

@[simp]
theorem depth_piece :
    (shape.piece axis count number).depth = shape.depth + 1 := by
  rw [piece]
  split <;> rfl

@[simp]
theorem status_piece :
    (shape.piece axis count number).status = shape.status := by
  rw [piece]
  split <;> rfl

@[simp]
theorem fate_piece :
    (shape.piece axis count number).fate = shape.fate := by
  rw [piece]
  split <;> rfl

@[simp]
theorem divisions_piece :
    (shape.piece axis count number).divisions =
      shape.divisions.modifyAlong axis (· + 1) := by
  rw [piece]
  split <;> rfl

/-- A piece touches the faces that the shape touched, except for those across the
divided axis: the lower one is left to the first piece and the upper one to the
last. -/
theorem touches_piece (other : Axis) (side : Side) :
    (shape.piece axis count number).boundary.touches (Face.atEnd other side) =
      (shape.boundary.touches (Face.atEnd other side) &&
        (other != axis ||
          match side with
          | .min => number == 0
          | .max => number + 1 == count)) := by
  have boundary : (shape.piece axis count number).boundary =
      ((shape.boundary.release axis).set (Face.atEnd axis .min)
        (shape.boundary.touches (Face.atEnd axis .min) && number == 0)).set
        (Face.atEnd axis .max)
        (shape.boundary.touches (Face.atEnd axis .max) &&
          number + 1 == count) := by
    rw [piece]
    split <;> rfl
  rw [boundary]
  simp only [Boundary.release, Boundary.touches_set]
  cases axis <;> cases other <;> cases side <;> simp [Face.atEnd]

/-- A piece in the middle of an upward division stands off the ground and below
the top. -/
theorem boundary_piece_of_middle (notFirst : number ≠ 0)
    (notLast : number + 1 ≠ count) :
    (shape.piece .y count number).boundary.bottom = false ∧
      (shape.piece .y count number).boundary.top = false := by
  have first : (number == 0) = false := by simpa using notFirst
  have last : (number + 1 == count) = false := by simpa using notLast
  simp [piece, Face.atEnd, Boundary.set, first, last]

end Pieces

end Shape

end GrowthGrammar
