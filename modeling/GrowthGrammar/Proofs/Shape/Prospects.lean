import Mathlib.Algebra.Order.BigOperators.Group.List
import GrowthGrammar.Proofs.Shape.Division
import GrowthGrammar.Shape.Expansion

/-!
# The prospects of a shape

Two numbers bound what can still become of a shape: how many rounds it takes until
nothing of it can expand, and how many shapes it is in the end.  Both follow
from its kind and its depth.  A block that has a fate has one round left, in which
the fate is carried out; that is why blocks rest one round later than their depth
limit says.  The pieces in the middle of a block that is divided upwards touch
neither its bottom nor its top and rest at once.
-/

namespace GrowthGrammar

namespace Kind

/-- The number of rounds after which nothing of a shape of a kind and a depth can
expand. -/
def rounds : Kind → Nat → Nat
  | tower _, depth => max 1 (3 - depth)
  | block, depth => max 1 (6 - depth)
  | house, depth => max 1 (6 - depth)
  | _, _ => 1

/-- The greatest number of shapes that a shape of a kind and a depth can
become. -/
def leaves : Kind → Nat → Nat
  | tower _, 0 => 81
  | tower _, 1 => 9
  | block, 0 => 320
  | block, 1 => 80
  | block, 2 => 20
  | block, 3 => 5
  | house, 0 => 96
  | house, 1 => 24
  | house, 2 => 6
  | house, 3 => 6
  | roof, 4 => 2
  | _, _ => 1

theorem rounds_bounds (kind : Kind) (depth : Nat) :
    0 < kind.rounds depth ∧ kind.rounds depth ≤ 6 := by
  unfold rounds
  split <;> omega

theorem leaves_bounds (kind : Kind) (depth : Nat) :
    0 < kind.leaves depth ∧ kind.leaves depth ≤ 320 := by
  unfold leaves
  split <;> omega

end Kind

namespace Shape

variable {K : Type}

/-- Whether a shape is a block that only waits for its fate. -/
def isFated (shape : Shape K) : Prop :=
  shape.kind = .block ∧ shape.fate ≠ .keep

instance (shape : Shape K) : Decidable shape.isFated :=
  inferInstanceAs (Decidable (_ ∧ _))

/-- The number of rounds after which nothing of a shape can expand. -/
def roundsLeft (shape : Shape K) : Nat :=
  if shape.expands then
    if shape.isFated then 1 else shape.kind.rounds shape.depth
  else
    0

/-- The greatest number of shapes that a shape can become. -/
def leaves (shape : Shape K) : Nat :=
  if shape.expands then
    if shape.isFated then 1 else shape.kind.leaves shape.depth
  else
    1

theorem roundsLeft_le_rounds (shape : Shape K) :
    shape.roundsLeft ≤ shape.kind.rounds shape.depth := by
  have bounds := shape.kind.rounds_bounds shape.depth
  rw [roundsLeft]
  split
  · split <;> omega
  · omega

theorem leaves_le_leaves (shape : Shape K) :
    shape.leaves ≤ shape.kind.leaves shape.depth := by
  have bounds := shape.kind.leaves_bounds shape.depth
  rw [leaves]
  split
  · split <;> omega
  · omega

theorem leaves_pos (shape : Shape K) : 0 < shape.leaves := by
  have bounds := shape.kind.leaves_bounds shape.depth
  rw [leaves]
  split
  · split <;> omega
  · omega

theorem not_isFated_of_kind {shape : Shape K} {kind : Kind}
    (isKind : shape.kind = kind) (notBlock : kind ≠ .block) :
    ¬ shape.isFated := by
  rintro ⟨isBlock, _⟩
  exact notBlock (isKind.symm.trans isBlock)

theorem not_isFated_of_keep {shape : Shape K} (undecided : shape.fate = .keep) :
    ¬ shape.isFated := by
  rintro ⟨_, fated⟩
  exact fated undecided

theorem roundsLeft_of_unfated {shape : Shape K} (expands : shape.expands = true)
    (unfated : ¬ shape.isFated) :
    shape.roundsLeft = shape.kind.rounds shape.depth := by
  rw [roundsLeft, if_pos expands, if_neg unfated]

theorem leaves_of_unfated {shape : Shape K} (expands : shape.expands = true)
    (unfated : ¬ shape.isFated) :
    shape.leaves = shape.kind.leaves shape.depth := by
  rw [leaves, if_pos expands, if_neg unfated]

theorem prospects_of_fated {shape : Shape K} (fated : shape.isFated) :
    shape.roundsLeft ≤ 1 ∧ shape.leaves ≤ 1 := by
  unfold roundsLeft leaves
  rw [if_pos fated, if_pos fated]
  split <;> omega

/-- Only shapes at rest have no rounds left. -/
theorem roundsLeft_eq_zero_iff (shape : Shape K) :
    shape.roundsLeft = 0 ↔ shape.expands = false := by
  have bounds := shape.kind.rounds_bounds shape.depth
  rw [roundsLeft]
  split
  · next expands =>
      rw [expands]
      split
      · simp
      · simp only [Bool.true_eq_false, iff_false]
        omega
  · next rests => simpa using rests

theorem leaves_of_not_expands {shape : Shape K}
    (rests : shape.expands = false) : shape.leaves = 1 := by
  rw [leaves, if_neg (by simp [rests])]

theorem not_expands_of_settled {shape : Shape K}
    (settled : shape.isSettled = true) : shape.expands = false := by
  simp [expands, settled]

theorem isSettled_meetFate [Scalar K] (shape : Shape K) :
    shape.meetFate.isSettled = true := by
  rw [meetFate]
  cases shape.fate <;> rfl

@[simp]
theorem kind_deepen (shape : Shape K) : shape.deepen.kind = shape.kind :=
  rfl

@[simp]
theorem depth_deepen (shape : Shape K) : shape.deepen.depth = shape.depth + 1 :=
  rfl

/-! ## Pieces together -/

/-- What a shape becomes is bounded by its prospects: it has one round less, if
the shape had any left, and there are not too many pieces. -/
structure Grows (shape : Shape K) (pieces : List (Shape K)) : Prop where
  present : 0 < pieces.length
  sooner : ∀ rounds ∈ pieces.map roundsLeft, rounds ≤ shape.roundsLeft - 1
  fits : (pieces.map leaves).sum ≤ shape.leaves

theorem Grows.roundsLeft_le {shape : Shape K} {pieces : List (Shape K)}
    (grows : shape.Grows pieces) :
    ∀ piece ∈ pieces, piece.roundsLeft ≤ shape.roundsLeft - 1 :=
  List.forall_mem_map.mp grows.sooner

/-- One shape in the place of another. -/
theorem grows_singleton {shape piece : Shape K}
    (sooner : piece.roundsLeft < shape.roundsLeft)
    (fits : piece.leaves ≤ shape.leaves) : shape.Grows [piece] := by
  constructor
  · exact Nat.zero_lt_one
  · simpa using Nat.le_sub_one_of_lt sooner
  · simpa using fits

/-- A shape at rest stays. -/
theorem grows_of_not_expands {shape : Shape K} (rests : shape.expands = false) :
    shape.Grows [shape] := by
  have noRounds := (roundsLeft_eq_zero_iff shape).mpr rests
  constructor
  · exact Nat.zero_lt_one
  · simp [noRounds]
  · simp

/-- One shape in the place of another, by their kinds and depths. -/
theorem grows_of_deepened {shape piece : Shape K}
    (expands : shape.expands = true) (unfated : ¬ shape.isFated)
    (sooner : piece.kind.rounds piece.depth < shape.kind.rounds shape.depth)
    (fits : piece.kind.leaves piece.depth ≤ shape.kind.leaves shape.depth) :
    shape.Grows [piece] := by
  apply grows_singleton
  · rw [roundsLeft_of_unfated expands unfated]
    exact Nat.lt_of_le_of_lt piece.roundsLeft_le_rounds sooner
  · rw [leaves_of_unfated expands unfated]
    exact Nat.le_trans piece.leaves_le_leaves fits

theorem sum_leaves_le {pieces : List (Shape K)} {most leaves : Nat}
    (many : pieces.length ≤ most)
    (each : ∀ piece ∈ pieces, piece.leaves ≤ leaves) :
    (pieces.map Shape.leaves).sum ≤ most * leaves := by
  rw [← List.forall_mem_map (P := (· ≤ leaves))] at each
  have bounded := List.sum_le_card_nsmul _ _ each
  rw [List.length_map, Nat.nsmul_eq_mul] at bounded
  exact Nat.le_trans bounded (Nat.mul_le_mul_right leaves many)

/-- Not too many pieces, with one bound for all of them. -/
theorem grows_of_bounds {shape : Shape K} {pieces : List (Shape K)}
    {most rounds leaves : Nat} (present : 0 < pieces.length)
    (many : pieces.length ≤ most)
    (each : ∀ piece ∈ pieces,
      piece.roundsLeft ≤ rounds ∧ piece.leaves ≤ leaves)
    (sooner : rounds < shape.roundsLeft)
    (fits : most * leaves ≤ shape.leaves) : shape.Grows pieces := by
  constructor
  · exact present
  · rw [List.forall_mem_map]
    intro piece isPiece
    apply Nat.le_sub_one_of_lt
    exact Nat.lt_of_le_of_lt (each piece isPiece).1 sooner
  · apply Nat.le_trans _ fits
    apply sum_leaves_le many
    intro piece isPiece
    exact (each piece isPiece).2

/-- Shapes at rest in the place of one that expands. -/
theorem grows_of_all_settled {shape : Shape K} {pieces : List (Shape K)}
    (expands : shape.expands = true) (present : 0 < pieces.length)
    (many : pieces.length ≤ shape.leaves)
    (settled : ∀ piece ∈ pieces, piece.isSettled = true) :
    shape.Grows pieces := by
  have each : ∀ piece ∈ pieces, piece.roundsLeft ≤ 0 ∧ piece.leaves ≤ 1 := by
    intro piece isPiece
    have rests := not_expands_of_settled (settled piece isPiece)
    rw [(roundsLeft_eq_zero_iff piece).mpr rests, leaves_of_not_expands rests]
    exact ⟨Nat.le_refl 0, Nat.le_refl 1⟩
  apply grows_of_bounds present many each
  · apply Nat.pos_of_ne_zero
    intro noRounds
    rw [roundsLeft_eq_zero_iff, expands] at noRounds
    contradiction
  · rw [Nat.mul_one]

theorem grows_of_settled {shape piece : Shape K}
    (expands : shape.expands = true) (settled : piece.isSettled = true) :
    shape.Grows [piece] := by
  apply grows_of_all_settled expands
  · exact Nat.zero_lt_one
  · exact shape.leaves_pos
  · simpa using settled

/-- Growth depends on the prospects of the pieces alone. -/
theorem Grows.congr {shape : Shape K} {pieces others : List (Shape K)}
    (grows : shape.Grows pieces)
    (sameRounds : others.map roundsLeft = pieces.map roundsLeft)
    (sameLeaves : others.map leaves = pieces.map leaves) :
    shape.Grows others := by
  have sameLength : others.length = pieces.length := by
    simpa using congrArg List.length sameLeaves
  constructor
  · rw [sameLength]
    exact grows.present
  · rw [sameRounds]
    exact grows.sooner
  · rw [sameLeaves]
    exact grows.fits

/-! ## Divisions -/

variable [Scalar K]

theorem prospects_piece (shape : Shape K) (axis : Axis) (count number : Nat) :
    (shape.piece axis count number).roundsLeft ≤
        shape.kind.rounds (shape.depth + 1) ∧
      (shape.piece axis count number).leaves ≤
        shape.kind.leaves (shape.depth + 1) := by
  have roundsBound := (shape.piece axis count number).roundsLeft_le_rounds
  have leavesBound := (shape.piece axis count number).leaves_le_leaves
  rw [kind_piece, depth_piece] at roundsBound leavesBound
  exact ⟨roundsBound, leavesBound⟩

/-- The pieces of a division, by the kinds and depths. -/
theorem grows_of_divided {shape divided : Shape K}
    (expands : shape.expands = true) (unfated : ¬ shape.isFated) (axis : Axis)
    {count most : Nat} (positive : 0 < count) (many : count ≤ most)
    (sooner : divided.kind.rounds (divided.depth + 1) <
      shape.kind.rounds shape.depth)
    (fits : most * divided.kind.leaves (divided.depth + 1) ≤
      shape.kind.leaves shape.depth) :
    shape.Grows (divided.pieces axis count) := by
  rw [← roundsLeft_of_unfated expands unfated] at sooner
  rw [← leaves_of_unfated expands unfated] at fits
  apply grows_of_bounds _ _ _ sooner fits
  · rwa [length_pieces]
  · rwa [length_pieces]
  · intro piece isPiece
    rw [pieces, List.mem_map] at isPiece
    rcases isPiece with ⟨number, _, rfl⟩
    exact divided.prospects_piece axis count number

end Shape

end GrowthGrammar
