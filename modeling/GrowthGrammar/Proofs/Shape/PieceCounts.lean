import Mathlib
import GrowthGrammar.Proofs.Shape.Division
import GrowthGrammar.Proofs.Space.Exact

/-!
# How many pieces there can be

A draw of the unit interval chooses one of the numbers of a range, each of which it can
choose.  To this number a piece may be added upwards, and an even number may be raised to
an odd one.  Where numbers are not rounded, this is all that decides how many pieces there
are; there are none at all only if nothing is chosen and nothing is added.
-/

namespace GrowthGrammar

/-! ## Counts -/

namespace ExactScalar

variable {D : Type} [ExactScalar D] {x y : D}

theorem count_mono (le : x ≤ y) : Scalar.count x ≤ Scalar.count y := by
  have counted := (le_count_iff (Scalar.count x) x).mp le_rfl
  rw [le_count_iff]
  exact counted.imp_right fun ⟨small, reached⟩ => ⟨small, reached.trans le⟩

/-- A value within the range of counts is counted by rounding it down. -/
theorem cast_count (nonneg : 0 ≤ x) (small : x < 2 ^ 32) :
    (Scalar.count x : D) = Scalar.floor x := by
  have reached : (Scalar.count x : D) ≤ x := by
    rcases (le_count_iff (Scalar.count x) x).mp le_rfl with none | ⟨-, reached⟩
    · rwa [none, Nat.cast_zero]
    · exact reached
  have short : x < Scalar.count x + 1 := by
    by_contra beyond
    rw [not_lt] at beyond
    have inRange : Scalar.count x + 1 < 2 ^ 32 := by
      exact_mod_cast beyond.trans_lt small
    have counted : Scalar.count x + 1 ≤ Scalar.count x := by
      rw [le_count_iff]
      exact Or.inr ⟨inRange, by exact_mod_cast beyond⟩
    exact absurd counted (Nat.not_succ_le_self _)
  have isFloor : Scalar.floor x = ((Scalar.count x : Int) : D) :=
    floor_eq (by exact_mod_cast reached) (by exact_mod_cast short)
  rw [isFloor, Int.cast_natCast]

/-- Whole numbers within the range of counts are counted as they are. -/
theorem count_natCast {n : Nat} (small : n < 2 ^ 32) : Scalar.count (n : D) = n := by
  have isFloor : Scalar.floor (n : D) = n := by
    have same : ((n : Int) : D) = n := Int.cast_natCast n
    rw [← same]
    exact floor_eq le_rfl (lt_add_one _)
  have counted : (Scalar.count (n : D) : D) = Scalar.floor (n : D) :=
    cast_count (Nat.cast_nonneg n) (by exact_mod_cast small)
  exact_mod_cast counted.trans isFloor

end ExactScalar

namespace PieceRange

variable (range : PieceRange) (axis : Axis)

/-- How many pieces are added along an axis. -/
def bonus : Nat :=
  if range.extraUpwards ∧ axis = .y then 1 else 0

/-! ## Raised numbers -/

section Raised

variable {D : Type} [Scalar D]

/-- The number of pieces is the least that is enough, and that is odd if it has to be. -/
theorem isLeast_pieces (draw : D) :
    IsLeast { number | range.base draw + range.bonus axis ≤ number ∧
      (range.onlyOdd = true → Odd number) } (range.pieces axis draw) := by
  have raised : range.pieces axis draw =
      if range.onlyOdd ∧ (range.base draw + range.bonus axis) % 2 = 0 then
        range.base draw + range.bonus axis + 1
      else range.base draw + range.bonus axis := by
    rw [pieces, bonus]
    split <;> rfl
  rw [raised]
  generalize range.base draw + range.bonus axis = enough
  constructor
  · constructor
    · split <;> omega
    · intro onlyOdd
      rw [Nat.odd_iff]
      by_cases even : enough % 2 = 0
      · rw [if_pos ⟨onlyOdd, even⟩]
        omega
      · rw [if_neg fun isRaised => even isRaised.2]
        omega
  · rintro number ⟨reached, odd⟩
    split
    · next even =>
        have isOdd := Nat.odd_iff.mp (odd even.1)
        omega
    · exact reached

theorem pieces_eq_zero_iff (draw : D) :
    range.pieces axis draw = 0 ↔
      range.base draw = 0 ∧ range.bonus axis = 0 ∧ range.onlyOdd = false := by
  obtain ⟨⟨reached, odd⟩, least⟩ := range.isLeast_pieces axis draw
  constructor
  · intro none
    rw [none] at reached odd
    refine ⟨by omega, by omega, ?_⟩
    by_contra onlyOdd
    exact absurd (odd (by simpa using onlyOdd)) (by decide)
  · rintro ⟨base, bonus, notOdd⟩
    exact Nat.le_zero.mp (least ⟨by omega, by simp [notOdd]⟩)

/-- Only a division into no pieces at all is refused. -/
theorem count_eq (draw : D) :
    range.count axis draw =
      if range.pieces axis draw = 0 then .error (.noPieces 0)
      else .ok (range.pieces axis draw) := by
  rw [count]
  generalize range.pieces axis draw = count
  cases count <;> rfl

end Raised

/-! ## Chosen numbers -/

section Chosen

variable {D : Type} [ExactScalar D] {range} {draw : D}

theorem base_eq : range.base draw = range.least + Scalar.count (draw * range.spread) := by
  rw [base, Scalar.ofNat_eq_cast]

theorem base_mono {first second : D} (le : first ≤ second) :
    range.base first ≤ range.base second := by
  rw [base_eq, base_eq]
  have scaled : first * range.spread ≤ second * range.spread :=
    mul_le_mul_of_nonneg_right le (Nat.cast_nonneg _)
  exact Nat.add_le_add_left (ExactScalar.count_mono scaled) _

theorem pieces_mono {first second : D} (le : first ≤ second) :
    range.pieces axis first ≤ range.pieces axis second := by
  obtain ⟨⟨reached, odd⟩, -⟩ := range.isLeast_pieces axis second
  have enough : range.base first + range.bonus axis ≤ range.pieces axis second :=
    (Nat.add_le_add_right (base_mono le) _).trans reached
  exact (range.isLeast_pieces axis first).2 ⟨enough, odd⟩

variable (small : range.spread < 2 ^ 32)

include small

theorem cast_base (atLeast : 0 ≤ draw) (below : draw < 1) :
    (range.base draw : D) = range.least + Scalar.floor (draw * range.spread) := by
  have spreadNonneg : (0 : D) ≤ range.spread := Nat.cast_nonneg _
  have inRange : draw * range.spread < 2 ^ 32 :=
    (mul_le_of_le_one_left spreadNonneg below.le).trans_lt (by exact_mod_cast small)
  rw [base_eq, Nat.cast_add,
    ExactScalar.cast_count (mul_nonneg atLeast spreadNonneg) inRange]

/-- Each number of the range is chosen by some draw, and no other is. -/
theorem image_base (positive : 0 < range.spread) :
    range.base '' Set.Ico (0 : D) 1 =
      Set.Icc range.least (range.least + range.spread - 1) := by
  have spreadPos : (0 : D) < range.spread := by exact_mod_cast positive
  ext number
  constructor
  · rintro ⟨draw, ⟨-, below⟩, rfl⟩
    have few : Scalar.count (draw * range.spread) < range.spread := by
      by_contra many
      rw [not_lt, ExactScalar.le_count_iff] at many
      rcases many with none | ⟨-, reached⟩
      · exact absurd none positive.ne'
      · exact absurd reached (not_le.mpr (mul_lt_of_lt_one_left spreadPos below))
    rw [base_eq, Set.mem_Icc]
    omega
  · rintro ⟨atLeast, atMost⟩
    have isChoice : number - range.least < range.spread := by omega
    refine ⟨((number - range.least : Nat) : D) / range.spread, ⟨?_, ?_⟩, ?_⟩
    · exact div_nonneg (Nat.cast_nonneg _) spreadPos.le
    · rw [div_lt_one spreadPos]
      exact_mod_cast isChoice
    · rw [base_eq, div_mul_cancel₀ _ spreadPos.ne',
        ExactScalar.count_natCast (isChoice.trans small)]
      omega

omit small in
theorem image_base_of_no_spread (none : range.spread = 0) :
    range.base '' Set.Ico (0 : D) 1 = {range.least} := by
  have constant : ∀ draw : D, range.base draw = range.least := by
    intro draw
    have zero : draw * (range.spread : D) = ((0 : Nat) : D) := by
      rw [none, Nat.cast_zero, mul_zero]
    rw [base_eq, zero, ExactScalar.count_natCast (by decide)]
    rfl
  have nonempty : (Set.Ico (0 : D) 1).Nonempty := ⟨0, le_rfl, zero_lt_one⟩
  rw [← nonempty.image_const range.least]
  exact Set.image_congr fun draw _ => constant draw

theorem base_eq_zero_iff (atLeast : 0 ≤ draw) (below : draw < 1) :
    range.base draw = 0 ↔
      range.least = 0 ∧ Scalar.floor (draw * range.spread) = 0 := by
  have chosen := cast_base small atLeast below
  constructor
  · intro none
    have noLeast : range.least = 0 := (Nat.add_eq_zero_iff.mp (base_eq.symm.trans none)).1
    rw [none, noLeast, Nat.cast_zero, zero_add] at chosen
    exact ⟨noLeast, chosen.symm⟩
  · rintro ⟨noLeast, noFloor⟩
    rw [noLeast, noFloor, Nat.cast_zero, add_zero] at chosen
    exact_mod_cast chosen

end Chosen

/-- The draws of the unit interval choose exactly the numbers of the range.  The number of
pieces is the least that has the added piece and is odd if it has to be; it grows with the
draw, and it is refused only if it is zero, which it is if nothing is chosen, added or
raised. -/
theorem chooses_each_number_of_range {D : Type} [ExactScalar D] {range : PieceRange}
    (small : range.spread < 2 ^ 32) (axis : Axis) :
    (∀ draw : D, 0 ≤ draw → draw < 1 →
      (range.base draw : D) = range.least + Scalar.floor (draw * range.spread)) ∧
    (0 < range.spread → range.base '' Set.Ico (0 : D) 1 =
      Set.Icc range.least (range.least + range.spread - 1)) ∧
    (range.spread = 0 → range.base '' Set.Ico (0 : D) 1 = {range.least}) ∧
    (∀ draw : D, 0 ≤ draw → draw < 1 →
      (range.count axis draw = .error (.noPieces 0) ↔
        range.least = 0 ∧ Scalar.floor (draw * range.spread) = 0 ∧
          range.bonus axis = 0 ∧ range.onlyOdd = false) ∧
      (range.count axis draw = .error (.noPieces 0) ∨
        ∃ number, range.count axis draw = .ok number ∧ 1 ≤ number ∧
          (range.onlyOdd = true → Odd number) ∧
          IsLeast { number | range.base draw + range.bonus axis ≤ number ∧
            (range.onlyOdd = true → Odd number) } number)) ∧
    ∀ (first second : D) (number : Nat), 0 ≤ first → first ≤ second → second < 1 →
      range.count axis first = .ok number →
        ∃ more, range.count axis second = .ok more ∧ number ≤ more := by
  refine ⟨fun _ => cast_base small, image_base small, image_base_of_no_spread, ?_, ?_⟩
  · intro draw atLeast below
    have least := range.isLeast_pieces axis draw
    rw [count_eq]
    by_cases none : range.pieces axis draw = 0
    · have nothing := (range.pieces_eq_zero_iff axis draw).mp none
      rw [base_eq_zero_iff small atLeast below, and_assoc] at nothing
      rw [if_pos none]
      exact ⟨iff_of_true rfl nothing, Or.inl rfl⟩
    · have something := (range.pieces_eq_zero_iff axis draw).not.mp none
      rw [base_eq_zero_iff small atLeast below, and_assoc] at something
      rw [if_neg none]
      refine ⟨iff_of_false (by simp) something, Or.inr ?_⟩
      exact ⟨_, rfl, Nat.one_le_iff_ne_zero.mpr none, least.1.2, least⟩
  · intro first second number _ le _ counted
    have more : range.pieces axis first ≤ range.pieces axis second := pieces_mono axis le
    rw [count_eq] at counted ⊢
    split at counted
    · exact absurd counted (by simp)
    · next some =>
        cases counted
        refine ⟨range.pieces axis second, if_neg ?_, more⟩
        omega

/-- In a range that begins at zero a low draw is refused across and has one piece
upwards. -/
theorem pieces_of_range_from_zero :
    let range : PieceRange :=
      { least := 0
        spread := 3
        onlyOdd := false
        extraUpwards := true }
    range.spread < 2 ^ 32 ∧ range.base '' Set.Ico (0 : ℚ) 1 = Set.Icc 0 2 ∧
      range.count .x (1 / 4 : ℚ) = .error (.noPieces 0) ∧
      range.count .y (1 / 4 : ℚ) = .ok 1 ∧
      ∃ more, range.count .y (9 / 10 : ℚ) = .ok more ∧ 1 ≤ more := by
  intro range
  have small : range.spread < 2 ^ 32 := by decide
  obtain ⟨-, image, -, across, -⟩ :=
    chooses_each_number_of_range (D := ℚ) small .x
  obtain ⟨-, -, -, -, grows⟩ := chooses_each_number_of_range (D := ℚ) small .y
  have upwards : range.count .y (1 / 4 : ℚ) = .ok 1 := by decide +kernel
  refine ⟨small, image (by decide), ?_, upwards, ?_⟩
  · exact (across (1 / 4) (by norm_num) (by norm_num)).1.mpr (by decide +kernel)
  · exact grows (1 / 4) (9 / 10) 1 (by norm_num) (by norm_num) (by norm_num) upwards

end PieceRange

end GrowthGrammar
