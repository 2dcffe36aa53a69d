import Mathlib
import GrowthGrammar.Proofs.Random.Shares
import GrowthGrammar.Proofs.Space.Exact

/-!
# Choice in proportion

Where numbers are not rounded, the entries of a share table cut the unit interval into
one piece for each weight, in the order of the weights and of a length in proportion to
the weight.  A draw selects the index in whose piece it falls.  So a weight of zero is
never selected, some entry exceeds every draw below one, and the unit of the weights does
not matter.
-/

namespace GrowthGrammar.ShareTable

variable {D : Type} [ExactScalar D]

/-- The sum of the weights before an index. -/
def sumBefore (weights : List D) (index : Nat) : D :=
  (weights.take index).sum

section Sums

variable (weights : List D)

@[simp]
theorem sumBefore_zero : sumBefore weights 0 = 0 := by
  simp [sumBefore]

variable {weights}

theorem sumBefore_succ {index : Nat} {weight : D} (present : weights[index]? = some weight) :
    sumBefore weights (index + 1) = sumBefore weights index + weight := by
  rw [sumBefore, sumBefore, List.take_add_one, present, List.sum_append]
  simp

theorem sumBefore_mono (nonneg : ∀ weight ∈ weights, 0 ≤ weight) :
    Monotone (sumBefore weights) := by
  apply monotone_nat_of_le_succ
  intro index
  cases present : weights[index]? with
  | none =>
      rw [sumBefore, sumBefore, List.take_add_one, present]
      simp
  | some weight =>
      rw [sumBefore_succ present]
      exact le_add_of_nonneg_right (nonneg weight (List.mem_of_getElem? present))

theorem sumBefore_nonneg (nonneg : ∀ weight ∈ weights, 0 ≤ weight) (index : Nat) :
    0 ≤ sumBefore weights index := by
  rw [← sumBefore_zero weights]
  exact sumBefore_mono nonneg (Nat.zero_le index)

theorem sumBefore_le_sum (nonneg : ∀ weight ∈ weights, 0 ≤ weight) (index : Nat) :
    sumBefore weights index ≤ weights.sum := by
  have all : sumBefore weights (index + weights.length) = weights.sum := by
    rw [sumBefore, List.take_of_length_le (Nat.le_add_left _ _)]
  rw [← all]
  exact sumBefore_mono nonneg (Nat.le_add_right _ _)

end Sums

/-! ## The entries of a table -/

/-- Every entry is the sum of the weights up to its own, divided by the total. -/
theorem getElem_shares (total sum : D) (weights : List D) (index : Nat)
    (inside : index < (shares total sum weights).length) :
    (shares total sum weights)[index] =
      (sum + sumBefore weights (index + 1)) / total := by
  induction weights generalizing sum index with
  | nil => simp [shares] at inside
  | cons weight weights ih =>
      cases index with
      | zero => simp [shares, sumBefore]
      | succ index =>
          simp only [shares, List.getElem_cons_succ]
          rw [ih, sumBefore, sumBefore, List.take_succ_cons, List.sum_cons, add_assoc]

/-- The table of weights with a positive sum. -/
theorem ofWeights_of_pos {weights : List D} (positive : 0 < weights.sum) :
    ofWeights weights = some ⟨shares weights.sum 0 weights⟩ := by
  have zero : (0.0 : D) = 0 := by simp
  have total : weights.foldl (· + ·) (0.0 : D) = weights.sum := by
    rw [zero, List.sum_eq_foldl]
  rw [ofWeights_eq_some_iff, total, zero]
  exact ⟨not_le.mpr positive, rfl⟩

/-- Shares do not depend on the unit of the weights. -/
theorem shares_map_mul {factor : D} (nonzero : factor ≠ 0) (total sum : D)
    (weights : List D) :
    shares (factor * total) (factor * sum) (weights.map (factor * ·)) =
      shares total sum weights := by
  induction weights generalizing sum with
  | nil => rfl
  | cons weight weights ih =>
      rw [List.map_cons, shares, shares, ← mul_add, mul_div_mul_left _ _ nonzero, ih]

theorem ofWeights_map_mul {factor : D} (factorPos : 0 < factor) {weights : List D}
    (positive : 0 < weights.sum) :
    ofWeights (weights.map (factor * ·)) = ofWeights weights := by
  have total : (weights.map (factor * ·)).sum = factor * weights.sum := by
    rw [List.sum_map_mul_left, List.map_id']
  have scaled := shares_map_mul factorPos.ne' weights.sum 0 weights
  rw [mul_zero] at scaled
  rw [ofWeights_of_pos positive, ofWeights_of_pos (total ▸ mul_pos factorPos positive),
    total, scaled]

/-- Where an entry exceeds the draw, the draw selects the first such entry. -/
theorem select_eq_some_iff_of_exceeded {table : ShareTable D} {draw : D}
    (exceeded : ∃ entry ∈ table.entries, draw < entry) (index : Nat) :
    table.select draw = some index ↔
      ∃ inside : index < table.entries.length, draw < table.entries[index] ∧
        ∀ earlier, earlier < index → ∀ present : earlier < table.entries.length,
          table.entries[earlier] ≤ draw := by
  cases found : table.entries.findIdx? (draw < ·) with
  | none =>
      obtain ⟨entry, isEntry, above⟩ := exceeded
      rw [List.findIdx?_eq_none_iff] at found
      exact absurd above (of_decide_eq_false (found entry isEntry))
  | some first =>
      rw [select_of_found found, ← found, List.findIdx?_eq_some_iff_getElem]
      simp only [decide_eq_true_eq, not_lt]
      refine exists_congr fun inside => and_congr_right fun _ => ⟨?_, ?_⟩
      · exact fun firstly earlier before _ => firstly earlier before
      · exact fun firstly earlier before => firstly earlier before (before.trans inside)

section Selection

variable {weights : List D} (nonneg : ∀ weight ∈ weights, 0 ≤ weight)
  (positive : 0 < weights.sum)

include positive

/-- A draw is below an entry if it is below the share of the weights up to that of the
entry. -/
theorem lt_getElem_shares_iff (draw : D) (index : Nat)
    (inside : index < (shares weights.sum 0 weights).length) :
    draw < (shares weights.sum 0 weights)[index] ↔
      draw * weights.sum < sumBefore weights (index + 1) := by
  rw [getElem_shares, zero_add, lt_div_iff₀ positive]

/-- The last entry exceeds every draw below one. -/
theorem exists_exceeding {draw : D} (below : draw < 1) :
    ∃ entry ∈ shares weights.sum 0 weights, draw < entry := by
  have present : weights ≠ [] := by
    rintro rfl
    simp at positive
  have last := getLast?_shares weights.sum 0 present
  rw [← List.sum_eq_foldl, div_self positive.ne'] at last
  exact ⟨1, List.mem_of_getLast? last, below⟩

include nonneg

/-- A draw selects the index in whose piece of the total it falls. -/
theorem select_shares_eq_some_iff {draw : D} (atLeast : 0 ≤ draw) (below : draw < 1)
    (index : Nat) :
    select ⟨shares weights.sum 0 weights⟩ draw = some index ↔
      sumBefore weights index ≤ draw * weights.sum ∧
        draw * weights.sum < sumBefore weights (index + 1) := by
  rw [select_eq_some_iff_of_exceeded (exists_exceeding positive below)]
  constructor
  · rintro ⟨inside, exceeds, firstly⟩
    refine ⟨?_, (lt_getElem_shares_iff positive draw index inside).mp exceeds⟩
    cases index with
    | zero =>
        rw [sumBefore_zero]
        exact mul_nonneg atLeast positive.le
    | succ index =>
        have notBefore := firstly index (Nat.lt_succ_self index) (Nat.lt_of_succ_lt inside)
        rw [← not_lt, lt_getElem_shares_iff positive, not_lt] at notBefore
        exact notBefore
  · rintro ⟨reaches, short⟩
    have inside : index < weights.length := by
      by_contra beyond
      rw [sumBefore, List.take_of_length_le (by omega)] at reaches
      exact absurd reaches (not_le.mpr (mul_lt_of_lt_one_left positive below))
    rw [← length_shares weights.sum 0 weights] at inside
    refine ⟨inside, (lt_getElem_shares_iff positive draw index inside).mpr short, ?_⟩
    intro earlier before _
    rw [← not_lt, lt_getElem_shares_iff positive, not_lt]
    exact (sumBefore_mono nonneg before).trans reaches

/-- The draws that select an index make up an interval. -/
theorem setOf_select_shares_eq (index : Nat) :
    { draw | (0 ≤ draw ∧ draw < 1) ∧
        select ⟨shares weights.sum 0 weights⟩ draw = some index } =
      Set.Ico (sumBefore weights index / weights.sum)
        (sumBefore weights (index + 1) / weights.sum) := by
  ext draw
  rw [Set.mem_ofPred_eq, Set.mem_Ico, div_le_iff₀ positive, lt_div_iff₀ positive]
  constructor
  · rintro ⟨⟨atLeast, below⟩, selected⟩
    exact (select_shares_eq_some_iff nonneg positive atLeast below index).mp selected
  · rintro ⟨reaches, short⟩
    have atLeast : 0 ≤ draw :=
      nonneg_of_mul_nonneg_left ((sumBefore_nonneg nonneg index).trans reaches) positive
    have below : draw < 1 :=
      (mul_lt_iff_lt_one_left positive).mp
        (short.trans_le (sumBefore_le_sum nonneg (index + 1)))
    exact ⟨⟨atLeast, below⟩,
      (select_shares_eq_some_iff nonneg positive atLeast below index).mpr
        ⟨reaches, short⟩⟩

end Selection

/-- The table of weights cuts the unit interval in proportion to them: a draw selects the
index in whose piece of the total it falls, and the draws that select an index make up an
interval as long as the share of its weight, so that an index without weight is never
selected.  Below one some entry always exceeds the draw, and weights in another unit have
the same table. -/
theorem selects_in_proportion {weights : List D} (nonneg : ∀ weight ∈ weights, 0 ≤ weight)
    (positive : 0 < weights.sum) :
    ∃ table, ofWeights weights = some table ∧
      (∀ draw, 0 ≤ draw → draw < 1 → ∀ index, table.select draw = some index ↔
        sumBefore weights index ≤ draw * weights.sum ∧
          draw * weights.sum < sumBefore weights (index + 1)) ∧
      (∀ index weight, weights[index]? = some weight → ∃ low high,
        { draw | (0 ≤ draw ∧ draw < 1) ∧ table.select draw = some index } =
          Set.Ico low high ∧ high - low = weight / weights.sum) ∧
      (∀ index, weights[index]? = some 0 → ∀ draw, 0 ≤ draw → draw < 1 →
        table.select draw ≠ some index) ∧
      (∀ draw, draw < 1 → ∃ entry ∈ table.entries, draw < entry) ∧
      ∀ factor, 0 < factor → ofWeights (weights.map (factor * ·)) = some table := by
  have selects := fun (draw : D) (atLeast : 0 ≤ draw) (below : draw < 1) =>
    select_shares_eq_some_iff nonneg positive atLeast below
  refine ⟨_, ofWeights_of_pos positive, selects, ?_, ?_, ?_, ?_⟩
  · intro index weight present
    refine ⟨_, _, setOf_select_shares_eq nonneg positive index, ?_⟩
    rw [← sub_div, sumBefore_succ present, add_sub_cancel_left]
  · intro index weightless draw atLeast below selected
    rw [selects draw atLeast below, sumBefore_succ weightless, add_zero] at selected
    exact absurd selected.2 (not_lt.mpr selected.1)
  · exact fun draw below => exists_exceeding positive below
  · intro factor factorPos
    rw [ofWeights_map_mul factorPos positive, ofWeights_of_pos positive]

/-- Of four weights of which two are zero the last is selected from a quarter on. -/
theorem last_of_four_weights_selected :
    let weights : List ℚ := [0, 1, 0, 3]
    (∀ weight ∈ weights, 0 ≤ weight) ∧ 0 < weights.sum ∧
      ∃ table, ofWeights weights = some table ∧
        (∀ draw, 0 ≤ draw → draw < 1 →
          (table.select draw = some 3 ↔ 1 ≤ draw * 4)) ∧
        table.select (1 / 4) = some 3 ∧
        ofWeights [0, 1 / 6, 0, 1 / 2] = some table := by
  intro weights
  have nonneg : ∀ weight ∈ weights, 0 ≤ weight := by decide
  have positive : 0 < weights.sum := by decide +kernel
  obtain ⟨table, tableIs, selects, -, -, -, scaled⟩ :=
    selects_in_proportion nonneg positive
  have before : sumBefore weights 3 = 1 := by decide +kernel
  have all : sumBefore weights 4 = 4 := by decide +kernel
  have total : weights.sum = 4 := by decide +kernel
  have last : ∀ draw, 0 ≤ draw → draw < 1 →
      (table.select draw = some 3 ↔ 1 ≤ draw * 4) := by
    intro draw atLeast below
    rw [selects draw atLeast below, before, all, total]
    exact and_iff_left (by linarith)
  refine ⟨nonneg, positive, table, tableIs, last, ?_, ?_⟩
  · exact (last _ (by norm_num) (by norm_num)).mpr (by norm_num)
  · have sixths := scaled (1 / 6) (by norm_num)
    have weightsAre : weights.map ((1 / 6) * ·) = [0, 1 / 6, 0, 1 / 2] := by
      decide +kernel
    rwa [weightsAre] at sixths

end GrowthGrammar.ShareTable
