import GrowthGrammar.Proofs.Float.Numbers
import GrowthGrammar.Random.Shares

/-!
# Shares of weights

The entries of a share table are the running sums of weights, divided by their
total.  As long as no sum is too large, every entry is a share between zero and one,
no entry is below the one before, the last one is one, and a draw selects an index
that has a weight.  If the total is infinite, no entry exceeds a draw, and every
draw falls through to the last index.
-/

namespace GrowthGrammar.ShareTable

open Binary64

/-- The last running sum is the total of all weights. -/
theorem getLast?_shares {D : Type} [Scalar D] (total sum : D) {weights : List D}
    (present : weights ≠ []) :
    (shares total sum weights).getLast? =
      some (weights.foldl (· + ·) sum / total) := by
  induction weights generalizing sum with
  | nil => contradiction
  | cons weight weights ih =>
      cases weights with
      | nil => rfl
      | cons next rest =>
          rw [shares, shares, List.getLast?_cons_cons]
          exact ih (sum + weight) (List.cons_ne_nil next rest)

theorem select_of_found {D : Type} [Scalar D] {table : ShareTable D} {draw : D}
    {index : Nat} (found : table.entries.findIdx? (draw < ·) = some index) :
    table.select draw = some index := by
  obtain ⟨entries⟩ := table
  cases entries with
  | nil => simp at found
  | cons first rest => simp only [select, found, Option.getD_some]

/-- A draw that no entry exceeds selects the last index. -/
theorem select_of_not_lt {D : Type} [Scalar D] {table : ShareTable D} {draw : D}
    (present : table.entries ≠ [])
    (exceeds : ∀ entry ∈ table.entries, ¬ draw < entry) :
    table.select draw = some (table.entries.length - 1) := by
  obtain ⟨entries⟩ := table
  cases entries with
  | nil => contradiction
  | cons first rest =>
      have none : (first :: rest).findIdx? (draw < ·) = none := by
        rw [List.findIdx?_eq_none_iff]
        intro entry inside
        exact decide_eq_false (exceeds entry inside)
      simp only [select, none, Option.getD_none, List.length_cons, Nat.add_sub_cancel]

theorem ofWeights_eq_some_iff {D : Type} [Scalar D] {weights : List D}
    {table : ShareTable D} :
    ofWeights weights = some table ↔
      ¬ weights.foldl (· + ·) 0.0 ≤ (0.0 : D) ∧
        table = ⟨shares (weights.foldl (· + ·) 0.0) 0.0 weights⟩ := by
  rw [ofWeights]
  split
  · next little => simp [little]
  · next more => simp [more, eq_comm]

/-! ## Sums that stay finite -/

/-- The weights add up to the total from an amount on, and every sum on the way is
the nearest amount to the exact one. -/
inductive AddsUp (total : Float) : Float → ℚ → List Float → Prop
  | whole {amount : ℚ} (isWhole : HasAmount total amount) : AddsUp total total amount []
  | weight {sum weight : Float} {amount added next : ℚ} {weights : List Float}
      (sumHas : HasAmount sum amount) (weightHas : HasAmount weight added)
      (nearest : IsNearest (amount + added) next)
      (rest : AddsUp total (sum + weight) next weights) :
      AddsUp total sum amount (weight :: weights)

theorem foldl_isInfinite {sum : Float} (infinite : IsInfinite sum)
    {weights : List Float}
    (amounts : ∀ weight ∈ weights, ∃ amount, HasAmount weight amount) :
    IsInfinite (weights.foldl (· + ·) sum) := by
  induction weights generalizing sum with
  | nil => exact infinite
  | cons weight weights ih =>
      obtain ⟨amount, weightHas⟩ := amounts weight List.mem_cons_self
      exact ih (infinite.add weightHas)
        (fun other inside => amounts other (List.mem_cons_of_mem _ inside))

/-- Weights add up to their sum, or it is infinite. -/
theorem addsUp_or_isInfinite {sum : Float} {amount : ℚ}
    (sumHas : HasAmount sum amount) {weights : List Float}
    (amounts : ∀ weight ∈ weights, ∃ amount, HasAmount weight amount) :
    AddsUp (weights.foldl (· + ·) sum) sum amount weights ∨
      IsInfinite (weights.foldl (· + ·) sum) := by
  induction weights generalizing sum amount with
  | nil => exact Or.inl (.whole sumHas)
  | cons weight weights ih =>
      obtain ⟨added, weightHas⟩ := amounts weight List.mem_cons_self
      have restAmounts : ∀ other ∈ weights, ∃ amount, HasAmount other amount :=
        fun other inside => amounts other (List.mem_cons_of_mem _ inside)
      rcases sumHas.add weightHas with ⟨next, nextHas, nearest⟩ | infinite
      · rcases ih nextHas restAmounts with rest | infinite
        · exact Or.inl (.weight sumHas weightHas nearest rest)
        · exact Or.inr infinite
      · exact Or.inr (foldl_isInfinite infinite restAmounts)

namespace AddsUp

variable {total sum : Float} {amount whole : ℚ} {weights : List Float}

theorem hasAmount (adds : AddsUp total sum amount weights) : HasAmount sum amount := by
  cases adds with
  | whole isWhole => exact isWhole
  | weight sumHas _ _ _ => exact sumHas

/-- A weight never makes a sum smaller. -/
theorem le_next {weight : Float} {added next : ℚ} (sumHas : HasAmount sum amount)
    (weightHas : HasAmount weight added) (nearest : IsNearest (amount + added) next) :
    amount ≤ next :=
  nearest.le_of_onGrid_le sumHas.onGrid (le_add_of_nonneg_right weightHas.nonneg)

theorem exists_whole (adds : AddsUp total sum amount weights) :
    ∃ whole, HasAmount total whole := by
  induction adds with
  | whole isWhole => exact ⟨_, isWhole⟩
  | weight _ _ _ _ ih => exact ih

theorem le_whole (adds : AddsUp total sum amount weights)
    (totalHas : HasAmount total whole) : amount ≤ whole := by
  induction adds with
  | whole isWhole => exact le_of_eq (isWhole.value_eq.symm.trans totalHas.value_eq)
  | weight sumHas weightHas nearest _ ih =>
      exact (le_next sumHas weightHas nearest).trans ih

variable (adds : AddsUp total sum amount weights) (totalHas : HasAmount total whole)
  (positive : 0 < whole)
include adds totalHas positive

/-- The share of a running sum. -/
theorem exists_share : ∃ share, HasAmount (sum / total) share := by
  obtain ⟨share, hasShare, _⟩ :=
    adds.hasAmount.div totalHas positive (adds.le_whole totalHas)
  exact ⟨share, hasShare⟩

/-- Every entry is a share, and none is below the share of the sum before. -/
theorem entry_of_mem {entry : Float} (inside : entry ∈ shares total sum weights) :
    (∃ share, HasAmount entry share) ∧ sum / total ≤ entry := by
  induction adds with
  | whole _ => exact absurd inside List.not_mem_nil
  | @weight sum weight amount added next weights sumHas weightHas nearest rest ih =>
      obtain ⟨share, hasShare⟩ := (AddsUp.weight sumHas weightHas nearest rest).exists_share
        totalHas positive
      obtain ⟨nextShare, nextHasShare⟩ := rest.exists_share totalHas positive
      have grows : sum / total ≤ (sum + weight) / total :=
        sumHas.div_le_div rest.hasAmount totalHas positive
          (le_next sumHas weightHas nearest) (rest.le_whole totalHas)
      rcases List.mem_cons.mp inside with rfl | later
      · exact ⟨⟨nextShare, nextHasShare⟩, grows⟩
      · obtain ⟨⟨entryShare, entryHas⟩, above⟩ := ih later
        refine ⟨⟨entryShare, entryHas⟩, ?_⟩
        rw [hasShare.le_iff nextHasShare] at grows
        rw [nextHasShare.le_iff entryHas] at above
        rw [hasShare.le_iff entryHas]
        exact grows.trans above

theorem pairwise_shares : (shares total sum weights).Pairwise (· ≤ ·) := by
  induction adds with
  | whole _ => exact List.Pairwise.nil
  | weight _ _ _ rest ih =>
      refine List.Pairwise.cons ?_ ih
      intro entry inside
      exact (rest.entry_of_mem totalHas positive inside).2

/-- A draw below one, and not below the share of the sum before, finds an entry that
exceeds it, and the first such entry has a weight. -/
theorem exists_found {draw : Float} {drawn : ℚ} (drawHas : HasAmount draw drawn)
    (belowOne : draw < 1.0) (passed : ¬ draw < sum / total) :
    ∃ index weight, (shares total sum weights).findIdx? (draw < ·) = some index ∧
      weights[index]? = some weight ∧ 0.0 < weight := by
  induction adds with
  | whole isWhole =>
      rw [totalHas.div_self_eq_one positive] at passed
      exact absurd belowOne passed
  | @weight sum weight amount added next weights sumHas weightHas nearest rest ih =>
      rw [shares, List.findIdx?_cons]
      by_cases below : draw < (sum + weight) / total
      · refine ⟨0, weight, by simp [below], rfl, ?_⟩
        obtain ⟨share, hasShare⟩ :=
          (AddsUp.weight sumHas weightHas nearest rest).exists_share totalHas positive
        obtain ⟨nextShare, nextHasShare⟩ := rest.exists_share totalHas positive
        rw [hasAmount_zero.lt_iff weightHas]
        by_contra weightless
        -- Without a weight the share has not grown, and the draw has passed it before.
        have none : added = 0 := le_antisymm (not_lt.mp weightless) weightHas.nonneg
        rw [none, add_zero] at nearest
        have same : next = amount := nearest.eq_of_onGrid sumHas.onGrid
        have notGrown : (sum + weight) / total ≤ sum / total :=
          rest.hasAmount.div_le_div sumHas totalHas positive (le_of_eq same)
            (same ▸ rest.le_whole totalHas)
        rw [nextHasShare.le_iff hasShare] at notGrown
        rw [drawHas.lt_iff nextHasShare] at below
        rw [drawHas.lt_iff hasShare] at passed
        exact passed (below.trans_le notGrown)
      · obtain ⟨index, chosen, found, chosenIs, hasWeight⟩ := ih below
        exact ⟨index + 1, chosen, by simp [below, found], chosenIs, hasWeight⟩

end AddsUp

/-! ## An infinite total -/

/-- No entry exceeds a draw if the total is infinite. -/
theorem not_lt_entry {total : Float} (infinite : IsInfinite total) {draw : Float}
    {drawn : ℚ} (drawHas : HasAmount draw drawn) {sum : Float}
    (sumIs : (∃ amount, HasAmount sum amount) ∨ IsInfinite sum) {weights : List Float}
    (amounts : ∀ weight ∈ weights, ∃ amount, HasAmount weight amount) :
    ∀ entry ∈ shares total sum weights, ¬ draw < entry := by
  induction weights generalizing sum with
  | nil =>
      intro entry inside
      exact absurd inside List.not_mem_nil
  | cons weight weights ih =>
      obtain ⟨added, weightHas⟩ := amounts weight List.mem_cons_self
      have nextIs : (∃ amount, HasAmount (sum + weight) amount) ∨
          IsInfinite (sum + weight) := by
        rcases sumIs with ⟨amount, sumHas⟩ | sumInfinite
        · rcases sumHas.add weightHas with ⟨next, nextHas, _⟩ | overflows
          · exact Or.inl ⟨next, nextHas⟩
          · exact Or.inr overflows
        · exact Or.inr (sumInfinite.add weightHas)
      intro entry inside
      rcases List.mem_cons.mp inside with rfl | later
      · rcases nextIs with ⟨next, nextHas⟩ | nextInfinite
        · rw [drawHas.lt_iff (nextHas.div_infinite infinite)]
          exact not_lt.mpr drawHas.nonneg
        · exact nextInfinite.not_lt_div infinite draw
      · exact ih nextIs
          (fun other within => amounts other (List.mem_cons_of_mem _ within)) entry later

/-! ## Tables -/

section Table

variable {weights : List Float} {table : ShareTable Float}

theorem ne_nil_of_ofWeights (tableIs : ofWeights weights = some table) :
    weights ≠ [] := by
  rintro rfl
  obtain ⟨positive, _⟩ := ofWeights_eq_some_iff.mp tableIs
  exact positive ((hasAmount_zero.le_iff hasAmount_zero).mpr le_rfl)

variable (amounts : ∀ weight ∈ weights, ∃ amount, HasAmount weight amount)
  (tableIs : ofWeights weights = some table)
include amounts tableIs

theorem shares_of_finite_total (finite : (weights.foldl (· + ·) 0.0).isFinite) :
    (∀ entry ∈ table.entries, entry.isFinite) ∧
      table.entries.Pairwise (· ≤ ·) ∧ table.entries.getLast? = some 1.0 ∧
      ∀ draw, 0.0 ≤ draw → draw < 1.0 →
        ∃ index weight, table.select draw = some index ∧
          weights[index]? = some weight ∧ 0.0 < weight := by
  have present := ne_nil_of_ofWeights tableIs
  obtain ⟨more, rfl⟩ := ofWeights_eq_some_iff.mp tableIs
  have last := getLast?_shares (weights.foldl (· + ·) 0.0) 0.0 present
  have adds : AddsUp (weights.foldl (· + ·) 0.0) 0.0 0 weights := by
    rcases addsUp_or_isInfinite hasAmount_zero amounts with adds | infinite
    · exact adds
    · rw [infinite.not_isFinite] at finite
      contradiction
  obtain ⟨whole, totalHas⟩ := adds.exists_whole
  generalize weights.foldl (· + ·) 0.0 = total at *
  have positive : 0 < whole := by
    rw [totalHas.le_iff hasAmount_zero] at more
    exact not_le.mp more
  refine ⟨?_, adds.pairwise_shares totalHas positive, ?_, ?_⟩
  · intro entry inside
    obtain ⟨⟨share, hasShare⟩, _⟩ := adds.entry_of_mem totalHas positive inside
    exact hasShare.isFinite
  · rw [totalHas.div_self_eq_one positive] at last
    exact last
  · intro draw atLeast belowOne
    obtain ⟨drawn, drawHas⟩ := exists_hasAmount_of_lt_one atLeast belowOne
    obtain ⟨share, hasShare, nearest⟩ :=
      hasAmount_zero.div totalHas positive positive.le
    rw [zero_div] at nearest
    have passed : ¬ draw < 0.0 / total := by
      rw [drawHas.lt_iff hasShare, nearest.eq_of_onGrid onGrid_zero]
      exact not_lt.mpr drawHas.nonneg
    obtain ⟨index, weight, found, weightIs, hasWeight⟩ :=
      adds.exists_found totalHas positive drawHas belowOne passed
    exact ⟨index, weight, select_of_found found, weightIs, hasWeight⟩

theorem shares_of_infinite_total
    (infinite : (weights.foldl (· + ·) 0.0).isFinite = false) :
    (∃ entry, table.entries.getLast? = some entry ∧ entry.isNaN) ∧
      ∀ draw, 0.0 ≤ draw → draw < 1.0 →
        table.select draw = some (weights.length - 1) := by
  have present := ne_nil_of_ofWeights tableIs
  obtain ⟨_, rfl⟩ := ofWeights_eq_some_iff.mp tableIs
  have last := getLast?_shares (weights.foldl (· + ·) 0.0) 0.0 present
  have isInfinite : IsInfinite (weights.foldl (· + ·) 0.0) := by
    rcases addsUp_or_isInfinite hasAmount_zero amounts with adds | infinite
    · obtain ⟨whole, totalHas⟩ := adds.exists_whole
      rw [totalHas.isFinite] at infinite
      contradiction
    · exact infinite
  generalize weights.foldl (· + ·) 0.0 = total at last isInfinite ⊢
  constructor
  · exact ⟨_, last, isInfinite.isNaN_div isInfinite⟩
  · intro draw atLeast belowOne
    obtain ⟨drawn, drawHas⟩ := exists_hasAmount_of_lt_one atLeast belowOne
    have notExceeded := not_lt_entry isInfinite drawHas
      (Or.inl ⟨0, hasAmount_zero⟩) amounts
    have entriesPresent : shares total 0.0 weights ≠ [] := by
      rw [← List.length_pos_iff, length_shares, List.length_pos_iff]
      exact present
    rw [select_of_not_lt entriesPresent notExceeded, length_shares]

end Table

end GrowthGrammar.ShareTable
