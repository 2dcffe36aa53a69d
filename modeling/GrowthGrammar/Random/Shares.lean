import GrowthGrammar.Scalar

/-!
# Weighted choice

A share table holds the normalized running sums of a list of weights.  A draw
selects the first entry above it, so that each index is chosen in proportion to
its weight; the last index also takes the draws that no entry exceeds.
-/

namespace GrowthGrammar

/-- Normalized running sums of a list of weights. -/
structure ShareTable (D : Type) where
  entries : List D
deriving DecidableEq

namespace ShareTable

variable {D : Type}

/-- The table that selects nothing. -/
def empty : ShareTable D :=
  ⟨[]⟩

/-- Whether the table selects nothing. -/
def isEmpty (table : ShareTable D) : Bool :=
  table.entries.isEmpty

variable [Scalar D]

/-- The running sums of `weights` from `sum` on, each divided by `total`. -/
def shares (total : D) : D → List D → List D
  | _, [] => []
  | sum, weight :: weights =>
      (sum + weight) / total :: shares total (sum + weight) weights

@[simp]
theorem length_shares (total sum : D) (weights : List D) :
    (shares total sum weights).length = weights.length := by
  induction weights generalizing sum with
  | nil => rfl
  | cons weight weights ih => simp [shares, ih]

/-- The table of a list of weights, or nothing if they add up to zero or
less. -/
def ofWeights (weights : List D) : Option (ShareTable D) :=
  let total := weights.foldl (· + ·) 0.0
  if total ≤ 0.0 then none else some ⟨shares total 0.0 weights⟩

/-- A table has as many entries as there were weights. -/
theorem length_of_ofWeights {weights : List D} {table : ShareTable D}
    (htable : ofWeights weights = some table) :
    table.entries.length = weights.length := by
  simp only [ofWeights] at htable
  split at htable
  · simp at htable
  · cases htable
    simp

/-- The first index whose entry exceeds the draw, or else the last index. -/
def select (table : ShareTable D) (draw : D) : Option Nat :=
  match table.entries with
  | [] => none
  | first :: rest =>
      some (((first :: rest).findIdx? (draw < ·)).getD rest.length)

/-- Only the empty table selects nothing. -/
@[simp]
theorem select_eq_none_iff (table : ShareTable D) (draw : D) :
    table.select draw = none ↔ table = empty := by
  obtain ⟨entries⟩ := table
  cases entries <;> simp [select, empty]

/-- A table selects one of its entries. -/
theorem lt_of_select {table : ShareTable D} {draw : D} {index : Nat}
    (chosen : table.select draw = some index) :
    index < table.entries.length := by
  obtain ⟨entries⟩ := table
  cases entries with
  | nil => simp [select] at chosen
  | cons first rest =>
      simp only [select, Option.some.injEq] at chosen
      cases found : (first :: rest).findIdx? (draw < ·) with
      | none =>
          rw [found] at chosen
          simp only [Option.getD_none] at chosen
          simp [← chosen]
      | some place =>
          rw [found] at chosen
          obtain ⟨inside, _⟩ := List.findIdx?_eq_some_iff_getElem.mp found
          exact chosen ▸ inside

end ShareTable

end GrowthGrammar
