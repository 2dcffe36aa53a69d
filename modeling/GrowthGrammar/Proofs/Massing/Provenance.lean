import GrowthGrammar.Proofs.Massing.Unfolding
import GrowthGrammar.Proofs.Space.Exact

/-!
# Where erosion works

A block is visited only if it touches the ground or the top, and what stands on the
ground below the top becomes a column before it could be taken out.  So columns stand
on the ground below the top, and nothing is taken out but corners at the top.
-/

namespace GrowthGrammar

namespace Shape

variable {K : Type}

/-- What is on the ground and below the top. -/
def IsLowest (shape : Shape K) : Prop :=
  shape.boundary.bottom = true ∧ shape.boundary.top = false

/-- What is made of a block by division and erosion: where there are columns, or are to
be, and what has been taken out. -/
structure IsEroded (shape : Shape K) : Prop where
  kind_eq : shape.kind = .block ∨ shape.kind = .column
  stays : shape.fate ≠ .removed
  to_column : shape.fate = .column → shape.IsLowest
  column : shape.kind = .column → shape.IsLowest
  removed : shape.status = .removed →
    shape.atCorner = true ∧ shape.boundary.top = true ∧ 2 ≤ shape.depth

section Blocks

variable {shape : Shape K} (isBlock : shape.kind = .block)

include isBlock

/-- For a block that is not taken out only its fate is in question. -/
theorem isEroded_of_placed (placed : shape.status ≠ .removed)
    (stays : shape.fate ≠ .removed) (lowest : shape.fate = .column → shape.IsLowest) :
    shape.IsEroded :=
  { kind_eq := Or.inl isBlock
    stays := stays
    to_column := lowest
    column := by simp [isBlock]
    removed := fun removed => absurd removed placed }

theorem isEroded_of_keep (placed : shape.status ≠ .removed)
    (undecided : shape.fate = .keep) : shape.IsEroded :=
  isEroded_of_placed isBlock placed (by simp [undecided]) (by simp [undecided])

/-- A block that becomes a column is on the ground and below the top. -/
theorem IsEroded.meetFate [Scalar K] (eroded : shape.IsEroded) :
    shape.meetFate.IsEroded := by
  rw [Shape.meetFate]
  cases decided : shape.fate with
  | keep =>
      have finished : shape.finish.status = .finished := rfl
      exact isEroded_of_keep isBlock (by simp [finished]) decided
  | column =>
      have lowest := eroded.to_column decided
      have undecided : shape.toColumn.fate = .keep := rfl
      have finished : shape.toColumn.status = .finished := rfl
      exact
        { kind_eq := Or.inr rfl
          stays := by simp [undecided]
          to_column := by simp [undecided]
          column := fun _ => lowest
          removed := by simp [finished] }
  | removed => exact absurd decided eroded.stays

end Blocks

theorem IsFresh.isEroded {D : Type} [Scalar D] [Scalar K] {shape : Shape K}
    (fresh : shape.IsFresh D) (isBlock : shape.kind = .block) : shape.IsEroded := by
  have new := fresh.isNew
  exact isEroded_of_keep isBlock (by simp [new.status_eq]) new.undecided

end Shape

/-- All that a visited block becomes is eroded where it may be. -/
theorem Block.Becomes.isEroded {K : Type} [Scalar K] {shape : Shape K}
    {parts : List (Shape K)} (becomes : Block.Becomes shape parts)
    (eroded : shape.IsEroded) (isBlock : shape.kind = .block)
    (expands : shape.expands = true) : ∀ part ∈ parts, part.IsEroded := by
  have active : shape.status = .active := Shape.status_of_expands expands
  have placed : shape.status ≠ .removed := by simp [active]
  cases becomes with
  | settled =>
      rw [List.forall_mem_singleton]
      exact eroded.meetFate isBlock
  | fated _ _ grounded belowTop =>
      rw [List.forall_mem_singleton]
      exact Shape.isEroded_of_placed isBlock placed nofun fun _ => ⟨grounded, belowTop⟩
  | removed undecided deep atCorner notFated =>
      -- A round visits no block that touches neither the ground nor the top.
      have touches : shape.boundary.bottom = true ∨ shape.boundary.top = true := by
        simpa [Shape.expands, Shape.isSettled, active, isBlock] using expands
      have top : shape.boundary.top = true := touches.elim notFated id
      rw [List.forall_mem_singleton]
      exact
        { kind_eq := Or.inl isBlock
          stays := eroded.stays
          to_column := eroded.to_column
          column := eroded.column
          removed := fun _ => ⟨atCorner, top, deep⟩ }
  | divided undecided _ axis =>
      rw [Shape.pieces, List.forall_mem_map]
      intro number _
      apply Shape.isEroded_of_keep
      · rw [Shape.kind_piece, isBlock]
      · rwa [Shape.status_piece]
      · rw [Shape.fate_piece, undecided]

section Growth

variable {D K : Type} [Scalar D] [Scalar K] [Narrowing D K]

/-- A round erodes nothing but what may be eroded. -/
theorem Shape.Renews.isEroded {allowed : D → Prop} {shape : Shape K}
    {parts : List (Shape K)} (renews : shape.Renews allowed parts)
    (eroded : shape.IsEroded) : ∀ part ∈ parts, part.IsEroded := by
  cases renews with
  | rests =>
      rw [List.forall_mem_singleton]
      exact eroded
  | grows expands becomes =>
      rcases eroded.kind_eq with isBlock | isColumn
      · rw [isBlock] at becomes
        exact becomes.isEroded eroded isBlock expands
      · rw [isColumn] at becomes
        exact becomes.elim

/-- Whatever is reached from fresh blocks, columns touch the ground and not the top, and
what is taken out is a corner that touches the top and was divided off twice at
least. -/
theorem Growth.eroded_only_at_top {start site : Site D K}
    (fresh : ∀ shape ∈ start.massing.shapes, shape.IsFresh D ∧ shape.kind = .block)
    (reached : Reaches start site) :
    ∀ shape ∈ site.massing.shapes,
      (shape.kind = .column →
        shape.boundary.bottom = true ∧ shape.boundary.top = false) ∧
      (shape.status = .removed →
        shape.atCorner = true ∧ shape.boundary.top = true ∧ 2 ≤ shape.depth) := by
  have initial : ∀ shape ∈ start.massing.shapes, shape.IsEroded := by
    intro shape isShape
    exact (fresh shape isShape).1.isEroded (fresh shape isShape).2
  have eroded := reached.forall_of_renewed initial Shape.Renews.isEroded
  intro shape isShape
  exact ⟨(eroded shape isShape).column, (eroded shape isShape).removed⟩

/-- A block is cut into slices; one of them becomes a column, and another is taken
out. -/
theorem Growth.slices_eroded_at_both_ends :
    let extents : Vec3 ℚ := ⟨9, 9, 9⟩
    let start : Site ℚ ℚ :=
      { massing :=
          Massing.ofShapes [Shape.block Vec3.zero Vec3.zero extents] none
        stream :=
          DrawStream.start (fun count => if count < 6 then 3 / 10 else 9 / 10)
            .stochastic 0 }
    let next := fun site : Site ℚ ℚ => (runFrom site Growth.round).2
    let site := next (next (next (next start)))
    (∀ shape ∈ start.massing.shapes, shape.IsFresh ℚ ∧ shape.kind = .block) ∧
      Reaches start site ∧
      (∃ column ∈ site.massing.shapes, column.kind = .column ∧
        column.boundary.bottom = true ∧ column.boundary.top = false) ∧
      ∃ gone ∈ site.massing.shapes, gone.status = .removed ∧
        gone.atCorner = true ∧ gone.boundary.top = true ∧ 2 ≤ gone.depth := by
  intro extents start next site
  have fresh : ∀ shape ∈ start.massing.shapes,
      shape.IsFresh ℚ ∧ shape.kind = .block := by
    intro shape isShape
    rw [List.mem_singleton.mp isShape]
    exact ⟨.block _ _ _, rfl⟩
  have reached : Reaches start site := .round (.round (.round (.round .start)))
  have columnPresent : ∃ shape ∈ site.massing.shapes, shape.kind = .column := by
    decide +kernel
  have gonePresent : ∃ shape ∈ site.massing.shapes, shape.status = .removed := by
    decide +kernel
  obtain ⟨column, isColumn, columnKind⟩ := columnPresent
  obtain ⟨gone, isGone, goneStatus⟩ := gonePresent
  have columnPlace := (eroded_only_at_top fresh reached column isColumn).1 columnKind
  have gonePlace := (eroded_only_at_top fresh reached gone isGone).2 goneStatus
  exact ⟨fresh, reached, ⟨column, isColumn, columnKind, columnPlace⟩,
    ⟨gone, isGone, goneStatus, gonePlace⟩⟩

end Growth

end GrowthGrammar
