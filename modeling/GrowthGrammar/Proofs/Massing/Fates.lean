import GrowthGrammar.Proofs.Massing.Rounds
import GrowthGrammar.Proofs.Shape.Policy.Fate

/-!
# Nothing is left undone

Growth from fresh shapes keeps all shapes tidy.  So every fate that is decided in
one round is carried out in the next, and when nothing can expand any more no fate
is left open.  The only shapes that are still active then are blocks in the middle
of a building, and these do not descend from houses or towers.
-/

namespace GrowthGrammar

section Growth

variable {D K : Type} [Scalar D] [Scalar K]

/-- The shapes that a host makes to grow from, in any frame and with any tint. -/
inductive Shape.IsFresh (D : Type) [Scalar D] : Shape K → Prop where
  | block (position rotation extents : Vec3 K) :
      IsFresh D (Shape.block position rotation extents)
  | house (position rotation extents : Vec3 K) (stream : DrawStream D) :
      IsFresh D ((Shape.house position rotation extents).run stream).1
  | tower (position rotation extents : Vec3 K) (stream : DrawStream D) :
      IsFresh D ((Shape.tower position rotation extents).run stream).1
  | framed {shape : Shape K} (fresh : IsFresh D shape) (rotation position : Vec3 K) :
      IsFresh D (shape.inFrame rotation position)
  | tinted {shape : Shape K} (fresh : IsFresh D shape) (tint : Vec4 K) :
      IsFresh D (shape.withTint tint)

/-- A shape to which nothing has happened yet. -/
structure Shape.IsNew (shape : Shape K) : Prop where
  status_eq : shape.status = .active
  depth_eq : shape.depth = 0
  undecided : shape.fate = .keep
  whole : shape.boundary = .full
  undivided : shape.divisions = ⟨0, 0, 0⟩

theorem Shape.IsFresh.isNew {shape : Shape K} (fresh : shape.IsFresh D) :
    shape.IsNew := by
  induction fresh with
  | block => exact ⟨rfl, rfl, rfl, rfl, rfl⟩
  | house => exact ⟨rfl, rfl, rfl, rfl, rfl⟩
  | tower => exact ⟨rfl, rfl, rfl, rfl, rfl⟩
  | framed _ _ _ ih => exact ⟨ih.1, ih.2, ih.3, ih.4, ih.5⟩
  | tinted _ _ ih => exact ⟨ih.1, ih.2, ih.3, ih.4, ih.5⟩

theorem Shape.IsFresh.isTidy {shape : Shape K} (fresh : shape.IsFresh D) :
    shape.IsTidy := by
  have isPlainBody : shape.kind.IsBody ∧ shape.fate = .keep := by
    induction fresh with
    | block => exact ⟨trivial, rfl⟩
    | house => exact ⟨trivial, rfl⟩
    | tower => exact ⟨trivial, rfl⟩
    | framed _ _ _ ih => exact ih
    | tinted _ _ ih => exact ih
  exact isTidy_of_keep isPlainBody.1 isPlainBody.2

variable [Narrowing D K]

/-! ## One shape -/

namespace Shape.IsTidy

variable {shape : Shape K} (tidy : shape.IsTidy)

include tidy

omit [Scalar K] in
/-- A round visits what is to become a column. -/
theorem expands_of_column (decided : shape.fate = .column) :
    shape.expands = true := by
  obtain ⟨active, ⟨isBlock, grounded⟩ | ⟨isHouse, _⟩⟩ := tidy.column_due decided
  · simp [expands, isSettled, active, isBlock, grounded]
  · simp [expands, isSettled, active, isHouse]

omit [Scalar K] in
/-- What is to be taken out is taken out already, or a round visits it. -/
theorem expands_of_removed (decided : shape.fate = .removed) :
    shape.status = .removed ∨ shape.expands = true := by
  rcases tidy.removal_due decided with removed | ⟨active, isHouse, _⟩
  · exact Or.inl removed
  · right
    simp [expands, isSettled, active, isHouse]

/-- A round makes tidy shapes of a tidy one, whether it visits the shape or
not. -/
theorem renew_delivers : Delivers (Growth.renew (D := D) shape) shape.RenewsTidily := by
  rw [Growth.renew]
  split
  · next expands =>
      apply Drawn.delivers_value.bind
      intro draw _
      exact tidy.expand_delivers expands draw
  · next rests =>
      apply Delivers.pure
      constructor
      · rw [List.forall_mem_singleton]
        exact tidy
      · intro notBlock
        rwa [List.forall_mem_singleton]
      · intro decided
        exact absurd (tidy.expands_of_column decided) rests
      · intro decided
        exact ⟨shape, rfl, (tidy.expands_of_removed decided).resolve_right rests⟩

end Shape.IsTidy

/-! ## Descent -/

namespace Growth

/-- The shapes that rounds can make out of one shape. -/
inductive Descends (D : Type) [Scalar D] [Narrowing D K] (origin : Shape K) :
    Shape K → Prop where
  | self : Descends D origin origin
  | renewed {shape part : Shape K} {parts : List (Shape K)}
      {stream next : DrawStream D} (descends : Descends D origin shape)
      (run : runFrom stream (renew shape) = (.ok parts, next))
      (isPart : part ∈ parts) : Descends D origin part

variable {origin shape : Shape K}

theorem Descends.isTidy (descends : Descends D origin shape)
    (tidy : origin.IsTidy) : shape.IsTidy := by
  induction descends with
  | self => exact tidy
  | renewed _ run isPart ih =>
      exact (ih.renew_delivers.ensures run).tidy _ isPart

/-- Blocks descend from nothing but blocks. -/
theorem Descends.kind_ne_block (descends : Descends D origin shape)
    (tidy : origin.IsTidy) (notBlock : origin.kind ≠ .block) :
    shape.kind ≠ .block := by
  induction descends with
  | self => exact notBlock
  | renewed earlier run isPart ih =>
      have renewed := (earlier.isTidy tidy).renew_delivers.ensures run
      exact renewed.unblocked ih _ isPart

variable {start site : Site D K}

/-- All that is reached descends from what growth started with. -/
theorem Reaches.exists_origin (reached : Reaches start site) :
    ∀ shape ∈ site.massing.shapes,
      ∃ origin ∈ start.massing.shapes, Descends D origin shape := by
  let descend (shapes : List (Shape K)) : Prop := ∀ shape ∈ shapes,
    ∃ origin ∈ start.massing.shapes, Descends D origin shape
  have renewed : ∀ {shapes : List (Shape K)}, descend shapes →
      ∀ shape ∈ shapes, Ensures (renew (D := D) shape) descend := by
    intro shapes known shape isShape stream parts next run part isPart
    obtain ⟨origin, isOrigin, descends⟩ := known shape isShape
    exact ⟨origin, isOrigin, descends.renewed run isPart⟩
  have joined : ∀ {shapes : List (Shape K)} {parts : List (List (Shape K))},
      descend shapes → List.Forall₂ (fun _ => descend) shapes parts →
        descend parts.flatten := by
    intro shapes parts _ related
    exact forall_mem_flatten_of_forall₂ related fun known => known
  exact reached.of_kept (fun shape isShape => ⟨shape, isShape, .self⟩) renewed joined

/-! ## All rounds -/

/-- A round succeeds if the renewal of every shape does, and exchanges every shape
for what its renewal delivers. -/
theorem round_of_delivers {post : Shape K → List (Shape K) → Prop}
    (each : ∀ shape ∈ site.massing.shapes,
      Delivers (renew (D := D) shape) (post shape)) :
    ∃ parts stream, List.Forall₂ post site.massing.shapes parts ∧
      runFrom site round = (.ok site.massing.canGrow,
        { massing :=
            { site.massing with
              shapes := parts.flatten
              rounds := site.massing.rounds + 1 }
          stream := stream }) := by
  obtain ⟨parts, stream, run, related⟩ := Delivers.mapM each site.stream
  have all : runFrom site.stream (expandAll site.massing.shapes) =
      (.ok parts.flatten, stream) := by
    rw [expandAll_eq, runFrom_map, run]
    rfl
  exact ⟨parts, stream, related, runFrom_round_of_ok all⟩

/-- What a shape for which something is decided becomes in the next round. -/
structure CarriesOut (shape : Shape K) (parts : List (Shape K)) : Prop where
  column : shape.fate = .column →
    ∃ column, parts = [column] ∧ column.kind = .column ∧ column.status = .finished
  removal : shape.fate = .removed → ∃ gone, parts = [gone] ∧ gone.status = .removed

omit [Scalar D] [Scalar K] [Narrowing D K] in
/-- Of a tidy shape that cannot expand nothing is left to be done, and it is active
only if it is a block in the middle. -/
theorem clean_of_rests (tidy : shape.IsTidy) (rests : shape.expands = false) :
    (shape.status ≠ .removed → shape.fate = .keep) ∧
      (shape.kind = .roof ∨ shape.kind = .spike ∨ shape.kind = .column →
        shape.status = .finished) ∧
      (shape.status = .active → shape.kind = .block ∧ shape.fate = .keep ∧
        shape.boundary.bottom = false ∧ shape.boundary.top = false) := by
  have undecided : shape.status ≠ .removed → shape.fate = .keep := by
    intro placed
    cases decided : shape.fate with
    | keep => rfl
    | column =>
        rw [tidy.expands_of_column decided] at rests
        contradiction
    | removed =>
        rcases tidy.expands_of_removed decided with removed | expands
        · exact absurd removed placed
        · rw [expands] at rests
          contradiction
  have middle : shape.status = .active → shape.kind = .block ∧
      shape.boundary.bottom = false ∧ shape.boundary.top = false := by
    intro active
    cases kindIs : shape.kind with
    | block => simpa [Shape.expands, Shape.isSettled, active, kindIs] using rests
    | spike => simp [tidy.spike_finished kindIs] at active
    | column => simp [tidy.column_finished kindIs] at active
    | tower form => simp [Shape.expands, Shape.isSettled, active, kindIs] at rests
    | house => simp [Shape.expands, Shape.isSettled, active, kindIs] at rests
    | roof => simp [Shape.expands, Shape.isSettled, active, kindIs] at rests
  refine ⟨undecided, ?_, ?_⟩
  · rintro (isRoof | isSpike | isColumn)
    · cases status : shape.status with
      | active =>
          have isBlock := (middle status).1
          rw [isRoof] at isBlock
          contradiction
      | finished => rfl
      | removed => exact absurd status (tidy.roof_stays isRoof)
    · exact tidy.spike_finished isSpike
    · exact tidy.column_finished isColumn
  · intro active
    obtain ⟨isBlock, offGround, belowTop⟩ := middle active
    exact ⟨isBlock, undecided (by simp [active]), offGround, belowTop⟩

/-- Every round succeeds and carries out what was decided in the round before.
When nothing can expand any more, no shape that is placed has an open fate, all
roofs, spikes and columns are finished, what descends from houses and towers is
finished or taken out, and only blocks in the middle of a building are active. -/
theorem fates_are_carried_out
    (fresh : ∀ shape ∈ start.massing.shapes, shape.IsFresh D)
    (reached : Reaches start site) :
    (∃ parts stream,
      List.Forall₂ (fun shape part => CarriesOut shape part ∧
        ∃ before after : DrawStream D,
          runFrom before (renew shape) = (.ok part, after))
        site.massing.shapes parts ∧
      runFrom site round = (.ok site.massing.canGrow,
        { massing :=
            { site.massing with
              shapes := parts.flatten
              rounds := site.massing.rounds + 1 }
          stream := stream })) ∧
    (site.massing.canGrow = false → ∀ shape ∈ site.massing.shapes,
      (shape.status ≠ .removed → shape.fate = .keep) ∧
      (shape.kind = .roof ∨ shape.kind = .spike ∨ shape.kind = .column →
        shape.status = .finished) ∧
      (shape.status = .active → shape.kind = .block ∧ shape.fate = .keep ∧
        shape.boundary.bottom = false ∧ shape.boundary.top = false) ∧
      (∃ origin ∈ start.massing.shapes, Descends D origin shape) ∧
      ∀ origin ∈ start.massing.shapes,
        (origin.kind = .house ∨ ∃ form, origin.kind = .tower form) →
        Descends D origin shape →
          shape.status = .finished ∨ shape.status = .removed) := by
  have descended := reached.exists_origin
  have tidy : ∀ shape ∈ site.massing.shapes, shape.IsTidy := by
    intro shape isShape
    obtain ⟨origin, isOrigin, descends⟩ := descended shape isShape
    exact descends.isTidy (fresh origin isOrigin).isTidy
  constructor
  · apply round_of_delivers
    intro shape isShape
    apply (tidy shape isShape).renew_delivers.attained.weaken
    rintro parts ⟨renewed, run⟩
    exact ⟨⟨renewed.column_done, renewed.removal_done⟩, run⟩
  · intro atRest shape isShape
    have rests : shape.expands = false := by
      simp only [Massing.canGrow, List.any_eq_false, Bool.not_eq_true] at atRest
      exact atRest shape isShape
    obtain ⟨undecided, finished, middle⟩ := clean_of_rests (tidy shape isShape) rests
    refine ⟨undecided, finished, middle, descended shape isShape, ?_⟩
    intro origin isOrigin ordinary descends
    have notBlock : origin.kind ≠ .block := by
      rcases ordinary with isHouse | ⟨form, isTower⟩
      · simp [isHouse]
      · simp [isTower]
    have shapeNotBlock :=
      descends.kind_ne_block (fresh origin isOrigin).isTidy notBlock
    cases status : shape.status with
    | active => exact absurd (middle status).1 shapeNotBlock
    | finished => exact Or.inl rfl
    | removed => exact Or.inr rfl

end Growth

end Growth

/-- Whatever a number of rounds leads to can be reached. -/
theorem Growth.Reaches.rounds {K : Type} [Scalar K] [Narrowing Float K]
    {start site : Site Float K} (reached : Reaches start site) (count : Nat) :
    Reaches start (runFrom site (rounds count)).2 := by
  induction count generalizing site with
  | zero => exact reached
  | succ count ih =>
      have next := reached.round
      rw [Growth.rounds, runFrom_bind]
      rcases ran : runFrom site Growth.round with ⟨_ | grew, later⟩
      · rw [ran] at next
        exact next
      · rw [ran] at next
        exact ih next

/-- Whether some round of a growth puts one shape in the place of another. -/
def Growth.Exchanges {D K : Type} [Scalar D] [Scalar K] [Narrowing D K]
    (start : Site D K) (shape part : Shape K) : Prop :=
  ∃ before after grew, Reaches start before ∧ shape ∈ before.massing.shapes ∧
    runFrom before round = (.ok grew, after) ∧ part ∈ after.massing.shapes ∧
    ∃ first last : DrawStream D, runFrom first (renew shape) = (.ok [part], last)

/-- Of a house and a block, pieces of the block are chosen to become columns in the third
round.  In the fourth, ground floors of the house are chosen to become columns, and
storeys under its roofs to be taken out.  All this is done one round later, and after six
rounds nothing is left to be done. -/
theorem Growth.house_and_block_left_clean :
    let values : Nat → Float := fun index =>
      if index = 2 then 0.3
      else if index < 12 then 0.1
      else if index < 16 then 0.5
      else if index < 20 then 0.9
      else if index % 5 = 0 then 0.5
      else 0.05
    let stream := DrawStream.start values .stochastic 0
    let house : Shape Float32 :=
      ((Shape.house Vec3.zero Vec3.zero ⟨8.0, 8.0, 8.0⟩).run stream).1
    let block : Shape Float32 := Shape.block Vec3.zero Vec3.zero ⟨8.0, 8.0, 8.0⟩
    let start : Site Float Float32 :=
      { massing := Massing.ofShapes [house, block] none
        stream := stream }
    (∀ shape ∈ start.massing.shapes, shape.IsFresh Float) ∧
      (∃ piece column, Exchanges start piece column ∧
        piece.kind = .block ∧ piece.fate = .column ∧
          column.kind = .column ∧ column.status = .finished) ∧
      (∃ storey column, Exchanges start storey column ∧
        storey.kind = .house ∧ storey.fate = .column ∧
          column.kind = .column ∧ column.status = .finished) ∧
      (∃ storey gone, Exchanges start storey gone ∧
        storey.kind = .house ∧ storey.status = .active ∧ storey.fate = .removed ∧
          gone.status = .removed) ∧
      ∃ site, Reaches start site ∧ site.massing.canGrow = false ∧
        ∀ shape ∈ site.massing.shapes,
          shape.status ≠ .removed → shape.fate = .keep := by
  intro values stream house block start
  have fresh : ∀ shape ∈ start.massing.shapes, shape.IsFresh Float := by
    intro shape isShape
    rcases List.mem_pair.mp isShape with rfl | rfl
    · exact .house _ _ _ stream
    · exact .block _ _ _
  have below : ∀ index, ¬ (1.0 : Float) ≤ values index := by
    intro index
    simp only [values]
    split_ifs <;> decide +kernel
  have sound : Sound 2 640 6 start :=
    ⟨Massing.bounded_start [house, block], fun count => below _⟩
  have reaches : ∀ count, Reaches start (runFrom start (rounds count)).2 :=
    fun count => Reaches.start.rounds count
  have exchanges : ∀ {site : Site Float Float32} {shape : Shape Float32},
      Reaches start site → shape ∈ site.massing.shapes →
        ∃ parts, CarriesOut shape parts ∧
          ∀ part, parts = [part] → Exchanges start shape part := by
    intro site shape reached isShape
    obtain ⟨⟨parts, stream, related, run⟩, -⟩ :=
      fates_are_carried_out fresh reached
    obtain ⟨own, isOwn, carries, first, last, renewed⟩ :=
      exists_of_forall₂ related isShape
    refine ⟨own, carries, ?_⟩
    rintro part rfl
    exact ⟨site, _, _, reached, isShape, run,
      List.mem_flatten.mpr ⟨_, isOwn, List.mem_cons_self⟩, first, last, renewed⟩
  have pieces : ∃ piece ∈ (runFrom start (rounds 3)).2.massing.shapes,
      piece.kind = .block ∧ piece.fate = .column := by
    decide +kernel
  have storeys :
      (∃ storey ∈ (runFrom start (rounds 4)).2.massing.shapes,
        storey.kind = .house ∧ storey.fate = .column) ∧
      ∃ storey ∈ (runFrom start (rounds 4)).2.massing.shapes,
        storey.kind = .house ∧ storey.status = .active ∧ storey.fate = .removed := by
    decide +kernel
  refine ⟨fresh, ?_, ?_, ?_, ?_⟩
  · obtain ⟨piece, isShape, isBlock, decided⟩ := pieces
    obtain ⟨parts, carries, exchanged⟩ := exchanges (reaches 3) isShape
    obtain ⟨column, isPart, isColumn, finished⟩ := carries.column decided
    exact ⟨piece, column, exchanged column isPart, isBlock, decided, isColumn,
      finished⟩
  · obtain ⟨storey, isShape, isHouse, decided⟩ := storeys.1
    obtain ⟨parts, carries, exchanged⟩ := exchanges (reaches 4) isShape
    obtain ⟨column, isPart, isColumn, finished⟩ := carries.column decided
    exact ⟨storey, column, exchanged column isPart, isHouse, decided, isColumn,
      finished⟩
  · obtain ⟨storey, isShape, isHouse, active, decided⟩ := storeys.2
    obtain ⟨parts, carries, exchanged⟩ := exchanges (reaches 4) isShape
    obtain ⟨gone, isPart, removed⟩ := carries.removal decided
    exact ⟨storey, gone, exchanged gone isPart, isHouse, active, decided,
      removed⟩
  · obtain ⟨site, run, siteSound⟩ := rounds_of_sound 6 sound
    have reached := reaches 6
    rw [run] at reached
    have atRest := siteSound.canGrow_eq_false
    refine ⟨site, reached, atRest, ?_⟩
    intro shape isShape
    exact ((fates_are_carried_out fresh reached).2 atRest shape isShape).1

end GrowthGrammar
