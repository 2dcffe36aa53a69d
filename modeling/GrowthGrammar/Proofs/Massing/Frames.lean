import GrowthGrammar.Proofs.Massing.Unfolding
import GrowthGrammar.Proofs.Space.Exact

/-!
# What is handed down

All that a shape becomes stands in the frame of the shape, carries its tint and is
tilted as the shape is.  A round puts at least one shape in the place of every other, and
leaves alone what cannot expand.  So a sequence falls into one block for each of the
shapes that it grew from, and resting shapes are never lost.
-/

namespace GrowthGrammar

/-- What a shape hands down to all that is made of it. -/
structure Frame (K : Type) where
  tint : Vec4 K
  rotation : Vec3 K
  position : Vec3 K
  /-- The angle of the shape itself about the first axis. -/
  pitch : K
  /-- The angle of the shape itself about the last axis. -/
  roll : K

namespace Shape

variable {K : Type}

/-- The frame that a shape stands in. -/
def frame (shape : Shape K) : Frame K :=
  { tint := shape.tint
    rotation := shape.frameRotation
    position := shape.framePosition
    pitch := shape.rotation.x
    roll := shape.rotation.z }

section Frames

variable [Scalar K] (shape : Shape K)

@[simp]
theorem frame_piece (axis : Axis) (count number : Nat) :
    (shape.piece axis count number).frame = shape.frame := by
  rw [piece]
  split <;> rfl

@[simp]
theorem frame_meetFate : shape.meetFate.frame = shape.frame := by
  rw [meetFate]
  split <;> rfl

@[simp]
theorem frame_roofOver (turned : Bool) :
    (House.roofOver turned shape).frame = shape.frame := by
  cases turned <;> rfl

end Frames

/-- At least one shape is made, and all that are made are handed the frame. -/
structure HandsDown (shape : Shape K) (parts : List (Shape K)) : Prop where
  present : parts ≠ []
  framed : ∀ part ∈ parts, part.frame = shape.frame

theorem handsDown_singleton {shape part : Shape K} (framed : part.frame = shape.frame) :
    shape.HandsDown [part] :=
  { present := List.cons_ne_nil part []
    framed := List.forall_mem_singleton.mpr framed }

theorem handsDown_pieces [Scalar K] (shape : Shape K) (axis : Axis) {count : Nat}
    (positive : 0 < count) : shape.HandsDown (shape.pieces axis count) := by
  constructor
  · rw [← List.length_pos_iff, length_pieces]
    exact positive
  · rw [pieces, List.forall_mem_map]
    exact fun number _ => shape.frame_piece axis count number

/-- What is handed down twice is handed down. -/
theorem HandsDown.flatten {shape : Shape K} {block : List (Shape K)}
    {parts : List (List (Shape K))} (down : shape.HandsDown block)
    (further : List.Forall₂ HandsDown block parts) :
    shape.HandsDown parts.flatten := by
  constructor
  · cases further with
    | nil => exact absurd rfl down.present
    | cons first _ => simp [first.present]
  · have known := (List.forall₂_and_left _ _).mpr ⟨down.framed, further⟩
    refine forall_mem_flatten_of_forall₂ known ?_
    rintro part pieces ⟨framed, handed⟩ piece isPiece
    rw [handed.framed piece isPiece, framed]

end Shape

/-! ## Kinds -/

theorem Block.Becomes.handsDown {K : Type} [Scalar K] {shape : Shape K}
    {parts : List (Shape K)} (becomes : Block.Becomes shape parts) :
    shape.HandsDown parts := by
  cases becomes with
  | settled => exact Shape.handsDown_singleton shape.frame_meetFate
  | fated => exact Shape.handsDown_singleton rfl
  | removed => exact Shape.handsDown_singleton rfl
  | divided _ _ axis several =>
      exact shape.handsDown_pieces axis (Nat.zero_lt_of_lt several)

namespace Tower

variable {D K : Type} [Scalar D] [Scalar K] {shape : Shape K}

/-- Set back or not, floors stand in the same frame. -/
theorem handsDown_tapered (form : TowerForm) {floors : List (Shape K)}
    (down : shape.HandsDown floors) : shape.HandsDown (tapered form floors) := by
  have present : ∀ sides (inset : K), taperFloors sides inset floors ≠ [] := by
    obtain ⟨floor, others, rfl⟩ := List.exists_cons_of_ne_nil down.present
    intro sides inset
    exact List.cons_ne_nil _ _
  have framed := fun sides (inset : K) =>
    forall_mem_taperFloors (fun _ _ _ _ holds => holds) down.framed sides inset
  rw [tapered]
  split
  · exact ⟨present 8 0.71, framed 8 0.71⟩
  · exact ⟨present 4 1.0, framed 4 1.0⟩

theorem handsDown_insetBands {bands : List (Shape K)} (down : shape.HandsDown bands) :
    shape.HandsDown (insetBands bands) := by
  constructor
  · have present := down.present
    fun_cases insetBands bands with
    | case1 outer inner bands => exact List.cons_ne_nil _ _
    | case2 bands _ => exact present
  · exact forall_mem_insetBands (fun _ _ _ holds => holds) down.framed

theorem Becomes.handsDown {allowed : D → Prop} {parts : List (Shape K)}
    (becomes : Tower.Becomes allowed shape parts) : shape.HandsDown parts := by
  cases becomes with
  | @floors _ form draw _ =>
      have several := floorRange.least_le_pieces .y draw
      have divided := (formed form shape).handsDown_pieces .y (Nat.zero_lt_of_lt several)
      exact handsDown_tapered form ⟨divided.present, divided.framed⟩
  | crowned => exact Shape.handsDown_singleton rfl
  | @banded _ _ draw _ =>
      have several := bandRange.least_le_pieces .y draw
      exact handsDown_insetBands (shape.handsDown_pieces .y (Nat.zero_lt_of_lt several))
  | plain => exact Shape.handsDown_singleton rfl
  | finished => exact Shape.handsDown_singleton rfl

end Tower

namespace House

variable {D K : Type} [Scalar D] [Scalar K] {shape : Shape K}

/-- Storeys, roof and the storey above it stand in the frame of their cell. -/
theorem handsDown_stack (plan : StackPlan) (cell : Shape K) :
    cell.HandsDown (plan.stack cell) := by
  constructor
  · rw [StackPlan.stack]
    exact List.append_ne_nil_of_right_ne_nil _ (List.cons_ne_nil _ _)
  · apply plan.forall_mem_stack
    · exact fun number => cell.frame_piece .y plan.count number
    · rw [StackPlan.roof, Shape.frame_roofOver, StackPlan.floor, Shape.frame_piece]
    · exact fun _ _ framed => framed
    · exact fun _ framed => framed

theorem Becomes.handsDown {allowed : D → Prop} {parts : List (Shape K)}
    (becomes : House.Becomes allowed shape parts) : shape.HandsDown parts := by
  have divided := fun axis (draw : D) => shape.handsDown_pieces axis
    (Nat.zero_lt_of_lt (PieceRange.standard.least_le_pieces axis draw))
  cases becomes with
  | strips => exact divided _ _
  | cells => exact divided _ _
  | trimmed => exact Shape.handsDown_singleton rfl
  | spared => exact Shape.handsDown_singleton rfl
  | stacked _ plan => exact handsDown_stack plan shape
  | fated => exact Shape.handsDown_singleton shape.deepen.frame_meetFate
  | faced => exact Shape.handsDown_singleton rfl
  | finished => exact Shape.handsDown_singleton rfl

/-- A chimney stands in the frame of its roof. -/
theorem RoofBecomes.handsDown [Narrowing D K] {allowed : D → Prop}
    {parts : List (Shape K)} (becomes : RoofBecomes allowed shape parts) :
    shape.HandsDown parts := by
  cases becomes with
  | finished => exact Shape.handsDown_singleton rfl
  | crowned =>
      constructor
      · exact List.cons_ne_nil _ _
      · rw [List.forall_mem_cons, List.forall_mem_singleton]
        exact ⟨rfl, rfl⟩

end House

/-! ## Rounds -/

section Growth

variable {D K : Type} [Scalar D] [Scalar K] [Narrowing D K]

theorem Shape.Renews.handsDown {allowed : D → Prop} {shape : Shape K}
    {parts : List (Shape K)} (renews : shape.Renews allowed parts) :
    shape.HandsDown parts := by
  cases renews with
  | rests => exact Shape.handsDown_singleton rfl
  | grows _ becomes =>
      exact becomes.imp Tower.Becomes.handsDown Block.Becomes.handsDown
        House.Becomes.handsDown House.RoofBecomes.handsDown

/-- What stands in the place of a shape after some rounds. -/
structure Shape.LastsAs (shape : Shape K) (block : List (Shape K)) : Prop where
  down : shape.HandsDown block
  rests : shape.expands = false → block = [shape]

omit [Scalar K] in
theorem Shape.lastsAs_self (shape : Shape K) : shape.LastsAs [shape] :=
  { down := handsDown_singleton rfl
    rests := fun _ => rfl }

/-- One more round changes what stands there into something of the sort. -/
theorem Shape.LastsAs.renewed {allowed : D → Prop} {shape : Shape K}
    {block : List (Shape K)} {parts : List (List (Shape K))}
    (lasts : shape.LastsAs block)
    (renewed : List.Forall₂ (Shape.Renews allowed) block parts) :
    shape.LastsAs parts.flatten := by
  constructor
  · exact lasts.down.flatten (renewed.imp fun _ _ renews => renews.handsDown)
  · intro rests
    rw [lasts.rests rests, List.forall₂_cons_left_iff] at renewed
    obtain ⟨part, _, renews, others, rfl⟩ := renewed
    cases others
    rw [renews.eq_self rests]
    rfl

omit [Scalar K] in
/-- Shapes that cannot expand keep their order among what the others become. -/
theorem Shape.resting_sublist {shapes : List (Shape K)}
    {blocks : List (List (Shape K))} (last : List.Forall₂ Shape.LastsAs shapes blocks) :
    (shapes.filter (!·.expands)).Sublist blocks.flatten := by
  induction last with
  | nil => exact List.Sublist.slnil
  | @cons shape block _ _ lasts _ ih =>
      rw [List.flatten_cons]
      cases expands : shape.expands with
      | true =>
          rw [List.filter_cons_of_neg (by simp [expands])]
          exact ih.trans (List.sublist_append_right _ _)
      | false =>
          rw [List.filter_cons_of_pos (by simp [expands]), lasts.rests expands]
          exact ih.cons_cons shape

namespace Growth

variable {start site : Site D K}

/-- What is reached falls into one block for each of the shapes at the start. -/
theorem Reaches.exists_blocks (reached : Reaches start site) :
    ∃ blocks, List.Forall₂ Shape.LastsAs start.massing.shapes blocks ∧
      site.massing.shapes = blocks.flatten := by
  let falls (shapes : List (Shape K)) : Prop :=
    ∃ blocks, List.Forall₂ Shape.LastsAs start.massing.shapes blocks ∧
      shapes = blocks.flatten
  have atStart : falls start.massing.shapes := by
    refine ⟨start.massing.shapes.map fun shape => [shape], ?_, ?_⟩
    · rw [List.forall₂_map_right_iff]
      exact List.forall₂_same.mpr fun shape _ => shape.lastsAs_self
    · rw [← List.flatMap_def, List.flatMap_singleton']
  have kept : ∀ {shapes : List (Shape K)} {parts : List (List (Shape K))},
      falls shapes → List.Forall₂ (Shape.Renews fun _ : D => True) shapes parts →
        falls parts.flatten := by
    rintro _ parts ⟨blocks, last, rfl⟩ renewed
    obtain ⟨wholes, related, same⟩ := exists_joined_blocks last renewed
    refine ⟨wholes, related.imp ?_, same⟩
    rintro shape _ ⟨block, pieces, lasts, further, rfl⟩
    exact lasts.renewed further
  exact reached.of_renewed atStart kept

/-- However growth goes on, no round fails, and the sequence is made of one block for
each of the shapes at the start, in their order: there is something in every block, and
all of it has the tint, the frame and the tilt of the first shape.  What cannot expand
appears in all later sequences, unchanged and in the same order. -/
theorem shapes_keep_order_and_frame (reached : Reaches start site) :
    (∃ blocks,
      List.Forall₂ (fun origin block => block ≠ [] ∧ ∀ shape ∈ block,
        shape.frameRotation = origin.frameRotation ∧
        shape.framePosition = origin.framePosition ∧
        shape.tint = origin.tint ∧
        shape.rotation.x = origin.rotation.x ∧
        shape.rotation.z = origin.rotation.z) start.massing.shapes blocks ∧
      site.massing.shapes = blocks.flatten) ∧
    (∃ next, runFrom site round = (.ok site.massing.canGrow, next)) ∧
    ∀ later, Reaches site later →
      (site.massing.shapes.filter (!·.expands)).Sublist later.massing.shapes := by
  refine ⟨?_, ?_, ?_⟩
  · obtain ⟨blocks, last, joined⟩ := reached.exists_blocks
    refine ⟨blocks, last.imp ?_, joined⟩
    intro origin block lasts
    refine ⟨lasts.down.present, fun shape isShape => ?_⟩
    have framed := lasts.down.framed shape isShape
    simp only [Shape.frame, Frame.mk.injEq] at framed
    obtain ⟨tint, rotation, position, pitch, roll⟩ := framed
    exact ⟨rotation, position, tint, pitch, roll⟩
  · have values := delivers_iff.mp (Drawn.delivers_value (D := D))
    obtain ⟨next, run, -⟩ := round_renews values site trivial
    exact ⟨next, run⟩
  · intro later further
    obtain ⟨blocks, last, joined⟩ := further.exists_blocks
    rw [joined]
    exact Shape.resting_sublist last

/-- A tilted house grows beside a column; the house keeps its frame and its tilt, and
the column stays. -/
theorem tilted_house_grows_beside_column :
    let house : Shape ℚ :=
      (Shape.ofKind .house Vec3.zero ⟨10, 20, 30⟩ ⟨9, 9, 9⟩).inFrame
        ⟨0, 90, 0⟩ ⟨5, 0, 5⟩
    let column : Shape ℚ := (Shape.block Vec3.zero Vec3.zero ⟨1, 1, 1⟩).toColumn
    let start : Site ℚ ℚ :=
      { massing := Massing.ofShapes [house, column] none
        stream := DrawStream.start (fun _ => 3 / 10) .stochastic 0 }
    let site := (runFrom (runFrom start round).2 round).2
    Reaches start site ∧
      (∃ first second, site.massing.shapes = first ++ second ∧
        first ≠ [] ∧ second ≠ [] ∧
        (∀ shape ∈ first, shape.framePosition = ⟨5, 0, 5⟩ ∧ shape.rotation.x = 10) ∧
        ∀ shape ∈ second, shape.framePosition = Vec3.zero) ∧
      [column].Sublist site.massing.shapes := by
  intro house column start site
  have reached : Reaches start site := .round (.round .start)
  obtain ⟨blocks, inherited, joined⟩ := (shapes_keep_order_and_frame reached).1
  obtain ⟨first, _, ⟨firstPresent, firstFramed⟩, rest, rfl⟩ :=
    List.forall₂_cons_left_iff.mp inherited
  obtain ⟨second, _, ⟨secondPresent, secondFramed⟩, none, rfl⟩ :=
    List.forall₂_cons_left_iff.mp rest
  cases none
  have resting : start.massing.shapes.filter (!·.expands) = [column] := by
    decide +kernel
  refine ⟨reached, ⟨first, second, ?_, firstPresent, secondPresent, ?_, ?_⟩, ?_⟩
  · simpa using joined
  · intro shape isShape
    obtain ⟨-, place, -, pitch, -⟩ := firstFramed shape isShape
    exact ⟨place, pitch⟩
  · intro shape isShape
    exact (secondFramed shape isShape).2.1
  · rw [← resting]
    exact (shapes_keep_order_and_frame .start).2.2 site reached

end Growth

end Growth

end GrowthGrammar
