import GrowthGrammar.Proofs.Shape.Expansion

/-!
# What is decided is done

The fate of a shape is decided at one depth and carried out at the next.  In a
tidy shape a fate that is still open will be carried out: only a block that stands
on the ground and a storey of a house can have one, and a round visits both.  Every
step makes tidy shapes of a tidy one, carries out its fate if it has one, and makes
blocks of nothing but blocks.
-/

namespace GrowthGrammar

variable {D K : Type}

/-! ## Tidy shapes -/

/-- The kinds of shapes that growth starts from. -/
def Kind.IsBody : Kind → Prop
  | .tower _ => True
  | .block => True
  | .house => True
  | .roof => False
  | .spike => False
  | .column => False

namespace Shape

/-- A shape whose fate will be carried out if it has one, and whose kind agrees
with its status. -/
structure IsTidy (shape : Shape K) : Prop where
  column_due : shape.fate = .column → shape.status = .active ∧
    (shape.kind = .block ∧ shape.boundary.bottom = true ∨
      shape.kind = .house ∧ shape.depth = 4)
  removal_due : shape.fate = .removed → shape.status = .removed ∨
    shape.status = .active ∧ shape.kind = .house ∧ shape.depth = 4
  roof_stays : shape.kind = .roof → shape.status ≠ .removed
  spike_finished : shape.kind = .spike → shape.status = .finished
  column_finished : shape.kind = .column → shape.status = .finished

variable {shape : Shape K}

theorem isTidy_of_isBody (isBody : shape.kind.IsBody)
    (column : shape.fate = .column → shape.status = .active ∧
      (shape.kind = .block ∧ shape.boundary.bottom = true ∨
        shape.kind = .house ∧ shape.depth = 4))
    (removal : shape.fate = .removed → shape.status = .removed ∨
      shape.status = .active ∧ shape.kind = .house ∧ shape.depth = 4) :
    shape.IsTidy := by
  constructor
  · exact column
  · exact removal
  · intro isRoof
    simp [isRoof, Kind.IsBody] at isBody
  · intro isSpike
    simp [isSpike, Kind.IsBody] at isBody
  · intro isColumn
    simp [isColumn, Kind.IsBody] at isBody

/-- A body without a fate is tidy. -/
theorem isTidy_of_keep (isBody : shape.kind.IsBody) (undecided : shape.fate = .keep) :
    shape.IsTidy := by
  apply isTidy_of_isBody isBody
  · simp [undecided]
  · simp [undecided]

/-- A shape without a fate that is finished is tidy. -/
theorem isTidy_of_finished (undecided : shape.fate = .keep)
    (finished : shape.status = .finished) : shape.IsTidy := by
  constructor
  · simp [undecided]
  · simp [undecided]
  · simp [finished]
  · exact fun _ => finished
  · exact fun _ => finished

/-- A body that is taken out is tidy, unless it is to become a column. -/
theorem isTidy_of_removed (isBody : shape.kind.IsBody)
    (notColumn : shape.fate ≠ .column) (removed : shape.status = .removed) :
    shape.IsTidy := by
  apply isTidy_of_isBody isBody
  · exact fun column => absurd column notColumn
  · exact fun _ => Or.inl removed

/-- For an active shape something is decided only if it is a block or a storey. -/
theorem IsTidy.undecided (tidy : shape.IsTidy) (active : shape.status = .active)
    (notBlock : shape.kind ≠ .block)
    (notStorey : shape.kind = .house → shape.depth ≠ 4) : shape.fate = .keep := by
  cases decided : shape.fate with
  | keep => rfl
  | column =>
      rcases (tidy.column_due decided).2 with ⟨isBlock, _⟩ | ⟨isHouse, isStorey⟩
      · exact absurd isBlock notBlock
      · exact absurd isStorey (notStorey isHouse)
  | removed =>
      rcases tidy.removal_due decided with removed | ⟨_, isHouse, isStorey⟩
      · rw [active] at removed
        contradiction
      · exact absurd isStorey (notStorey isHouse)

variable [Scalar K]

/-- Whatever the fate of a body is, the shape is tidy after it is carried out. -/
theorem isTidy_meetFate (isBody : shape.kind.IsBody) : shape.meetFate.IsTidy := by
  rw [meetFate]
  cases decided : shape.fate with
  | keep => exact isTidy_of_keep isBody decided
  | column => exact isTidy_of_finished rfl rfl
  | removed => exact isTidy_of_removed isBody (by simp [remove, decided]) rfl

theorem meetFate_of_column (decided : shape.fate = .column) :
    shape.meetFate.kind = .column ∧ shape.meetFate.status = .finished := by
  rw [meetFate, decided]
  exact ⟨rfl, rfl⟩

theorem meetFate_of_removed (decided : shape.fate = .removed) :
    shape.meetFate.status = .removed := by
  rw [meetFate, decided]
  rfl

theorem kind_meetFate_ne_block (notBlock : shape.kind ≠ .block) :
    shape.meetFate.kind ≠ .block := by
  rw [meetFate]
  cases shape.fate with
  | keep => exact notBlock
  | column =>
      intro same
      cases same
  | removed => exact notBlock

end Shape

/-! ## Tidy steps -/

/-- What a tidy shape becomes is tidy; a fate is carried out, and blocks come only
from blocks. -/
structure Shape.RenewsTidily (shape : Shape K) (parts : List (Shape K)) :
    Prop where
  tidy : ∀ part ∈ parts, part.IsTidy
  unblocked : shape.kind ≠ .block → ∀ part ∈ parts, part.kind ≠ .block
  column_done : shape.fate = .column →
    ∃ column, parts = [column] ∧ column.kind = .column ∧ column.status = .finished
  removal_done : shape.fate = .removed →
    ∃ gone, parts = [gone] ∧ gone.status = .removed

namespace Shape.RenewsTidily

variable {shape : Shape K}

/-- Where nothing was decided nothing has to be carried out. -/
theorem of_keep (undecided : shape.fate = .keep) {parts : List (Shape K)}
    (tidy : ∀ part ∈ parts, part.IsTidy)
    (unblocked : shape.kind ≠ .block → ∀ part ∈ parts, part.kind ≠ .block) :
    shape.RenewsTidily parts := by
  constructor
  · exact tidy
  · exact unblocked
  · simp [undecided]
  · simp [undecided]

theorem singleton_of_keep (undecided : shape.fate = .keep) {part : Shape K}
    (tidy : part.IsTidy) (unblocked : shape.kind ≠ .block → part.kind ≠ .block) :
    shape.RenewsTidily [part] := by
  apply of_keep undecided
  · rwa [List.forall_mem_singleton]
  · rwa [List.forall_mem_singleton]

theorem finish (undecided : shape.fate = .keep) :
    shape.RenewsTidily [shape.finish] := by
  apply singleton_of_keep undecided
  · exact isTidy_of_finished undecided rfl
  · exact fun notBlock => notBlock

theorem deepen (isBody : shape.kind.IsBody) (undecided : shape.fate = .keep) :
    shape.RenewsTidily [shape.deepen] := by
  apply singleton_of_keep undecided
  · exact isTidy_of_keep isBody undecided
  · exact fun notBlock => notBlock

theorem remove (isBody : shape.kind.IsBody) (undecided : shape.fate = .keep) :
    shape.RenewsTidily [shape.remove] := by
  apply singleton_of_keep undecided
  · exact isTidy_of_removed isBody (by simp [Shape.remove, undecided]) rfl
  · exact fun notBlock => notBlock

variable [Scalar K]

/-- A body, however deep it is taken to be, renews tidily when its fate is carried
out. -/
theorem meetFate (isBody : shape.kind.IsBody) (depth : Nat) :
    shape.RenewsTidily [Shape.meetFate { shape with depth := depth }] := by
  constructor
  · rw [List.forall_mem_singleton]
    exact isTidy_meetFate isBody
  · intro notBlock
    rw [List.forall_mem_singleton]
    exact kind_meetFate_ne_block notBlock
  · exact fun column => ⟨_, rfl, meetFate_of_column column⟩
  · exact fun removed => ⟨_, rfl, meetFate_of_removed removed⟩

/-- The pieces of a body without a fate are bodies without a fate. -/
theorem pieces (isBody : shape.kind.IsBody) (undecided : shape.fate = .keep)
    (axis : Axis) (count : Nat) : shape.RenewsTidily (shape.pieces axis count) := by
  apply of_keep undecided
  · rw [Shape.pieces, List.forall_mem_map]
    intro number _
    apply isTidy_of_keep
    · rwa [kind_piece]
    · rwa [fate_piece]
  · intro notBlock
    rw [Shape.pieces, List.forall_mem_map]
    intro number _
    rwa [kind_piece]

end Shape.RenewsTidily

/-! ## Blocks -/

/-- Every way in which a block can be renewed is tidy.  What is to become a column
stands on the ground, so that the next round visits it. -/
theorem Block.Becomes.renewsTidily [Scalar K] {shape : Shape K}
    (isBlock : shape.kind = .block) (active : shape.status = .active)
    {parts : List (Shape K)} (becomes : Becomes shape parts) :
    shape.RenewsTidily parts := by
  have isBody : shape.kind.IsBody := by
    rw [isBlock]
    trivial
  cases becomes with
  | settled _ => exact .meetFate isBody shape.depth
  | fated undecided _ grounded _ =>
      have decided : ({ shape.deepen with fate := .column } : Shape K).kind.IsBody :=
        isBody
      apply Shape.RenewsTidily.singleton_of_keep undecided
      · apply Shape.isTidy_of_isBody decided
        · exact fun _ => ⟨active, Or.inl ⟨isBlock, grounded⟩⟩
        · exact nofun
      · exact fun notBlock => notBlock
  | removed undecided _ _ _ => exact .remove isBody undecided
  | divided undecided _ axis _ => exact .pieces isBody undecided axis _

/-! ## Houses -/

namespace House

/-- A storey that nothing is decided for. -/
structure IsPlainStorey (shape : Shape K) : Prop where
  isHouse : shape.kind = .house
  active : shape.status = .active
  undecided : shape.fate = .keep
  isStorey : shape.depth = 4

/-- Whether a shape may stand among the storeys of a cell once all is decided for
them. -/
def IsInStack (shape : Shape K) : Prop :=
  shape.IsTidy ∧ shape.kind ≠ .block

theorem IsPlainStorey.isBody {shape : Shape K} (plain : IsPlainStorey shape) :
    shape.kind.IsBody := by
  rw [plain.isHouse]
  trivial

theorem IsPlainStorey.isInStack {shape : Shape K} (plain : IsPlainStorey shape) :
    IsInStack shape := by
  constructor
  · exact Shape.isTidy_of_keep plain.isBody plain.undecided
  · rw [plain.isHouse]
    exact nofun

theorem IsPlainStorey.isInStack_remove {shape : Shape K}
    (plain : IsPlainStorey shape) : IsInStack shape.remove := by
  constructor
  · exact Shape.isTidy_of_removed plain.isBody
      (by simp [Shape.remove, plain.undecided]) rfl
  · rw [Shape.remove, plain.isHouse]
    exact nofun

/-- Any fate may be decided for a plain storey. -/
theorem IsPlainStorey.isInStack_withFate {shape : Shape K}
    (plain : IsPlainStorey shape) (fate : Fate) :
    IsInStack (withFate fate shape) := by
  have isBody : (withFate fate shape).kind.IsBody := plain.isBody
  constructor
  · apply Shape.isTidy_of_isBody isBody
    · exact fun _ => ⟨plain.active, Or.inr ⟨plain.isHouse, plain.isStorey⟩⟩
    · exact fun _ => Or.inr ⟨plain.active, plain.isHouse, plain.isStorey⟩
  · rw [kind_withFate, plain.isHouse]
    exact nofun

theorem isInStack_roofOver [Scalar K] (turned : Bool) (storey : Shape K) :
    IsInStack (roofOver turned storey) := by
  constructor
  · constructor <;> cases turned <;> exact nofun
  · cases turned <;> exact nofun

variable [Scalar D] [Scalar K] {shape : Shape K}

/-- A cell is divided into plain storeys. -/
theorem StackPlan.isPlainStorey_floor (isHouse : shape.kind = .house)
    (active : shape.status = .active) (undecided : shape.fate = .keep)
    (isCell : shape.depth = 3) (plan : StackPlan) (number : Nat) :
    IsPlainStorey (plan.floor shape number) := by
  rw [floor]
  constructor
  · rw [Shape.kind_piece, isHouse]
  · rw [Shape.status_piece, active]
  · rw [Shape.fate_piece, undecided]
  · rw [Shape.depth_piece, isCell]

/-- Of plain storeys a tidy stack is made: for each of them at most one fate is decided,
unless it makes place for the roof or is taken out. -/
theorem StackPlan.isInStack_entry {plan : StackPlan}
    (plain : ∀ number, IsPlainStorey (plan.floor shape number)) (number : Nat) :
    IsInStack (plan.entry shape number) := by
  rw [entry]
  split
  · rw [storey]
    split
    · exact (plain number).isInStack_withFate .column
    · split
      · exact (plain number).isInStack_withFate .removed
      · exact (plain number).isInStack
  · split
    · exact isInStack_roofOver plan.turned _
    · exact (plain number).isInStack_remove

omit [Scalar K] in
theorem renewsTidily_of_isInStack (undecided : shape.fate = .keep)
    {storeys : List (Shape K)} (inStack : ∀ storey ∈ storeys, IsInStack storey) :
    shape.RenewsTidily storeys := by
  apply Shape.RenewsTidily.of_keep undecided
  · exact fun storey isStorey => (inStack storey isStorey).1
  · exact fun _ storey isStorey => (inStack storey isStorey).2

/-- Every way in which a tidy house can be renewed is tidy. -/
theorem Becomes.renewsTidily {allowed : D → Prop} (tidy : shape.IsTidy)
    (active : shape.status = .active) (isHouse : shape.kind = .house)
    {parts : List (Shape K)} (becomes : Becomes allowed shape parts) :
    shape.RenewsTidily parts := by
  have isBody : shape.kind.IsBody := by
    rw [isHouse]
    trivial
  have undecided : shape.depth ≠ 4 → shape.fate = .keep := by
    intro notStorey
    exact tidy.undecided active (by simp [isHouse]) fun _ => notStorey
  cases becomes with
  | strips isGround _ _ => exact .pieces isBody (undecided (by omega)) _ _
  | cells isStrip _ => exact .pieces isBody (undecided (by omega)) _ _
  | trimmed isCell _ => exact .remove isBody (undecided (by omega))
  | spared isCell => exact .deepen isBody (undecided (by omega))
  | stacked isCell plan _ _ =>
      have keeps := undecided (by omega)
      rw [plan.stack_eq_map_entry]
      apply renewsTidily_of_isInStack keeps
      rw [List.forall_mem_map]
      intro number _
      apply plan.isInStack_entry
      exact plan.isPlainStorey_floor isHouse active keeps isCell
  | fated _ _ => exact .meetFate isBody (shape.depth + 1)
  | faced _ keeps facade =>
      have faced :
          ({ shape.deepen with facade := facade } : Shape K).kind.IsBody := isBody
      apply Shape.RenewsTidily.singleton_of_keep keeps
      · exact Shape.isTidy_of_keep faced keeps
      · exact fun notBlock => notBlock
  | finished isDone => exact .finish (undecided (by omega))

/-- A roof is finished, with or without a chimney that is finished, too. -/
theorem RoofBecomes.renewsTidily [Narrowing D K] {allowed : D → Prop}
    (undecided : shape.fate = .keep) (notBlock : shape.kind ≠ .block)
    {parts : List (Shape K)} (becomes : RoofBecomes allowed shape parts) :
    shape.RenewsTidily parts := by
  cases becomes with
  | finished => exact .finish undecided
  | crowned _ _ _ _ =>
      apply Shape.RenewsTidily.of_keep undecided
      · intro part isPart
        rcases List.mem_pair.mp isPart with rfl | rfl
        · exact Shape.isTidy_of_finished undecided rfl
        · exact Shape.isTidy_of_finished rfl rfl
      · intro _ part isPart
        rcases List.mem_pair.mp isPart with rfl | rfl
        · exact notBlock
        · simp [chimney, Shape.withKind]

end House

/-! ## Towers -/

namespace Tower

variable [Scalar D] [Scalar K] {shape : Shape K} {form : TowerForm}

/-- A part of a tower for which nothing is decided. -/
def IsPart (shape : Shape K) : Prop :=
  (∃ form, shape.kind = .tower form) ∧ shape.fate = .keep

omit [Scalar K] in
theorem renewsTidily_of_parts (undecided : shape.fate = .keep)
    {parts : List (Shape K)} (areParts : ∀ part ∈ parts, IsPart part) :
    shape.RenewsTidily parts := by
  apply Shape.RenewsTidily.of_keep undecided
  · intro part isPart
    obtain ⟨⟨form, isTower⟩, partUndecided⟩ := areParts part isPart
    apply Shape.isTidy_of_keep _ partUndecided
    rw [isTower]
    trivial
  · intro _ part isPart
    obtain ⟨⟨form, isTower⟩, _⟩ := areParts part isPart
    simp [isTower]

theorem isPart_pieces (isTower : shape.kind = .tower form)
    (undecided : shape.fate = .keep) (count : Nat) :
    ∀ part ∈ shape.pieces .y count, IsPart part := by
  rw [Shape.pieces, List.forall_mem_map]
  intro number _
  constructor
  · exact ⟨form, by rw [Shape.kind_piece, isTower]⟩
  · rw [Shape.fate_piece, undecided]

/-- Every way in which a tower without a fate can be renewed is tidy. -/
theorem Becomes.renewsTidily {allowed : D → Prop} (isTower : shape.kind = .tower form)
    (undecided : shape.fate = .keep) {parts : List (Shape K)}
    (becomes : Becomes allowed shape parts) : shape.RenewsTidily parts := by
  cases becomes with
  | floors _ form _ =>
      have floors : ∀ count, ∀ floor ∈ (formed form shape).pieces .y count,
          IsPart floor := isPart_pieces rfl undecided
      apply renewsTidily_of_parts undecided
      exact forall_mem_tapered (fun _ _ _ _ isPart => isPart) (floors _) form
  | crowned _ _ =>
      apply Shape.RenewsTidily.singleton_of_keep undecided
      · exact Shape.isTidy_of_finished rfl rfl
      · simp [spike, Shape.withKind, Shape.scaleAcross]
  | banded _ _ _ =>
      apply renewsTidily_of_parts undecided
      exact forall_mem_insetBands (fun _ _ _ isPart => isPart)
        (isPart_pieces isTower undecided _)
  | plain _ _ =>
      apply Shape.RenewsTidily.deepen _ undecided
      rw [isTower]
      trivial
  | finished _ => exact .finish undecided

end Tower

/-! ## All shapes -/

namespace Shape

variable [Scalar D] [Scalar K] [Narrowing D K] {shape : Shape K}

theorem IsTidy.renewsTidily (tidy : shape.IsTidy) (expands : shape.expands = true)
    {allowed : D → Prop} {parts : List (Shape K)}
    (becomes : shape.kind.Becomes allowed shape parts) : shape.RenewsTidily parts := by
  have active := status_of_expands expands
  cases isKind : shape.kind with
  | tower form =>
      rw [isKind] at becomes
      have undecided := tidy.undecided active (by simp [isKind]) (by simp [isKind])
      exact Tower.Becomes.renewsTidily isKind undecided becomes
  | block =>
      rw [isKind] at becomes
      exact Block.Becomes.renewsTidily isKind active becomes
  | house =>
      rw [isKind] at becomes
      exact House.Becomes.renewsTidily tidy active isKind becomes
  | roof =>
      rw [isKind] at becomes
      have undecided := tidy.undecided active (by simp [isKind]) (by simp [isKind])
      exact House.RoofBecomes.renewsTidily undecided (by simp [isKind]) becomes
  | spike => simp [Shape.expands, isKind] at expands
  | column => simp [Shape.expands, isKind] at expands

/-- A round that visits a tidy shape makes tidy shapes of it, and carries out its
fate. -/
theorem IsTidy.expand_delivers (tidy : shape.IsTidy)
    (expands : shape.expands = true) (draw : D) :
    Delivers (shape.expand draw) shape.RenewsTidily := by
  rw [delivers_iff]
  have values := delivers_iff.mp (Drawn.delivers_value (D := D))
  apply (expand_deliversFrom values expands draw).weaken
  exact fun parts becomes => tidy.renewsTidily expands becomes

end Shape

end GrowthGrammar
