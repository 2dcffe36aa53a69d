import Mathlib
import GrowthGrammar.Proofs.Massing.Unfolding
import GrowthGrammar.Proofs.Shape.Policy.Roofing

/-!
# Chimneys stand on their roofs

A chimney is a fifth as wide as the shorter side of its roof, and stands less than one and a
half times its width off the middle of the roof.  So there is always room for it, whichever
way the roof is turned.  In a sequence it stands directly behind its roof: no other step
makes a finished house that was never divided upwards.
-/

namespace GrowthGrammar

/-! ## Values of the unit interval -/

namespace DrawStream

variable {D : Type} [ExactScalar D]

/-- Whether the sequence of the host stays in the unit interval. -/
def StaysInUnit (stream : DrawStream D) : Prop :=
  ∀ count, stream.ambient count ∈ Set.Ico 0 1

theorem sineHash_mem_unit (n : Int) : (sineHash n : D) ∈ Set.Ico 0 1 := by
  rw [sineHash, Scalar.fraction]
  generalize (Scalar.sin (Scalar.ofInt n) * 43758.5453123 : D) = large
  split
  · simp
  · constructor
    · exact sub_nonneg.mpr (ExactScalar.floor_le large)
    · exact sub_lt_iff_lt_add'.mpr (ExactScalar.lt_floor_add_one large)

variable {stream : DrawStream D} (stays : stream.StaysInUnit)

include stays

theorem StaysInUnit.value : stream.value ∈ Set.Ico 0 1 := by
  rw [DrawStream.value]
  cases stream.mode with
  | stochastic => exact stays stream.drawn
  | deterministic => exact sineHash_mem_unit _

theorem StaysInUnit.advance : stream.advance.StaysInUnit := by
  intro count
  rw [ambient_advance]
  exact stays count

omit stays in
theorem deliversFrom_unit :
    DeliversFrom StaysInUnit (Drawn.value (D := D)) (· ∈ Set.Ico (0 : D) 1) :=
  Drawn.deliversFrom_value_iff.mpr fun _ stays => ⟨stays.advance, stays.value⟩

end DrawStream

namespace Growth

section Reach

variable {D K : Type} [ExactScalar D] [Scalar K] [Narrowing D K] {start site : Site D K}

/-- The sites that rounds make out of a site if all random values lie in the unit interval.
The random stream may be exchanged between two rounds. -/
inductive ReachesInUnit (start : Site D K) : Site D K → Prop where
  | start (stays : start.stream.StaysInUnit) : ReachesInUnit start start
  | round {site : Site D K} (reached : ReachesInUnit start site) :
      ReachesInUnit start (runFrom site round).2
  | redirected {site : Site D K} (reached : ReachesInUnit start site)
      (stream : DrawStream D) (stays : stream.StaysInUnit) :
      ReachesInUnit start { site with stream := stream }

/-- What is kept whenever shapes are renewed for values of the unit interval holds of all
sequences that can be reached. -/
theorem ReachesInUnit.of_renewed {motive : List (Shape K) → Prop}
    (reached : ReachesInUnit start site) (atStart : motive start.massing.shapes)
    (kept : ∀ {shapes parts}, motive shapes →
      List.Forall₂ (Shape.Renews (· ∈ Set.Ico (0 : D) 1)) shapes parts →
        motive parts.flatten) :
    site.stream.StaysInUnit ∧ motive site.massing.shapes := by
  induction reached with
  | start stays => exact ⟨stays, atStart⟩
  | redirected _ _ stays ih => exact ⟨stays, ih.2⟩
  | @round site _ ih =>
      obtain ⟨later, run, stays, parts, renew, joined⟩ :=
        round_renews DrawStream.deliversFrom_unit site ih.1
      rw [run]
      exact ⟨stays, joined ▸ kept ih.2 renew⟩

end Reach

end Growth

/-! ## One chimney -/

namespace House

/-- A finished house that was never divided upwards, as every storey was. -/
structure IsChimney {K : Type} (shape : Shape K) : Prop where
  kind_eq : shape.kind = .house
  finished : shape.status = .finished
  undivided : shape.divisions.y = 0

/-- The width of a chimney on a roof. -/
noncomputable def chimneyWidth (roof : Shape ℝ) : ℝ :=
  0.2 * min roof.extents.x roof.extents.z

/-- How a chimney stands on a roof. -/
structure StandsOn (roof chimney : Shape ℝ) : Prop where
  isRoof : roof.kind = .roof ∧ roof.status = .finished
  isChimney : IsChimney chimney
  square : chimney.extents.x = chimneyWidth roof ∧ chimney.extents.z = chimneyWidth roof
  aside : |chimney.position.x - roof.position.x| ∈
    Set.Ico (0.75 * chimneyWidth roof) (1.5 * chimneyWidth roof)
  along : |chimney.position.z - roof.position.z| ∈
    Set.Ico (0.75 * chimneyWidth roof) (1.5 * chimneyWidth roof)
  within : chimney.ground ⊆ roof.ground
  /-- The edges of the roof stay free. -/
  inside : ∀ point ∈ chimney.ground, roof.Surrounds point

/-- A roof as it is put on a house that is not turned. -/
structure IsRoofPart (roof : Shape ℝ) : Prop where
  kind_eq : roof.kind = .roof
  depth_eq : roof.depth = 4
  level : roof.StandsLevel
  right : roof.rotation.y = 0 ∨ roof.rotation.y = 90

theorem IsRoofPart.finish {roof : Shape ℝ} (part : IsRoofPart roof) :
    IsRoofPart roof.finish :=
  { kind_eq := part.kind_eq
    depth_eq := part.depth_eq
    level := part.level.congr rfl rfl
    right := part.right }

theorem IsRoofPart.chimneyWidth_pos {roof : Shape ℝ} (part : IsRoofPart roof) :
    0 < chimneyWidth roof := by
  have shorter := lt_min part.level.width_pos part.level.length_pos
  rw [chimneyWidth]
  positivity

/-- What is no wider than a chimney, turned as the roof and less than one and a half times
the width of a chimney off its middle has room on the roof. -/
theorem IsRoofPart.surrounds {roof chimney : Shape ℝ} (part : IsRoofPart roof)
    (rotation : roof.rotation = chimney.rotation)
    (square : chimney.extents.x = chimneyWidth roof ∧
      chimney.extents.z = chimneyWidth roof)
    (near : |chimney.position.x - roof.position.x| < 1.5 * chimneyWidth roof ∧
      |chimney.position.z - roof.position.z| < 1.5 * chimneyWidth roof) :
    ∀ point ∈ chimney.ground, roof.Surrounds point := by
  have positive := part.chimneyWidth_pos
  have level : chimney.StandsLevel :=
    { pitch_eq := rotation ▸ part.level.pitch_eq
      roll_eq := rotation ▸ part.level.roll_eq
      width_pos := square.1 ▸ positive
      length_pos := square.2 ▸ positive }
  intro point isUnder
  rw [level.mem_ground_iff, square.1, square.2] at isUnder
  obtain ⟨asideMiddle, aheadMiddle⟩ := Shape.aside_ahead_of_right part.right
    ⟨chimney.position.x, chimney.position.z⟩ near
  obtain ⟨aside, ahead⟩ := Shape.aside_ahead_of_rotation rotation point
  have room : 1.5 * chimneyWidth roof + chimneyWidth roof / 2 ≤
      min roof.extents.x roof.extents.z / 2 := by
    rw [chimneyWidth] at positive ⊢
    linarith
  have roomAside := min_le_left roof.extents.x roof.extents.z
  have roomAhead := min_le_right roof.extents.x roof.extents.z
  constructor
  · rw [aside]
    refine (abs_add_le _ _).trans_lt ?_
    linarith [isUnder.1]
  · rw [ahead]
    refine (abs_add_le _ _).trans_lt ?_
    linarith [isUnder.2]

section Chimney

variable {D : Type} [ExactScalar D] [Narrowing D ℝ]
  (narrows : ∀ draw ∈ Set.Ico (0 : D) 1, (Narrowing.narrow draw : ℝ) ∈ Set.Ico 0 1)

include narrows

theorem abs_shiftOf {far : D} (fraction : far ∈ Set.Ico 0 1) (sided : D) :
    |(shiftOf far sided : ℝ)| ∈ Set.Ico 0.75 1.5 := by
  obtain ⟨nonneg, below⟩ := narrows far fraction
  have sign : |(if 0.5 < sided then 1.0 else -1.0 : ℝ)| = 1 := by
    split <;> norm_num
  rw [shiftOf, abs_mul, sign, mul_one, abs_of_nonneg (by linarith)]
  constructor <;> linarith

/-- A chimney has room on its roof. -/
theorem IsRoofPart.standsOn_chimney {roof : Shape ℝ} (part : IsRoofPart roof)
    (paint : D) {far sided further side : D} (aside : far ∈ Set.Ico 0 1)
    (along : further ∈ Set.Ico 0 1) :
    StandsOn roof.finish
      (chimney roof.finish paint (shiftOf far sided) (shiftOf further side)) := by
  have positive := part.chimneyWidth_pos
  have width : Scalar.least roof.extents.x roof.extents.z * 0.2 = chimneyWidth roof := by
    rw [ExactScalar.least_eq, mul_comm, chimneyWidth]
  have off : ∀ (middle : ℝ) {shift : ℝ}, |shift| ∈ Set.Ico 0.75 1.5 →
      |middle + Scalar.least roof.extents.x roof.extents.z * 0.2 * shift - middle| ∈
        Set.Ico (0.75 * chimneyWidth roof) (1.5 * chimneyWidth roof) := by
    rintro middle shift ⟨atLeast, below⟩
    rw [width, add_sub_cancel_left, abs_mul, abs_of_pos positive, mul_comm (chimneyWidth roof)]
    exact ⟨mul_le_mul_of_nonneg_right atLeast positive.le,
      mul_lt_mul_of_pos_right below positive⟩
  have offAside := off roof.position.x (abs_shiftOf narrows aside sided)
  have offAlong := off roof.position.z (abs_shiftOf narrows along side)
  let built : Shape ℝ := chimney roof.finish paint (shiftOf far sided) (shiftOf further side)
  have inside : ∀ point ∈ built.ground, roof.finish.Surrounds point :=
    part.finish.surrounds rfl ⟨width, width⟩ ⟨offAside.2, offAlong.2⟩
  exact
    { isRoof := ⟨part.kind_eq, rfl⟩
      isChimney := ⟨rfl, rfl, rfl⟩
      square := ⟨width, width⟩
      aside := offAside
      along := offAlong
      within := fun point isUnder =>
        part.finish.level.mem_ground_of_surrounds (inside point isUnder)
      inside := inside }

end Chimney

/-! ## What a house is made of -/

/-- A part of a house that is not turned, before any roof is put on it.  It is not finished
before it was divided upwards. -/
structure IsBodyPart (shape : Shape ℝ) : Prop where
  kind_eq : shape.kind = .house
  level : shape.StandsLevel
  straight : shape.rotation.y = 0
  risen : 3 < shape.depth → 0 < shape.divisions.y
  late : shape.status = .finished → 3 < shape.depth

/-- What there is in a house besides chimneys. -/
inductive IsPart (shape : Shape ℝ) : Prop where
  | body (body : IsBodyPart shape)
  | roof (roof : IsRoofPart shape)
  | column (isColumn : shape.kind = .column)

theorem IsPart.not_isChimney {shape : Shape ℝ} (part : IsPart shape) :
    ¬ IsChimney shape := by
  intro isChimney
  cases part with
  | body body =>
      have risen := body.risen (body.late isChimney.finished)
      rw [isChimney.undivided] at risen
      exact Nat.lt_irrefl 0 risen
  | roof roof => simpa [roof.kind_eq] using isChimney.kind_eq
  | column isColumn => simpa [isColumn] using isChimney.kind_eq

namespace IsBodyPart

variable {shape : Shape ℝ} (body : IsBodyPart shape)

include body

/-- A piece of a part is a part, if it was divided upwards or is not due to be. -/
theorem piece (active : shape.status = .active) {axis : Axis} {count : Nat}
    (positive : 0 < count) (number : Nat) (early : axis = .y ∨ shape.depth < 3) :
    IsBodyPart (shape.piece axis count number) := by
  have rotation := shape.rotation_piece axis count number
  have extent : ∀ other, 0 < shape.extents.along other →
      0 < (shape.piece axis count number).extents.along other := by
    intro other solid
    rw [Shape.extents_piece]
    split
    · exact div_pos solid (Nat.cast_pos.mpr positive)
    · exact solid
  constructor
  · rw [Shape.kind_piece, body.kind_eq]
  · exact
      { pitch_eq := rotation ▸ body.level.pitch_eq
        roll_eq := rotation ▸ body.level.roll_eq
        width_pos := extent .x body.level.width_pos
        length_pos := extent .z body.level.length_pos }
  · rw [rotation, body.straight]
  · intro deep
    rw [Shape.depth_piece] at deep
    rw [Shape.divisions_piece]
    rcases early with rfl | shallow
    · exact Nat.succ_pos shape.divisions.y
    · omega
  · simp [active]

theorem pieces (active : shape.status = .active) {axis : Axis} {count : Nat}
    (positive : 0 < count) (early : axis = .y ∨ shape.depth < 3) :
    ∀ piece ∈ shape.pieces axis count, IsPart piece := by
  rw [Shape.pieces, List.forall_mem_map]
  exact fun number _ => .body (body.piece active positive number early)

/-- A roof that is put in the place of a part is turned by a right angle or not at all. -/
theorem roofOver (turned : Bool) : IsRoofPart (House.roofOver turned shape) := by
  cases turned with
  | false =>
      exact
        { kind_eq := rfl
          depth_eq := rfl
          level := body.level.congr rfl rfl
          right := Or.inl body.straight }
  | true =>
      exact
        { kind_eq := rfl
          depth_eq := rfl
          level :=
            { pitch_eq := body.level.pitch_eq
              roll_eq := body.level.roll_eq
              width_pos := body.level.length_pos
              length_pos := body.level.width_pos }
          right := Or.inr (show (90.0 : ℝ) = 90 by norm_num) }

/-- A part that goes deeper stays a part. -/
theorem advance {depth : Nat} {status : Status} {facade : Facade}
    (deep : 3 < depth → 3 < shape.depth) (late : status = .finished → 3 < depth) :
    IsBodyPart { shape with
      depth := depth
      status := status
      facade := facade } :=
  { kind_eq := body.kind_eq
    level := body.level.congr rfl rfl
    straight := body.straight
    risen := fun isDeep => body.risen (deep isDeep)
    late := late }

end IsBodyPart

/-- What is decided for a part, and whether it is taken out, changes nothing. -/
theorem IsPart.redecided {shape : Shape ℝ} (part : IsPart shape) {status : Status}
    {fate : Fate} (unfinished : status = .finished → shape.status = .finished) :
    IsPart { shape with
      status := status
      fate := fate } := by
  cases part with
  | body body =>
      exact .body
        { kind_eq := body.kind_eq
          level := body.level.congr rfl rfl
          straight := body.straight
          risen := body.risen
          late := fun finished => body.late (unfinished finished) }
  | roof roof =>
      exact .roof
        { kind_eq := roof.kind_eq
          depth_eq := roof.depth_eq
          level := roof.level.congr rfl rfl
          right := roof.right }
  | column isColumn => exact .column isColumn

/-- A part becomes parts. -/
theorem IsBodyPart.forall_of_becomes {D : Type} [Scalar D] {allowed : D → Prop}
    {shape : Shape ℝ} (body : IsBodyPart shape) (active : shape.status = .active)
    {parts : List (Shape ℝ)} (becomes : Becomes allowed shape parts) :
    ∀ part ∈ parts, IsPart part := by
  cases becomes with
  | @strips isGround axis level draw _ =>
      have several := PieceRange.standard.least_le_pieces axis draw
      exact body.pieces active (Nat.zero_lt_of_lt several) (Or.inr (by omega))
  | @cells isStrip draw _ =>
      have several := PieceRange.standard.least_le_pieces (crossAxis shape) draw
      exact body.pieces active (Nat.zero_lt_of_lt several) (Or.inr (by omega))
  | trimmed =>
      rw [List.forall_mem_singleton]
      exact (IsPart.body body).redecided nofun
  | spared isCell =>
      rw [List.forall_mem_singleton]
      exact .body (body.advance (by omega) (by simp [active]))
  | stacked isCell plan =>
      have floors : ∀ number, IsBodyPart (plan.floor shape number) := fun number =>
        body.piece active (Nat.zero_lt_of_lt plan.roofAt_lt) number (Or.inl rfl)
      apply plan.forall_mem_stack
      · exact fun number => .body (floors number)
      · exact .roof ((floors plan.roofAt).roofOver plan.turned)
      · exact fun _ _ part => part.redecided id
      · exact fun _ part => part.redecided nofun
  | fated isStorey decided =>
      rw [List.forall_mem_singleton, Shape.meetFate]
      have deeper : IsBodyPart shape.deepen := body.advance (by omega) (by simp [active])
      cases fate : shape.deepen.fate with
      | keep => exact absurd fate decided
      | column => exact .column rfl
      | removed => exact (IsPart.body deeper).redecided nofun
  | faced isStorey =>
      rw [List.forall_mem_singleton]
      exact .body (body.advance (by omega) fun _ => show 3 < shape.depth + 1 by omega)
  | finished isDone =>
      rw [List.forall_mem_singleton]
      exact .body (body.advance id fun _ => by omega)

/-! ## Sequences -/

/-- A sequence of parts in which every chimney stands directly behind its roof. -/
inductive IsArranged : List (Shape ℝ) → Prop where
  | nil : IsArranged []
  | part {shape : Shape ℝ} {shapes : List (Shape ℝ)} (part : IsPart shape)
      (rest : IsArranged shapes) : IsArranged (shape :: shapes)
  | crowned {roof chimney : Shape ℝ} {shapes : List (Shape ℝ)}
      (stands : StandsOn roof chimney) (rest : IsArranged shapes) :
      IsArranged (roof :: chimney :: shapes)

namespace IsArranged

theorem of_forall {shapes : List (Shape ℝ)} (parts : ∀ shape ∈ shapes, IsPart shape) :
    IsArranged shapes := by
  induction shapes with
  | nil => exact .nil
  | cons shape shapes ih =>
      rw [List.forall_mem_cons] at parts
      exact .part parts.1 (ih parts.2)

variable {shapes : List (Shape ℝ)} (arranged : IsArranged shapes)

include arranged

theorem append {others : List (Shape ℝ)} (further : IsArranged others) :
    IsArranged (shapes ++ others) := by
  induction arranged with
  | nil => exact further
  | part part _ ih => exact .part part ih
  | crowned stands _ ih => exact .crowned stands ih

/-- Roofs without a chimney are roofs of the house; those with one are finished. -/
theorem isRoofPart {roof : Shape ℝ} (isMember : roof ∈ shapes) (isRoof : roof.kind = .roof)
    (active : roof.status = .active) : IsRoofPart roof := by
  induction arranged with
  | nil => exact absurd isMember List.not_mem_nil
  | @part shape _ part _ ih =>
      rcases List.mem_cons.mp isMember with rfl | isLater
      · cases part with
        | body body => simp [body.kind_eq] at isRoof
        | roof roof => exact roof
        | column isColumn => simp [isColumn] at isRoof
      · exact ih isLater
  | @crowned first chimney _ stands _ ih =>
      rcases List.mem_cons.mp isMember with rfl | isLater
      · simp [stands.isRoof.2] at active
      · rcases List.mem_cons.mp isLater with rfl | isLast
        · simp [stands.isChimney.finished] at active
        · exact ih isLast

theorem exists_roof {place : Nat} {chimney : Shape ℝ}
    (isPlace : shapes[place]? = some chimney) (isChimney : IsChimney chimney) :
    ∃ before roof, place = before + 1 ∧ shapes[before]? = some roof ∧
      StandsOn roof chimney := by
  induction arranged generalizing place with
  | nil => simp at isPlace
  | @part shape _ part _ ih =>
      cases place with
      | zero =>
          obtain rfl : shape = chimney := by simpa using isPlace
          exact absurd isChimney part.not_isChimney
      | succ place =>
          obtain ⟨before, roof, rfl, isRoof, stands⟩ := ih isPlace
          exact ⟨before + 1, roof, rfl, isRoof, stands⟩
  | @crowned first second _ stands _ ih =>
      match place with
      | 0 =>
          obtain rfl : first = chimney := by simpa using isPlace
          have isHouse := isChimney.kind_eq
          simp [stands.isRoof.1] at isHouse
      | 1 =>
          obtain rfl : second = chimney := by simpa using isPlace
          exact ⟨0, first, rfl, rfl, stands⟩
      | place + 2 =>
          obtain ⟨before, roof, rfl, isRoof, standsOn⟩ := ih isPlace
          exact ⟨before + 2, roof, rfl, isRoof, standsOn⟩

end IsArranged

section Rounds

variable {D : Type} [ExactScalar D] [Narrowing D ℝ]
  (narrows : ∀ draw ∈ Set.Ico (0 : D) 1, (Narrowing.narrow draw : ℝ) ∈ Set.Ico 0 1)

include narrows

/-- What a part becomes is arranged. -/
theorem IsPart.isArranged_of_renews {shape : Shape ℝ} (part : IsPart shape)
    {parts : List (Shape ℝ)} (renews : shape.Renews (· ∈ Set.Ico (0 : D) 1) parts) :
    IsArranged parts := by
  cases renews with
  | rests => exact .part part .nil
  | grows expands becomes =>
      cases part with
      | body body =>
          rw [body.kind_eq] at becomes
          exact .of_forall (body.forall_of_becomes (Shape.status_of_expands expands) becomes)
      | roof roof =>
          rw [roof.kind_eq] at becomes
          cases becomes with
          | finished => exact .part (.roof roof.finish) .nil
          | crowned _ _ aside along =>
              exact .crowned (roof.standsOn_chimney narrows _ aside.1 along.1) .nil
      | column isColumn =>
          rw [isColumn] at becomes
          exact becomes.elim

/-- A round keeps a sequence arranged. -/
theorem IsArranged.flatten_of_renews {shapes : List (Shape ℝ)} (arranged : IsArranged shapes)
    {parts : List (List (Shape ℝ))}
    (renew : List.Forall₂ (Shape.Renews (· ∈ Set.Ico (0 : D) 1)) shapes parts) :
    IsArranged parts.flatten := by
  induction arranged generalizing parts with
  | nil =>
      cases renew
      exact .nil
  | part part _ ih =>
      obtain ⟨block, others, renews, further, rfl⟩ := List.forall₂_cons_left_iff.mp renew
      exact (part.isArranged_of_renews narrows renews).append (ih further)
  | crowned stands _ ih =>
      obtain ⟨ofRoof, _, roofRenews, rest, rfl⟩ := List.forall₂_cons_left_iff.mp renew
      obtain ⟨ofChimney, others, chimneyRenews, further, rfl⟩ :=
        List.forall₂_cons_left_iff.mp rest
      have roofRests := roofRenews.eq_self
        (Shape.not_expands_of_settled (by simp [Shape.isSettled, stands.isRoof.2]))
      have chimneyRests := chimneyRenews.eq_self
        (Shape.not_expands_of_settled (by simp [Shape.isSettled, stands.isChimney.finished]))
      rw [roofRests, chimneyRests]
      exact .crowned stands (ih further)

/-- All that is reached from unturned houses is arranged. -/
theorem isArranged_of_reached {start site : Site D ℝ}
    (houses : ∀ house ∈ start.massing.shapes, house.IsFresh D ∧ house.kind = .house ∧
      house.rotation = Vec3.zero ∧ ∀ axis, 0 < house.extents.along axis)
    (reached : Growth.ReachesInUnit start site) : IsArranged site.massing.shapes := by
  have parts : ∀ house ∈ start.massing.shapes, IsPart house := by
    intro house isHouse
    obtain ⟨fresh, kind, straight, positive⟩ := houses house isHouse
    have new := fresh.isNew
    have upright : house.rotation = ⟨0, 0, 0⟩ := by
      rw [straight, Vec3.zero]
      norm_num
    exact .body
      { kind_eq := kind
        level :=
          { pitch_eq := congrArg Vec3.x upright
            roll_eq := congrArg Vec3.z upright
            width_pos := positive .x
            length_pos := positive .z }
        straight := congrArg Vec3.y upright
        risen := by simp [new.depth_eq]
        late := by simp [new.status_eq] }
  exact (reached.of_renewed (.of_forall parts) fun arranged renew =>
    arranged.flatten_of_renews narrows renew).2

end Rounds

/-- Growth from fresh houses that are not turned puts chimneys on their roofs.  A roof that
expands takes no value if the value drawn for it is three tenths or more; otherwise it takes
five, of which the first is for the colour of its only chimney.  The roof and the chimney
are both finished.  The chimney is as long as wide, a fifth of the shorter side of the roof,
stands off the middle of the roof by three quarters to one and a half times that width along
both axes, and lies strictly within the ground of the roof.  In every sequence that is
reached, each chimney stands directly behind its roof. -/
theorem chimneys_stand_on_roofs {D : Type} [ExactScalar D] [Narrowing D ℝ]
    (narrows : ∀ draw ∈ Set.Ico (0 : D) 1, (Narrowing.narrow draw : ℝ) ∈ Set.Ico 0 1)
    {start site : Site D ℝ}
    (houses : ∀ house ∈ start.massing.shapes, house.IsFresh D ∧ house.kind = .house ∧
      house.rotation = Vec3.zero ∧ ∀ axis, 0 < house.extents.along axis)
    (reached : Growth.ReachesInUnit start site) :
    (∀ roof ∈ site.massing.shapes, roof.kind = .roof → roof.expands = true →
      ∀ (draw : D) (stream : DrawStream D), stream.StaysInUnit →
        (0.3 ≤ draw → runFrom stream (roof.expand draw) = (.ok [roof.finish], stream)) ∧
        (draw < 0.3 → ∃ chimney, runFrom stream (roof.expand draw) =
            (.ok [roof.finish, chimney], stream.after 5) ∧
          chimney.color = Shape.houseColor stream.value ∧
          StandsOn roof.finish chimney)) ∧
    ∀ place chimney, site.massing.shapes[place]? = some chimney → IsChimney chimney →
      ∃ before roof, place = before + 1 ∧ site.massing.shapes[before]? = some roof ∧
        StandsOn roof chimney := by
  have arranged := isArranged_of_reached narrows houses reached
  constructor
  · intro roof isMember isRoof expands draw stream stays
    have part := arranged.isRoofPart isMember isRoof (Shape.status_of_expands expands)
    rw [expand_roof isRoof (Shape.isSettled_of_expands expands) part.depth_eq,
      runFrom_finishRoof]
    constructor
    · intro plain
      rw [if_pos plain]
    · intro crowned
      rw [if_neg (not_le_of_gt crowned)]
      have fractions : ∀ count, (stream.after count).value ∈ Set.Ico 0 1 := fun count =>
        (Drawn.fits_after DrawStream.deliversFrom_unit stays count).value
      exact ⟨_, rfl, rfl, part.standsOn_chimney narrows stream.value (fractions 1)
        (fractions 3)⟩
  · exact fun _ _ isPlace isChimney => arranged.exists_roof isPlace isChimney

/-- A house of four cells, each of which is given a roof with a chimney. -/
theorem chimneys_of_four_cells :
    let stream : DrawStream ℚ :=
      DrawStream.start
        (fun count => if (6 ≤ count ∧ count < 10) ∨ count = 12 then 3 / 4 else 1 / 10)
        .stochastic 0
    let house : Shape ℝ := ((Shape.house Vec3.zero Vec3.zero ⟨8, 6, 5⟩).run stream).1
    let start : Site ℚ ℝ :=
      { massing := Massing.ofShapes [house] none
        stream := stream }
    let next := fun site : Site ℚ ℝ => (runFrom site Growth.round).2
    let roofed := next (next (next (next start)))
    (∀ draw ∈ Set.Ico (0 : ℚ) 1, (Narrowing.narrow draw : ℝ) ∈ Set.Ico 0 1) ∧
    (∀ house ∈ start.massing.shapes, house.IsFresh ℚ ∧ house.kind = .house ∧
      house.rotation = Vec3.zero ∧ ∀ axis, 0 < house.extents.along axis) ∧
    Growth.ReachesInUnit start roofed ∧ stream.StaysInUnit ∧
    (∃ roof ∈ roofed.massing.shapes, roof.kind = .roof ∧ roof.expands = true ∧
      runFrom stream (roof.expand (3 / 10)) = (.ok [roof.finish], stream) ∧
      ∃ chimney, runFrom stream (roof.expand (1 / 10)) =
        (.ok [roof.finish, chimney], stream.after 5) ∧ StandsOn roof.finish chimney) ∧
    ∃ roof chimney, (next roofed).massing.shapes[1]? = some roof ∧
      (next roofed).massing.shapes[2]? = some chimney ∧ IsChimney chimney ∧
      StandsOn roof chimney := by
  intro stream house start next roofed
  have narrows : ∀ draw ∈ Set.Ico (0 : ℚ) 1, (Narrowing.narrow draw : ℝ) ∈ Set.Ico 0 1 :=
    fun draw fraction => ⟨Rat.cast_nonneg.mpr fraction.1,
      show (draw : ℝ) < 1 by exact_mod_cast fraction.2⟩
  have houses : ∀ house ∈ start.massing.shapes, house.IsFresh ℚ ∧ house.kind = .house ∧
      house.rotation = Vec3.zero ∧ ∀ axis, 0 < house.extents.along axis := by
    intro shape isShape
    rw [List.mem_singleton.mp isShape]
    refine ⟨.house _ _ _ stream, rfl, rfl, ?_⟩
    rintro (_ | _ | _)
    · exact (show (0 : ℝ) < 8 by norm_num)
    · exact (show (0 : ℝ) < 6 by norm_num)
    · exact (show (0 : ℝ) < 5 by norm_num)
  have stays : stream.StaysInUnit := by
    intro count
    change (if _ then (3 / 4 : ℚ) else 1 / 10) ∈ _
    split <;> norm_num
  have reached : Growth.ReachesInUnit start roofed :=
    .round (.round (.round (.round (.start stays))))
  have crowned : Growth.ReachesInUnit start (next roofed) := .round reached
  have roofPresent : ∃ roof ∈ roofed.massing.shapes, roof.kind = .roof ∧
      roof.expands = true := by
    decide +kernel
  obtain ⟨roof, isMember, isRoof, expands⟩ := roofPresent
  have becomes := (chimneys_stand_on_roofs narrows houses reached).1 roof isMember isRoof
    expands
  have plain := (becomes (3 / 10) stream stays).1 (by decide +kernel)
  obtain ⟨chimney, run, -, stands⟩ := (becomes (1 / 10) stream stays).2 (by decide +kernel)
  refine ⟨narrows, houses, reached, stays,
    ⟨roof, isMember, isRoof, expands, plain, chimney, run, stands⟩, ?_⟩
  have kinds : ((next roofed).massing.shapes[2]?.map fun shape =>
      (shape.kind, shape.status, shape.divisions.y)) = some (.house, .finished, 0) := by
    decide +kernel
  obtain ⟨second, isSecond, isChimney⟩ := Option.map_eq_some_iff.mp kinds
  simp only [Prod.mk.injEq] at isChimney
  have chimneyPresent : IsChimney second := ⟨isChimney.1, isChimney.2.1, isChimney.2.2⟩
  obtain ⟨before, first, isBefore, isFirst, standsOn⟩ :=
    (chimneys_stand_on_roofs narrows houses crowned).2 2 second isSecond chimneyPresent
  obtain rfl : before = 1 := by omega
  exact ⟨first, second, isFirst, isSecond, chimneyPresent, standsOn⟩

end House

end GrowthGrammar
