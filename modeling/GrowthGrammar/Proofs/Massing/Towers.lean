import GrowthGrammar.Proofs.Float.Amounts
import GrowthGrammar.Proofs.Massing.Frames
import GrowthGrammar.Proofs.Shape.Cell

/-!
# Towers that have settled

A tower settles in three rounds.  In the first it takes its form and is divided into
floors; in the second the floors become what they are, and in the third all that is
left is finished.  Only the highest floor can be a spike, and the parts of every other
floor together are as high as the floor.
-/

namespace GrowthGrammar

namespace Tower

variable {D K : Type} [Scalar D] [Scalar K] {form : TowerForm}

/-! ## Floors and bands -/

theorem length_insetBands (bands : List (Shape K)) :
    (insetBands bands).length = bands.length := by
  fun_induction insetBands bands with
  | case1 outer inner bands ih => simp [ih]
  | case2 bands _ => rfl

theorem length_taperFloors (sides : Nat) (inset : K) (floors : List (Shape K)) :
    (taperFloors sides inset floors).length = floors.length := by
  induction floors generalizing inset with
  | nil => rfl
  | cons floor floors ih => rw [taperFloors, List.length_cons, List.length_cons, ih]

/-- However far the highest floor is set back, the others are as without it. -/
theorem exists_taperFloors_concat (sides : Nat) (inset : K) (lower : List (Shape K))
    (highest : Shape K) :
    ∃ top, taperFloors sides inset (lower ++ [highest]) =
      taperFloors sides inset lower ++ [top] := by
  induction lower generalizing inset with
  | nil => exact ⟨_, rfl⟩
  | cons floor lower ih =>
      obtain ⟨top, concat⟩ := ih (inset * 0.9)
      refine ⟨top, ?_⟩
      rw [List.cons_append, taperFloors, concat]
      rfl

/-- The sides of a tower of a form. -/
def formSides (form : TowerForm) : Nat :=
  if form.round = true then 8 else 4

theorem exists_tapered_eq (form : TowerForm) (floors : List (Shape K)) :
    ∃ inset, tapered form floors = taperFloors (formSides form) inset floors := by
  rw [tapered, formSides]
  split
  · exact ⟨0.71, rfl⟩
  · exact ⟨1.0, rfl⟩

theorem sides_of_mem_taperFloors {sides : Nat} {inset : K} {floors : List (Shape K)} :
    ∀ floor ∈ taperFloors sides inset floors, floor.sides = sides := by
  induction floors generalizing inset with
  | nil => simp [taperFloors]
  | cons floor floors ih =>
      rw [taperFloors, List.forall_mem_cons]
      exact ⟨rfl, ih⟩

/-- Of the floors of a tower only the highest can touch the top. -/
theorem exists_highest (form : TowerForm) (shape : Shape K) (others : Nat) :
    ∃ lower highest, tapered form (shape.pieces .y (others + 1)) = lower ++ [highest] ∧
      lower.length = others ∧ ∀ floor ∈ lower, floor.boundary.top = false := by
  obtain ⟨inset, isTapered⟩ := exists_tapered_eq form (shape.pieces .y (others + 1))
  let below := (List.range others).map (shape.piece .y (others + 1))
  have belowTop : ∀ floor ∈ below, floor.boundary.top = false := by
    rw [List.forall_mem_map]
    intro number inRange
    have notLast : (number == others) = false :=
      beq_false_of_ne (List.mem_range.mp inRange).ne
    have touches := shape.touches_piece .y (others + 1) number .y .max
    simpa [Face.atEnd, Boundary.touches, notLast] using touches
  obtain ⟨top, concat⟩ := exists_taperFloors_concat (formSides form) inset below
    (shape.piece .y (others + 1) others)
  refine ⟨taperFloors (formSides form) inset below, top, ?_, ?_, ?_⟩
  · rw [isTapered, Shape.pieces, List.range_succ, List.map_append]
    exact concat
  · rw [length_taperFloors, List.length_map, List.length_range]
  · exact forall_mem_taperFloors (fun _ _ _ _ holds => holds) belowTop _ inset

/-! ## Parts -/

/-- A part of a tower of a form. -/
structure IsPiece (form : TowerForm) (shape : Shape K) : Prop where
  kind_eq : shape.kind = .tower form
  sides_eq : shape.sides = formSides form

/-- A part that is not finished, at a depth. -/
structure IsPartAt (form : TowerForm) (depth : Nat) (shape : Shape K) : Prop where
  isPiece : IsPiece form shape
  status_eq : shape.status = .active
  depth_eq : shape.depth = depth

/-- How many parts a floor of a tower of a form has in the end. -/
def IsNumber (form : TowerForm) (number : Nat) : Prop :=
  if form.banded = true then 3 ≤ number ∧ number ≤ 9 ∧ number % 2 = 1 else number = 1

/-- What a floor of a tower of a form becomes in the end. -/
inductive Settles (form : TowerForm) (floor : Shape K) : List (Shape K) → Prop where
  | crowned (highest : floor.boundary.top = true) : Settles form floor [spike floor]
  | parted {group : List (Shape K)} (alike : ∀ piece ∈ group, IsPiece form piece)
      (number : IsNumber form group.length) : Settles form floor group

/-- A tower of a form that has settled. -/
structure IsSettled (form : TowerForm) (tower : Shape K) (shapes : List (Shape K)) :
    Prop where
  few : shapes.length ≤ 81
  finished : ∀ shape ∈ shapes, shape.status = .finished
  /-- The shapes are parts of the one form, but for a last one that may be a spike. -/
  crowned : ∃ body crown, shapes = body ++ crown ∧
    (∀ piece ∈ body, IsPiece form piece) ∧
    crown.length ≤ 1 ∧ ∀ shape ∈ crown, shape.kind = .spike
  /-- They fall into what the floors have become. -/
  floored : ∃ count groups, (6 ≤ count ∧ count ≤ 9) ∧
    List.Forall₂ (Settles form) (tapered form ((formed form tower).pieces .y count))
      groups ∧
    shapes = groups.flatten

omit [Scalar K] in
theorem expands_of_active {shape : Shape K} (isTower : shape.kind = .tower form)
    (active : shape.status = .active) : shape.expands = true := by
  simp [Shape.expands, Shape.isSettled, active, isTower]

theorem becomes_of_renews [Narrowing D K] {allowed : D → Prop} {shape : Shape K}
    (isTower : shape.kind = .tower form) (active : shape.status = .active)
    {parts : List (Shape K)} (renews : shape.Renews allowed parts) :
    Becomes allowed shape parts := by
  have becomes := renews.becomes (expands_of_active isTower active)
  rwa [isTower] at becomes

omit [Scalar K] in
theorem IsPartAt.expands {depth : Nat} {shape : Shape K}
    (part : IsPartAt form depth shape) : shape.expands = true :=
  expands_of_active part.isPiece.kind_eq part.status_eq

theorem IsPartAt.becomes [Narrowing D K] {allowed : D → Prop} {depth : Nat}
    {shape : Shape K} {parts : List (Shape K)} (part : IsPartAt form depth shape)
    (renews : shape.Renews allowed parts) : Becomes allowed shape parts :=
  becomes_of_renews part.isPiece.kind_eq part.status_eq renews

/-- The floors of a tower are parts of its form. -/
theorem isPartAt_tapered (form : TowerForm) {shape : Shape K} (status : shape.status = .active)
    (isWhole : shape.depth = 0) (count : Nat) :
    ∀ floor ∈ tapered form ((formed form shape).pieces .y count),
      IsPartAt form 1 floor := by
  obtain ⟨inset, isTapered⟩ :=
    exists_tapered_eq form ((formed form shape).pieces .y count)
  have pieces : ∀ floor ∈ (formed form shape).pieces .y count,
      floor.kind = .tower form ∧ floor.status = .active ∧ floor.depth = 1 := by
    rw [Shape.pieces, List.forall_mem_map]
    intro number _
    simp [formed, status, isWhole]
  have floors := forall_mem_taperFloors (fun _ _ _ _ holds => holds) pieces
    (formSides form) inset
  rw [isTapered]
  intro floor isFloor
  obtain ⟨isTower, active, depth⟩ := floors floor isFloor
  exact
    { isPiece := ⟨isTower, sides_of_mem_taperFloors floor isFloor⟩
      status_eq := active
      depth_eq := depth }

section Floor

variable {floor : Shape K} (isFloor : IsPartAt form 1 floor)

include isFloor

theorem isPartAt_insetBands (count : Nat) :
    ∀ band ∈ insetBands (floor.pieces .y count), IsPartAt form 2 band := by
  have pieces : ∀ band ∈ floor.pieces .y count, IsPartAt form 2 band := by
    rw [Shape.pieces, List.forall_mem_map]
    intro number _
    have sides : (floor.piece .y count number).sides = floor.sides := by
      rw [Shape.piece]
      split <;> rfl
    constructor
    · constructor
      · rw [Shape.kind_piece, isFloor.isPiece.kind_eq]
      · rw [sides, isFloor.isPiece.sides_eq]
    · rw [Shape.status_piece, isFloor.status_eq]
    · rw [Shape.depth_piece, isFloor.depth_eq]
  have wide : ∀ (shape : Shape K) (x z : K), IsPartAt form 2 shape →
      IsPartAt form 2 (shape.scaleAcross x z) := by
    intro shape x z part
    exact ⟨⟨part.isPiece.1, part.isPiece.2⟩, part.status_eq, part.depth_eq⟩
  exact forall_mem_insetBands wide pieces

omit [Scalar K] in
theorem isPartAt_deepen : IsPartAt form 2 floor.deepen :=
  { isPiece := ⟨isFloor.isPiece.kind_eq, isFloor.isPiece.sides_eq⟩
    status_eq := isFloor.status_eq
    depth_eq := congrArg (· + 1) isFloor.depth_eq }

/-- A floor becomes a spike, or parts that are not finished yet. -/
theorem Becomes.of_floor {allowed : D → Prop} {parts : List (Shape K)}
    (becomes : Becomes allowed floor parts) :
    (floor.boundary.top = true ∧ parts = [spike floor]) ∨
      ∀ part ∈ parts, IsPartAt form 2 part := by
  cases becomes with
  | floors isWhole =>
      rw [isFloor.depth_eq] at isWhole
      contradiction
  | crowned _ highest => exact Or.inl ⟨highest, rfl⟩
  | banded => exact Or.inr (isPartAt_insetBands isFloor _)
  | plain =>
      right
      rw [List.forall_mem_singleton]
      exact isPartAt_deepen isFloor
  | finished isDone =>
      rw [isFloor.depth_eq] at isDone
      contradiction

/-- A floor that does not become a spike has as many parts as its form asks for. -/
theorem Becomes.isNumber {parts : List (Shape K)}
    (becomes : Becomes (fun draw : Float => ¬ 1.0 ≤ draw) floor parts)
    (notCrowned : parts ≠ [spike floor]) : IsNumber form parts.length := by
  have bands : hasBands floor = form.banded := by
    rw [hasBands, isFloor.isPiece.kind_eq]
  rw [IsNumber]
  cases becomes with
  | floors isWhole =>
      rw [isFloor.depth_eq] at isWhole
      contradiction
  | crowned => exact absurd rfl notCrowned
  | @banded _ divides draw below =>
      rw [length_insetBands, Shape.length_pieces, if_pos (bands.symm.trans divides)]
      exact ⟨bandRange.least_le_pieces .y draw,
        (isFair_bandRange.pieces_bounds .y below).2,
        PieceRange.odd_pieces rfl .y draw⟩
  | plain _ stays =>
      rw [if_neg (by simp [← bands, stays])]
      rfl
  | finished isDone =>
      rw [isFloor.depth_eq] at isDone
      contradiction

end Floor

/-- A whole tower is divided into floors. -/
theorem Becomes.of_whole {allowed : D → Prop} {shape : Shape K} {parts : List (Shape K)}
    (becomes : Becomes allowed shape parts) (isWhole : shape.depth = 0) :
    ∃ form draw, allowed draw ∧
      parts = tapered form ((formed form shape).pieces .y (floorRange.pieces .y draw)) := by
  cases becomes with
  | floors _ form drawn => exact ⟨form, _, drawn, rfl⟩
  | crowned isFloor => omega
  | banded isFloor => omega
  | plain isFloor => omega
  | finished isDone => omega

/-- What lies deeper than the floors is finished. -/
theorem Becomes.of_deep {allowed : D → Prop} {shape : Shape K} {parts : List (Shape K)}
    (becomes : Becomes allowed shape parts) (deep : 1 < shape.depth) :
    parts = [shape.finish] := by
  cases becomes with
  | floors isWhole => omega
  | crowned isFloor => omega
  | banded isFloor => omega
  | plain isFloor => omega
  | finished => rfl

/-! ## Rounds -/

/-- What a floor is after the last round: all that it has become is finished. -/
def Finishes (allowed : D → Prop) (floor : Shape K) (group : List (Shape K)) : Prop :=
  ∃ parts, Becomes allowed floor parts ∧ group = parts.map Shape.finish

section Rounds

variable [Narrowing D K] {allowed : D → Prop} {count : Nat} {shape : Shape K}

theorem unfolds_deep (isPart : IsPartAt form 2 shape) {block : List (Shape K)}
    (unfolds : Growth.Unfolds (Shape.Renews allowed) (count + 1) shape block) :
    block = [shape.finish] := by
  obtain ⟨parts, blocks, renews, further, rfl⟩ := unfolds
  have deep : 1 < shape.depth := by
    rw [isPart.depth_eq]
    decide
  obtain rfl := (isPart.becomes renews).of_deep deep
  apply Growth.flatten_eq_of_rest further
  rw [List.forall_mem_singleton]
  rfl

theorem unfolds_floor (isFloor : IsPartAt form 1 shape) {group : List (Shape K)}
    (unfolds : Growth.Unfolds (Shape.Renews allowed) (count + 2) shape group) :
    Finishes allowed shape group := by
  obtain ⟨parts, blocks, renews, further, rfl⟩ := unfolds
  have becomes := isFloor.becomes renews
  refine ⟨parts, becomes, ?_⟩
  rcases becomes.of_floor isFloor with ⟨-, rfl⟩ | deep
  · apply Growth.flatten_eq_of_rest further
    rw [List.forall_mem_singleton]
    rfl
  · have known := (List.forall₂_and_left _ _).mpr ⟨deep, further⟩
    apply flatten_eq_map
    refine known.imp ?_
    rintro part block ⟨isPart, unfolds⟩
    exact unfolds_deep isPart unfolds

/-- Three rounds finish all that the floors of a tower have become. -/
theorem unfolds_tower {first : TowerForm} (isTower : shape.kind = .tower first)
    (new : shape.IsNew) {block : List (Shape K)}
    (unfolds : Growth.Unfolds (Shape.Renews allowed) (count + 3) shape block) :
    ∃ form draw groups, allowed draw ∧
      List.Forall₂ (Finishes allowed)
        (tapered form ((formed form shape).pieces .y (floorRange.pieces .y draw)))
        groups ∧
      block = groups.flatten := by
  obtain ⟨parts, groups, renews, further, rfl⟩ := unfolds
  have becomes := becomes_of_renews isTower new.status_eq renews
  obtain ⟨form, draw, drawn, rfl⟩ := becomes.of_whole new.depth_eq
  have floors := isPartAt_tapered form new.status_eq new.depth_eq
    (floorRange.pieces .y draw)
  have known := (List.forall₂_and_left _ _).mpr ⟨floors, further⟩
  refine ⟨form, draw, groups, drawn, known.imp ?_, rfl⟩
  rintro floor group ⟨isFloor, unfolds⟩
  exact unfolds_floor isFloor unfolds

/-! ### No earlier end -/

/-- A floor below the highest goes on growing for two rounds. -/
theorem exists_expands_of_floor (isFloor : IsPartAt form 1 shape)
    (belowTop : shape.boundary.top = false) (early : count < 2)
    {group : List (Shape K)}
    (unfolds : Growth.Unfolds (Shape.Renews allowed) count shape group) :
    ∃ part ∈ group, part.expands = true := by
  cases count with
  | zero =>
      rw [unfolds.eq_of_zero]
      exact ⟨shape, List.mem_singleton_self shape, isFloor.expands⟩
  | succ count =>
      obtain rfl : count = 0 := Nat.lt_one_iff.mp (Nat.lt_of_succ_lt_succ early)
      obtain ⟨parts, blocks, renews, further, joined⟩ := unfolds
      obtain ⟨part, others, rfl⟩ := List.exists_cons_of_ne_nil renews.handsDown.present
      rcases (isFloor.becomes renews).of_floor isFloor with ⟨highest, -⟩ | deep
      · rw [belowTop] at highest
        contradiction
      · have alone := flatten_eq_map id further
        rw [List.map_id] at alone
        rw [joined, alone]
        exact ⟨part, List.mem_cons_self, (deep part List.mem_cons_self).expands⟩

/-- A tower goes on growing for three rounds. -/
theorem exists_expands_of_tower {first : TowerForm} (isTower : shape.kind = .tower first)
    (new : shape.IsNew) (early : count < 3) {block : List (Shape K)}
    (unfolds : Growth.Unfolds (Shape.Renews allowed) count shape block) :
    ∃ part ∈ block, part.expands = true := by
  cases count with
  | zero =>
      rw [unfolds.eq_of_zero]
      exact ⟨shape, List.mem_singleton_self shape,
        expands_of_active isTower new.status_eq⟩
  | succ count =>
      obtain ⟨parts, groups, renews, further, joined⟩ := unfolds
      have becomes := becomes_of_renews isTower new.status_eq renews
      obtain ⟨form, draw, -, rfl⟩ := becomes.of_whole new.depth_eq
      have several := floorRange.least_le_pieces .y draw
      have floors := isPartAt_tapered form new.status_eq new.depth_eq
        (floorRange.pieces .y draw)
      obtain ⟨others, counted⟩ : ∃ others, floorRange.pieces .y draw = others + 2 :=
        Nat.exists_eq_add_of_le' (Nat.le_trans (by decide) several)
      obtain ⟨lower, highest, isTapered, length, belowTop⟩ :=
        exists_highest form (formed form shape) (others + 1)
      obtain ⟨floor, rest, rfl⟩ := List.exists_cons_of_length_eq_add_one length
      rw [counted, isTapered] at floors further
      obtain ⟨group, _, unfoldsFloor, -, rfl⟩ := List.forall₂_cons_left_iff.mp further
      obtain ⟨part, isPart, partExpands⟩ := exists_expands_of_floor
        (floors floor List.mem_cons_self) (belowTop floor List.mem_cons_self)
        (Nat.lt_of_succ_lt_succ early) unfoldsFloor
      refine ⟨part, ?_, partExpands⟩
      rw [joined, List.flatten_cons]
      exact List.mem_append_left _ isPart

end Rounds

/-! ## Towers at rest -/

section Rest

variable {floor : Shape K} {group : List (Shape K)}

omit [Scalar K] in
theorem IsPartAt.isPiece_finish {depth : Nat} {shape : Shape K}
    (isPart : IsPartAt form depth shape) : IsPiece form shape.finish :=
  ⟨isPart.isPiece.kind_eq, isPart.isPiece.sides_eq⟩

theorem Finishes.settles (isFloor : IsPartAt form 1 floor)
    (finishes : Finishes (fun draw : Float => ¬ 1.0 ≤ draw) floor group) :
    Settles form floor group := by
  obtain ⟨parts, becomes, rfl⟩ := finishes
  rcases becomes.of_floor isFloor with ⟨highest, rfl⟩ | deep
  · exact .crowned highest
  · apply Settles.parted
    · rw [List.forall_mem_map]
      exact fun part isPart => (deep part isPart).isPiece_finish
    · rw [List.length_map]
      apply becomes.isNumber isFloor
      rintro rfl
      have isSpike := (deep _ (List.mem_singleton_self _)).isPiece.kind_eq
      contradiction

theorem Settles.length_le (settles : Settles form floor group) : group.length ≤ 9 := by
  cases settles with
  | crowned =>
      rw [List.length_singleton]
      decide
  | parted _ number =>
      rw [IsNumber] at number
      split at number
      · exact number.2.1
      · omega

theorem length_flatten_le {floors : List (Shape K)} {groups : List (List (Shape K))}
    (settle : List.Forall₂ (Settles form) floors groups) :
    groups.flatten.length ≤ 9 * floors.length := by
  induction settle with
  | nil => exact Nat.zero_le _
  | cons settles _ ih =>
      rw [List.flatten_cons, List.length_append, List.length_cons, Nat.mul_succ,
        Nat.add_comm]
      exact Nat.add_le_add ih settles.length_le

/-- Below the top there is no spike. -/
theorem Settles.alike (settles : Settles form floor group)
    (belowTop : floor.boundary.top = false) : ∀ piece ∈ group, IsPiece form piece := by
  cases settles with
  | crowned highest =>
      rw [belowTop] at highest
      contradiction
  | parted alike => exact alike

theorem exists_crown {lower : List (Shape K)} {highest : Shape K}
    {groups : List (List (Shape K))}
    (belowTop : ∀ floor ∈ lower, floor.boundary.top = false)
    (settle : List.Forall₂ (Settles form) (lower ++ [highest]) groups) :
    ∃ body crown, groups.flatten = body ++ crown ∧
      (∀ piece ∈ body, IsPiece form piece) ∧
      crown.length ≤ 1 ∧ ∀ shape ∈ crown, shape.kind = .spike := by
  obtain ⟨lowerGroups, _, rfl, ofLower, ofHighest⟩ := exists_of_forall₂_append settle
  obtain ⟨group, _, ofGroup, none, rfl⟩ := List.forall₂_cons_left_iff.mp ofHighest
  cases none
  have known := (List.forall₂_and_left _ _).mpr ⟨belowTop, ofLower⟩
  have alikeBelow := forall_mem_flatten_of_forall₂ known
    fun floor => floor.2.alike floor.1
  rw [List.flatten_append, List.flatten_singleton]
  cases ofGroup with
  | crowned =>
      refine ⟨lowerGroups.flatten, [spike highest], rfl, alikeBelow,
        List.length_singleton.le, ?_⟩
      rw [List.forall_mem_singleton]
      rfl
  | parted alike =>
      refine ⟨lowerGroups.flatten ++ group, [], ?_, ?_, Nat.zero_le 1,
        List.forall_mem_nil _⟩
      · rw [List.append_nil]
      · rw [List.forall_mem_append]
        exact ⟨alikeBelow, alike⟩

/-- A tower whose floors are finished has settled. -/
theorem isSettled_of_finishes {tower : Shape K} (new : tower.IsNew) {draw : Float}
    (below : ¬ 1.0 ≤ draw) {groups : List (List (Shape K))}
    (finish : List.Forall₂ (Finishes fun draw : Float => ¬ 1.0 ≤ draw)
      (tapered form ((formed form tower).pieces .y (floorRange.pieces .y draw)))
      groups) : IsSettled form tower groups.flatten := by
  have least := floorRange.least_le_pieces .y draw
  have most := (isFair_floorRange.pieces_bounds .y below).2
  generalize floorRange.pieces .y draw = count at finish least most
  have floors := isPartAt_tapered form new.status_eq new.depth_eq count
  have known := (List.forall₂_and_left _ _).mpr ⟨floors, finish⟩
  have settle := known.imp fun _ _ floor => floor.2.settles floor.1
  obtain ⟨others, rfl⟩ : ∃ others, count = others + 1 :=
    Nat.exists_eq_add_of_le' (Nat.le_trans (by decide) least)
  obtain ⟨lower, highest, isTapered, length, belowTop⟩ :=
    exists_highest form (formed form tower) others
  constructor
  · have each := length_flatten_le settle
    rw [isTapered, List.length_append, List.length_singleton, length] at each
    exact Nat.le_trans each (Nat.mul_le_mul_left 9 most)
  · refine forall_mem_flatten_of_forall₂ finish ?_
    rintro floor _ ⟨parts, -, rfl⟩
    rw [List.forall_mem_map]
    exact fun _ _ => rfl
  · rw [isTapered] at settle
    exact exists_crown belowTop settle
  · exact ⟨others + 1, groups, ⟨least, most⟩, settle, rfl⟩

end Rest

/-! ## Heights -/

section Heights

/-- The share of a shape in the height of its tower.  A spike is twice as high as the
floor in whose place it stands. -/
def heightShare (shape : Shape K) : K :=
  match shape.kind with
  | .spike => shape.extents.y / 2.0
  | _ => shape.extents.y

variable {K : Type} [ExactScalar K] {allowed : D → Prop} {floor : Shape K}

/-- Parts of a tower that are equally high. -/
theorem sum_heightShare_of_parts {depth : Nat} {parts : List (Shape K)}
    (areParts : ∀ part ∈ parts, IsPartAt form depth part) {height : K}
    (high : ∀ part ∈ parts, part.extents.y = height) :
    ((parts.map Shape.finish).map heightShare).sum = parts.length * height := by
  have each : ∀ share ∈ (parts.map Shape.finish).map heightShare, share = height := by
    rw [List.forall_mem_map, List.forall_mem_map]
    intro part isPart
    rw [heightShare, (areParts part isPart).isPiece_finish.kind_eq]
    exact high part isPart
  rw [List.sum_eq_card_nsmul _ _ each, List.length_map, List.length_map, nsmul_eq_mul]

theorem height_piece (shape : Shape K) (count number : Nat) :
    (shape.piece .y count number).extents.y = shape.extents.y / count := by
  have extents := shape.extents_piece .y count number .y
  rwa [if_pos rfl] at extents

theorem height_of_mem_insetBands (shape : Shape K) (count : Nat) :
    ∀ band ∈ insetBands (shape.pieces .y count),
      band.extents.y = shape.extents.y / count := by
  have pieces : ∀ band ∈ shape.pieces .y count,
      band.extents.y = shape.extents.y / count := by
    rw [Shape.pieces, List.forall_mem_map]
    exact fun number _ => height_piece shape count number
  exact forall_mem_insetBands (fun _ _ _ holds => holds) pieces

/-- What a floor has become is together as high as the floor. -/
theorem Finishes.sum_heightShare (isFloor : IsPartAt form 1 floor)
    {group : List (Shape K)} (finishes : Finishes allowed floor group) :
    (group.map heightShare).sum = floor.extents.y := by
  obtain ⟨parts, becomes, rfl⟩ := finishes
  cases becomes with
  | floors isWhole =>
      rw [isFloor.depth_eq] at isWhole
      contradiction
  | crowned => simp [heightShare, spike, Shape.finish, Shape.withKind, Shape.scaleAcross]
  | @banded _ _ draw =>
      have high := height_of_mem_insetBands floor (bandRange.pieces .y draw)
      have several := bandRange.least_le_pieces .y draw
      have some : (bandRange.pieces .y draw : K) ≠ 0 :=
        Nat.cast_ne_zero.mpr (Nat.ne_of_gt (Nat.zero_lt_of_lt several))
      rw [sum_heightShare_of_parts (isPartAt_insetBands isFloor _) high,
        length_insetBands, Shape.length_pieces]
      exact mul_div_cancel₀ floor.extents.y some
  | plain =>
      rw [sum_heightShare_of_parts (List.forall_mem_singleton.mpr (isPartAt_deepen isFloor))
        (List.forall_mem_singleton.mpr rfl), List.length_singleton, Nat.cast_one, one_mul]
      rfl
  | finished isDone =>
      rw [isFloor.depth_eq] at isDone
      contradiction

/-- If every group sums up to the measure of its floor, all shapes do to that of all
floors. -/
theorem sum_flatten_of_forall₂ {share measure : Shape K → K} {floors : List (Shape K)}
    {groups : List (List (Shape K))}
    (related : List.Forall₂ (fun floor group => (group.map share).sum = measure floor)
      floors groups) :
    (groups.flatten.map share).sum = (floors.map measure).sum := by
  induction related with
  | nil => rfl
  | cons sums _ ih =>
      rw [List.flatten_cons, List.map_append, List.sum_append, sums, ih, List.map_cons,
        List.sum_cons]

/-- The floors share out the height of the tower. -/
theorem sum_heightShare_of_finishes {tower : Shape K} (new : tower.IsNew) {count : Nat}
    (positive : 0 < count) {groups : List (List (Shape K))}
    (finish : List.Forall₂ (Finishes allowed)
      (tapered form ((formed form tower).pieces .y count)) groups) :
    (groups.flatten.map heightShare).sum = tower.extents.y := by
  obtain ⟨inset, isTapered⟩ :=
    exists_tapered_eq form ((formed form tower).pieces .y count)
  have pieces : ∀ floor ∈ (formed form tower).pieces .y count,
      floor.extents.y = tower.extents.y / count := by
    rw [Shape.pieces, List.forall_mem_map]
    exact fun number _ => height_piece (formed form tower) count number
  have high := forall_mem_taperFloors (fun _ _ _ _ holds => holds) pieces
    (formSides form) inset
  have floors := isPartAt_tapered form new.status_eq new.depth_eq count
  have known := (List.forall₂_and_left _ _).mpr ⟨floors, finish⟩
  have shared := sum_flatten_of_forall₂ (known.imp fun _ _ floor =>
    floor.2.sum_heightShare floor.1)
  have equal : ∀ height ∈ (taperFloors (formSides form) inset
      ((formed form tower).pieces .y count)).map fun floor => floor.extents.y,
      height = tower.extents.y / count := by
    rw [List.forall_mem_map]
    exact high
  rw [shared, isTapered, List.sum_eq_card_nsmul _ _ equal, List.length_map,
    length_taperFloors, Shape.length_pieces, nsmul_eq_mul]
  exact mul_div_cancel₀ _ (Nat.cast_ne_zero.mpr positive.ne')

end Heights

end Tower

/-! ## Growth of one tower -/

namespace Growth

section OneTower

variable {K : Type} [Scalar K] [Narrowing Float K] {shape : Shape K}
  {site : Site Float K} (starts : StartsWith site shape)

variable {first : TowerForm} (isTower : shape.kind = .tower first)

include starts isTower

theorem isSettled_of_rounds (count : Nat) :
    ∃ form, Tower.IsSettled form shape
      (runFrom site (rounds (count + 3))).2.massing.shapes := by
  have new := starts.fresh.isNew
  obtain ⟨later, run, -, grown⟩ := starts.rounds_grown (count + 3)
  obtain ⟨form, draw, groups, below, finish, joined⟩ :=
    Tower.unfolds_tower isTower new grown
  rw [run]
  exact ⟨form, joined ▸ Tower.isSettled_of_finishes new below finish⟩

/-- A tower can grow in just three rounds. -/
theorem canGrow_tower (count : Nat) :
    (runFrom site (rounds count)).2.massing.canGrow = decide (count < 3) := by
  rcases Nat.lt_or_ge count 3 with early | late
  · obtain ⟨later, run, -, grown⟩ := starts.rounds_grown count
    rw [run, decide_eq_true early, Massing.canGrow, List.any_eq_true]
    exact Tower.exists_expands_of_tower isTower starts.fresh.isNew early grown
  · obtain ⟨further, rfl⟩ := Nat.exists_eq_add_of_le' late
    obtain ⟨form, settled⟩ := isSettled_of_rounds starts isTower further
    rw [decide_eq_false (Nat.not_lt.mpr late), Massing.canGrow, List.any_eq_false]
    intro piece isPiece
    simp [Shape.expands, Shape.isSettled, settled.finished piece isPiece]

end OneTower

theorem sum_heightShare_of_rounds {K : Type} [ExactScalar K] [Narrowing Float K]
    {tower : Shape K} {site : Site Float K} (starts : StartsWith site tower)
    {first : TowerForm} (isTower : tower.kind = .tower first) (count : Nat) :
    ((runFrom site (rounds (count + 3))).2.massing.shapes.map Tower.heightShare).sum =
      tower.extents.y := by
  obtain ⟨later, run, -, grown⟩ := starts.rounds_grown (count + 3)
  obtain ⟨form, draw, groups, -, finish, joined⟩ :=
    Tower.unfolds_tower isTower starts.fresh.isNew grown
  have several := Tower.floorRange.least_le_pieces .y draw
  rw [run]
  exact joined ▸ Tower.sum_heightShare_of_finishes starts.fresh.isNew
    (Nat.zero_lt_of_lt several) finish

/-- A fresh tower takes three productive rounds, and then it has settled, whatever its
colour, its frame and the random values are.  Where numbers are not rounded, its shapes
share out its height. -/
theorem tower_settles_in_three_rounds :
    (∀ {K : Type} [Scalar K] [Narrowing Float K] {tower : Shape K} {first : TowerForm}
      {site : Site Float K},
      StartsWith site tower → tower.kind = .tower first → ∀ limit, ∃ later,
        runFrom site (untilSettled limit) = (.ok (min 3 limit), later) ∧
        (3 ≤ limit → later.massing.canGrow = false ∧
          ∃ form, Tower.IsSettled form tower later.massing.shapes)) ∧
    ∀ {K : Type} [ExactScalar K] [Narrowing Float K] {tower : Shape K}
      {first : TowerForm} {site : Site Float K},
      StartsWith site tower → tower.kind = .tower first → ∀ limit, 3 ≤ limit →
        ((runFrom site (untilSettled limit)).2.massing.shapes.map
          Tower.heightShare).sum = tower.extents.y := by
  have enoughRounds : ∀ {limit}, 3 ≤ limit → ∃ further, min (3 + 1) limit = further + 3 :=
    fun enough => Nat.exists_eq_add_of_le' (Nat.le_min.mpr ⟨Nat.le_succ 3, enough⟩)
  constructor
  · intro K _ _ tower first site starts isTower limit
    have grows := canGrow_tower starts isTower
    refine ⟨_, untilSettled_of_canGrow starts.staysBelowOne grows limit, ?_⟩
    intro enough
    obtain ⟨further, isEnough⟩ := enoughRounds enough
    rw [isEnough, grows, decide_eq_false (Nat.not_lt.mpr (Nat.le_add_left 3 further))]
    exact ⟨rfl, isSettled_of_rounds starts isTower further⟩
  · intro K _ _ tower first site starts isTower limit enough
    have grows := canGrow_tower starts isTower
    obtain ⟨further, isEnough⟩ := enoughRounds enough
    rw [untilSettled_of_canGrow starts.staysBelowOne grows limit, isEnough]
    exact sum_heightShare_of_rounds starts isTower further

/-- Machine numbers are narrowed to the rational numbers that they are. -/
instance : Narrowing Float ℚ where
  narrow draw := Binary64.value draw.toModel.unpack

/-- A tower of height forty, with rational numbers. -/
theorem rational_tower_settles :
    let stream := DrawStream.start (fun _ => 0.5) .stochastic 0
    let tower : Shape ℚ := ((Shape.tower Vec3.zero Vec3.zero ⟨4, 40, 4⟩).run stream).1
    let site : Site Float ℚ :=
      { massing := Massing.ofShapes [tower] none
        stream := stream }
    StartsWith site tower ∧ tower.kind = .tower ⟨false, false⟩ ∧
      ∃ later, runFrom site (untilSettled 9) = (.ok 3, later) ∧
        later.massing.canGrow = false ∧
        (∃ form, Tower.IsSettled form tower later.massing.shapes) ∧
        (later.massing.shapes.map Tower.heightShare).sum = 40 := by
  intro stream tower site
  have starts : StartsWith site tower := startsWith_steady (.tower _ _ _ stream)
  obtain ⟨later, run, settled⟩ := tower_settles_in_three_rounds.1 starts rfl 9
  have sum := tower_settles_in_three_rounds.2 starts rfl 9 (by decide)
  rw [run] at sum
  obtain ⟨rest, formed⟩ := settled (by decide)
  exact ⟨starts, rfl, later, run, rest, formed, sum⟩

end Growth

end GrowthGrammar
