import GrowthGrammar.Proofs.Massing.Renewal
import GrowthGrammar.Proofs.Shape.Policy.Block
import GrowthGrammar.Proofs.Shape.Policy.House
import GrowthGrammar.Proofs.Shape.Policy.Tower

/-!
# Growth comes to rest

A round puts in the place of every shape what its prospects allow.  So the rounds
that are left become fewer with every round, and the shapes that there can be in
the end never become more.  A shape has at most six rounds and becomes at most 320
shapes.
-/

namespace GrowthGrammar

variable {K : Type}

/-! ## Bounds for all shapes -/

namespace Shape

/-- There are no more shapes than they become. -/
theorem length_le_sum_leaves (shapes : List (Shape K)) :
    shapes.length ≤ (shapes.map leaves).sum := by
  induction shapes with
  | nil => exact Nat.le_refl 0
  | cons shape shapes ih =>
      rw [List.length_cons, List.map_cons, List.sum_cons, Nat.add_comm]
      exact Nat.add_le_add shape.leaves_pos ih

section Growth

variable {shapes : List (Shape K)} {parts : List (List (Shape K))}
  (grow : List.Forall₂ Grows shapes parts)

include grow

theorem length_le_of_grow : shapes.length ≤ parts.flatten.length := by
  induction grow with
  | nil => exact Nat.le_refl 0
  | cons grows _ ih =>
      rw [List.length_cons, List.flatten_cons, List.length_append, Nat.add_comm]
      exact Nat.add_le_add grows.present ih

theorem sum_leaves_le_of_grow :
    (parts.flatten.map leaves).sum ≤ (shapes.map leaves).sum := by
  induction grow with
  | nil => exact Nat.le_refl 0
  | cons grows _ ih =>
      rw [List.flatten_cons, List.map_append, List.sum_append, List.map_cons,
        List.sum_cons]
      exact Nat.add_le_add grows.fits ih

theorem roundsLeft_le_of_grow {left : Nat}
    (soon : ∀ shape ∈ shapes, shape.roundsLeft ≤ left) :
    ∀ piece ∈ parts.flatten, piece.roundsLeft ≤ left - 1 := by
  induction grow with
  | nil => simp
  | cons grows _ ih =>
      rw [List.forall_mem_cons] at soon
      rw [List.flatten_cons, List.forall_mem_append]
      constructor
      · intro piece isPiece
        exact Nat.le_trans (grows.roundsLeft_le piece isPiece)
          (Nat.sub_le_sub_right soon.1 1)
      · exact ih soon.2

end Growth

end Shape

namespace Massing

/-- Bounds for a sequence of shapes: a least number of them, a greatest number
that they become, and a greatest number of rounds that are left. -/
structure Bounded (least most left : Nat) (shapes : List (Shape K)) : Prop where
  many : least ≤ shapes.length
  fits : (shapes.map Shape.leaves).sum ≤ most
  soon : ∀ shape ∈ shapes, shape.roundsLeft ≤ left

/-- The bounds of the kinds hold for all shapes. -/
theorem bounded_start (shapes : List (Shape K)) :
    Bounded shapes.length (320 * shapes.length) 6 shapes := by
  constructor
  · exact Nat.le_refl _
  · rw [Nat.mul_comm]
    apply Shape.sum_leaves_le (Nat.le_refl _)
    intro shape _
    exact Nat.le_trans shape.leaves_le_leaves (shape.kind.leaves_bounds _).2
  · intro shape _
    exact Nat.le_trans shape.roundsLeft_le_rounds (shape.kind.rounds_bounds _).2

namespace Bounded

variable {least most left : Nat} {shapes : List (Shape K)}

theorem weaken (bounded : Bounded least most left shapes) {longer : Nat}
    (within : left ≤ longer) : Bounded least most longer shapes := by
  constructor
  · exact bounded.many
  · exact bounded.fits
  · intro shape isShape
    exact Nat.le_trans (bounded.soon shape isShape) within

theorem length_le (bounded : Bounded least most left shapes) :
    shapes.length ≤ most :=
  Nat.le_trans (Shape.length_le_sum_leaves shapes) bounded.fits

/-- What shapes become within their prospects has the same bounds, and one round
less. -/
theorem flatten (bounded : Bounded least most left shapes)
    {parts : List (List (Shape K))}
    (grow : List.Forall₂ Shape.Grows shapes parts) :
    Bounded least most (left - 1) parts.flatten := by
  constructor
  · exact Nat.le_trans bounded.many (Shape.length_le_of_grow grow)
  · exact Nat.le_trans (Shape.sum_leaves_le_of_grow grow) bounded.fits
  · exact Shape.roundsLeft_le_of_grow grow bounded.soon

end Bounded

/-- A massing can grow as long as one of its shapes has a round left. -/
theorem canGrow_eq_false_iff (massing : Massing K) :
    massing.canGrow = false ↔
      ∀ shape ∈ massing.shapes, shape.roundsLeft = 0 := by
  simp [canGrow, Shape.roundsLeft_eq_zero_iff]

end Massing

variable [Scalar K] [Narrowing Float K]

/-! ## One shape -/

/-- Every shape that expands does so within its prospects. -/
theorem Shape.expand_gives {shape : Shape K} (expands : shape.expands = true)
    (draw : Float) : Drawn.Gives (shape.expand draw) shape.Grows := by
  have active := isSettled_of_expands expands
  have values := Drawn.Gives.value
  cases isKind : shape.kind with
  | tower form =>
      exact (Tower.expand_deliversFrom values isKind active draw).weaken
        fun _ becomes => becomes.grows expands isKind
  | block => exact Block.expand_gives expands isKind draw
  | house =>
      exact (House.expand_deliversFrom values isKind active draw).weaken
        fun _ becomes => becomes.grows expands isKind
  | roof =>
      exact (House.expand_roof_deliversFrom values isKind active draw).weaken
        fun _ becomes => becomes.grows expands isKind
  | spike => simp [Shape.expands, isKind] at expands
  | column => simp [Shape.expands, isKind] at expands

namespace Growth

theorem renew_gives (shape : Shape K) :
    Drawn.Gives (renew shape) shape.Grows := by
  rw [renew]
  split
  · next expands =>
      apply Drawn.Gives.value.bind
      intro draw _
      exact Shape.expand_gives expands draw
  · next rests =>
      rw [Bool.not_eq_true] at rests
      apply Drawn.Gives.pure
      exact Shape.grows_of_not_expands rests

/-! ## Rounds -/

/-- What holds between rounds: the bounds of the shapes, and a random stream that
stays below one. -/
structure Sound (least most left : Nat) (site : Site Float K) : Prop where
  bounded : Massing.Bounded least most left site.massing.shapes
  stays : site.stream.StaysBelowOne

variable {least most left : Nat} {site : Site Float K}

/-- A round succeeds and uses up one of the rounds that are left. -/
theorem round_of_sound (sound : Sound least most left site) :
    ∃ later, runFrom site round = (.ok site.massing.canGrow, later) ∧
      Sound least most (left - 1) later := by
  have gives : Drawn.Gives (site.massing.shapes.mapM renew)
      (List.Forall₂ Shape.Grows site.massing.shapes) :=
    Drawn.Gives.mapM fun shape _ => renew_gives shape
  obtain ⟨parts, stream, run, stays, grow⟩ := gives sound.stays
  have all : runFrom site.stream (expandAll site.massing.shapes) =
      (.ok parts.flatten, stream) := by
    rw [expandAll_eq, runFrom_map, run]
    rfl
  refine ⟨_, runFrom_round_of_ok all, ?_⟩
  constructor
  · exact sound.bounded.flatten grow
  · exact stays

/-- A number of rounds one after another. -/
def rounds : Nat → Growth Float K Unit
  | 0 => return ()
  | count + 1 => do
      let _ ← round
      rounds count

/-- Any number of rounds succeeds. -/
theorem rounds_of_sound (count : Nat) (sound : Sound least most left site) :
    ∃ later, runFrom site (rounds count) = (.ok (), later) ∧
      Sound least most (left - count) later := by
  induction count generalizing left site with
  | zero => exact ⟨site, rfl, sound⟩
  | succ count ih =>
      obtain ⟨next, firstRun, nextSound⟩ := round_of_sound sound
      obtain ⟨later, restRun, laterSound⟩ := ih nextSound
      refine ⟨later, ?_, ?_⟩
      · rw [rounds, runFrom_bind_of_ok firstRun, restRun]
      · rwa [Nat.add_comm count 1, ← Nat.sub_sub]

omit [Scalar K] [Narrowing Float K] in
/-- A site with no rounds left is at rest. -/
theorem Sound.canGrow_eq_false (sound : Sound least most 0 site) :
    site.massing.canGrow = false := by
  rw [Massing.canGrow_eq_false_iff]
  intro shape isShape
  exact Nat.eq_zero_of_le_zero (sound.bounded.soon shape isShape)

omit [Scalar K] [Narrowing Float K] in
/-- A site at rest has no rounds left. -/
theorem Sound.of_canGrow_eq_false (sound : Sound least most left site)
    (rests : site.massing.canGrow = false) : Sound least most 0 site := by
  rw [Massing.canGrow_eq_false_iff] at rests
  constructor
  · constructor
    · exact sound.bounded.many
    · exact sound.bounded.fits
    · intro shape isShape
      exact Nat.le_of_eq (rests shape isShape)
  · exact sound.stays

omit [Scalar K] [Narrowing Float K] in
theorem Sound.weaken (sound : Sound least most left site) {longer : Nat}
    (within : left ≤ longer) : Sound least most longer site := by
  constructor
  · exact sound.bounded.weaken within
  · exact sound.stays

/-- Rounds until nothing can grow succeed, and no more of them are productive than
were left. -/
theorem untilSettled_of_sound (limit : Nat) (sound : Sound least most left site) :
    ∃ productive later,
      runFrom site (untilSettled limit) = (.ok productive, later) ∧
        productive ≤ left ∧ productive ≤ limit ∧
          Sound least most (left - limit) later := by
  induction limit generalizing left site with
  | zero => exact ⟨0, site, rfl, Nat.zero_le left, Nat.le_refl 0, sound⟩
  | succ limit ih =>
      cases grows : site.massing.canGrow with
      | false =>
          have atRest := sound.of_canGrow_eq_false grows
          obtain ⟨later, firstRun, laterSound⟩ := round_of_sound atRest
          rw [grows] at firstRun
          refine ⟨0, later, ?_, Nat.zero_le left, Nat.zero_le _, ?_⟩
          · rw [untilSettled, runFrom_bind_of_ok firstRun]
            rfl
          · exact laterSound.weaken (Nat.zero_le _)
      | true =>
          have leftPos : 0 < left := by
            apply Nat.pos_of_ne_zero
            rintro rfl
            rw [sound.canGrow_eq_false] at grows
            contradiction
          obtain ⟨next, firstRun, nextSound⟩ := round_of_sound sound
          rw [grows] at firstRun
          obtain ⟨productive, later, restRun, withinLeft, withinLimit,
            laterSound⟩ := ih nextSound
          refine ⟨productive + 1, later, ?_, ?_, ?_, ?_⟩
          · rw [untilSettled, runFrom_bind_of_ok firstRun, if_pos rfl,
              runFrom_bind_of_ok restRun]
            rfl
          · exact Nat.le_sub_one_iff_lt leftPos |>.mp withinLeft
          · exact Nat.add_le_add_right withinLimit 1
          · rwa [Nat.add_comm limit 1, ← Nat.sub_sub]

/-- However many rounds there are, they succeed, they never lose a shape and never
make more than 320 of one, and six of them leave nothing that can grow. -/
theorem settles_within_six_rounds (site : Site Float K)
    (fractions : ∀ count,
      0.0 ≤ site.stream.ambient count ∧ site.stream.ambient count < 1.0) :
    (∀ count, ∃ later, runFrom site (rounds count) = (.ok (), later) ∧
      site.massing.shapes.length ≤ later.massing.shapes.length ∧
      later.massing.shapes.length ≤ 320 * site.massing.shapes.length ∧
      (6 ≤ count → later.massing.canGrow = false)) ∧
    (∀ limit, ∃ productive later,
      runFrom site (untilSettled limit) = (.ok productive, later) ∧
      productive ≤ 6 ∧ productive ≤ limit ∧
      site.massing.shapes.length ≤ later.massing.shapes.length ∧
      later.massing.shapes.length ≤ 320 * site.massing.shapes.length ∧
      (6 ≤ limit → later.massing.canGrow = false)) := by
  have stays : site.stream.StaysBelowOne := by
    intro count
    exact Binary64.not_one_le_of_lt (fractions count).2
  have sound : Sound site.massing.shapes.length
      (320 * site.massing.shapes.length) 6 site :=
    ⟨Massing.bounded_start _, stays⟩
  constructor
  · intro count
    obtain ⟨later, run, laterSound⟩ := rounds_of_sound count sound
    refine ⟨later, run, laterSound.bounded.many, laterSound.bounded.length_le, ?_⟩
    intro enough
    rw [Nat.sub_eq_zero_of_le enough] at laterSound
    exact laterSound.canGrow_eq_false
  · intro limit
    obtain ⟨productive, later, run, withinLeft, withinLimit, laterSound⟩ :=
      untilSettled_of_sound limit sound
    refine ⟨productive, later, run, withinLeft, withinLimit,
      laterSound.bounded.many, laterSound.bounded.length_le, ?_⟩
    intro enough
    rw [Nat.sub_eq_zero_of_le enough] at laterSound
    exact laterSound.canGrow_eq_false

/-- A block that is given the same value over and over comes to rest. -/
theorem block_settles :
    let site : Site Float Float32 :=
      { massing := Massing.ofShapes
          [Shape.block Vec3.zero Vec3.zero ⟨8.0, 8.0, 8.0⟩] none
        stream := DrawStream.start (fun _ => 0.5) .stochastic 0 }
    (∀ count,
      0.0 ≤ site.stream.ambient count ∧ site.stream.ambient count < 1.0) ∧
    ∃ productive later,
      runFrom site (untilSettled 9) = (.ok productive, later) ∧
        productive ≤ 6 ∧ later.massing.shapes.length ≤ 320 ∧
        later.massing.canGrow = false := by
  intro site
  have fractions : ∀ count,
      0.0 ≤ site.stream.ambient count ∧ site.stream.ambient count < 1.0 := by
    intro _
    change (0.0 : Float) ≤ 0.5 ∧ (0.5 : Float) < 1.0
    decide +kernel
  obtain ⟨productive, later, run, few, _, _, bounded, settled⟩ :=
    (settles_within_six_rounds site fractions).2 9
  exact ⟨fractions, productive, later, run, few, bounded, settled (by decide)⟩

end Growth

end GrowthGrammar
