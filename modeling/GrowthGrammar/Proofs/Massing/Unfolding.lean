import GrowthGrammar.Proofs.Massing.Fates
import GrowthGrammar.Proofs.Shape.Expansion

/-!
# How shapes unfold

A round puts in the place of a shape what its kind makes of it.  So after some rounds a
block of shapes stands in the place of every shape of a sequence, and what such a block
can be is found by following one shape alone.
-/

namespace GrowthGrammar

section Related

variable {α β γ : Type}

/-- What is related to two joined lists is joined from two lists. -/
theorem exists_of_forall₂_append {relation : α → β → Prop} {first second : List α}
    {values : List β} (related : List.Forall₂ relation (first ++ second) values) :
    ∃ ofFirst ofSecond, values = ofFirst ++ ofSecond ∧
      List.Forall₂ relation first ofFirst ∧ List.Forall₂ relation second ofSecond := by
  refine ⟨_, _, (List.take_append_drop first.length values).symm, ?_, ?_⟩
  · exact (List.forall₂_take_append _ _ _ related.flip).flip
  · exact (List.forall₂_drop_append _ _ _ related.flip).flip

/-- Blocks that stand in the place of joined blocks make up one block for each of the
first sources. -/
theorem exists_joined_blocks {first : α → List β → Prop} {second : β → List γ → Prop}
    {sources : List α} {blocks : List (List β)} {pieces : List (List γ)}
    (related : List.Forall₂ first sources blocks)
    (further : List.Forall₂ second blocks.flatten pieces) :
    ∃ joined,
      List.Forall₂ (fun source whole => ∃ block parts, first source block ∧
        List.Forall₂ second block parts ∧ whole = parts.flatten) sources joined ∧
      pieces.flatten = joined.flatten := by
  induction related generalizing pieces with
  | nil =>
      cases further
      exact ⟨[], .nil, rfl⟩
  | @cons source block _ _ isFirst _ ih =>
      obtain ⟨parts, others, rfl, ofBlock, ofOthers⟩ := exists_of_forall₂_append further
      obtain ⟨joined, ofRest, rest⟩ := ih ofOthers
      refine ⟨parts.flatten :: joined, .cons ?_ ofRest, ?_⟩
      · exact ⟨block, parts, isFirst, ofBlock, rfl⟩
      · rw [List.flatten_append, List.flatten_cons, rest]

/-- Blocks of one value each are joined to the list of these values. -/
theorem flatten_eq_map (change : α → β) {sources : List α} {blocks : List (List β)}
    (related : List.Forall₂ (fun source block => block = [change source]) sources blocks) :
    blocks.flatten = sources.map change := by
  induction related with
  | nil => rfl
  | cons single _ ih =>
      rw [List.flatten_cons, single, ih]
      rfl

/-- Blocks of one related value each are joined to a list of related values. -/
theorem exists_related_flatten {relation : α → β → Prop} {sources : List α}
    {blocks : List (List β)}
    (related : List.Forall₂ (fun source block => ∃ value, block = [value] ∧
      relation source value) sources blocks) :
    List.Forall₂ relation sources blocks.flatten := by
  induction related with
  | nil => exact .nil
  | cons single _ ih =>
      obtain ⟨value, rfl, holds⟩ := single
      exact .cons holds ih

theorem forall_mem_of_forall₂_right {relation : α → β → Prop} {holds : β → Prop}
    {sources : List α} {values : List β}
    (related : List.Forall₂ relation sources values)
    (each : ∀ {source value}, relation source value → holds value) :
    ∀ value ∈ values, holds value := by
  induction related with
  | nil => exact List.forall_mem_nil _
  | cons first _ ih => exact List.forall_mem_cons.mpr ⟨each first, ih⟩

end Related

variable {D K : Type} [Scalar D] [Scalar K] [Narrowing D K]

/-! ## One round -/

/-- What a round can put in the place of a shape. -/
inductive Shape.Renews (allowed : D → Prop) (shape : Shape K) : List (Shape K) → Prop where
  | rests (rests : shape.expands = false) : Renews allowed shape [shape]
  | grows (expands : shape.expands = true) {parts : List (Shape K)}
      (becomes : shape.kind.Becomes allowed shape parts) : Renews allowed shape parts

section Round

variable {fits : DrawStream D → Prop} {allowed : D → Prop}

theorem Shape.Renews.becomes {shape : Shape K} {parts : List (Shape K)}
    (renews : shape.Renews allowed parts) (expands : shape.expands = true) :
    shape.kind.Becomes allowed shape parts := by
  cases renews with
  | rests rests =>
      rw [expands] at rests
      contradiction
  | grows _ becomes => exact becomes

theorem Shape.Renews.eq_self {shape : Shape K} {parts : List (Shape K)}
    (renews : shape.Renews allowed parts) (rests : shape.expands = false) :
    parts = [shape] := by
  cases renews with
  | rests _ => rfl
  | grows expands _ =>
      rw [expands] at rests
      contradiction

variable (values : DeliversFrom fits Drawn.value allowed)

include values

namespace Growth

theorem renew_deliversFrom (shape : Shape K) :
    DeliversFrom fits (renew shape) (shape.Renews allowed) := by
  rw [renew]
  split
  · next expands =>
      apply values.bind
      intro draw _
      exact (Shape.expand_deliversFrom values expands draw).weaken fun _ => .grows expands
  · next rests =>
      rw [Bool.not_eq_true] at rests
      exact .pure (.rests rests)

/-- A round succeeds and renews every shape. -/
theorem round_renews (site : Site D K) (fit : fits site.stream) :
    ∃ later, runFrom site round = (.ok site.massing.canGrow, later) ∧
      fits later.stream ∧
      ∃ parts, List.Forall₂ (Shape.Renews allowed) site.massing.shapes parts ∧
        later.massing.shapes = parts.flatten := by
  have renewed := DeliversFrom.mapM fun shape (_ : shape ∈ site.massing.shapes) =>
    renew_deliversFrom values shape
  obtain ⟨parts, stream, run, nextFits, related⟩ := renewed fit
  have all : runFrom site.stream (expandAll site.massing.shapes) =
      (.ok parts.flatten, stream) := by
    rw [expandAll_eq, runFrom_map, run]
    rfl
  exact ⟨_, runFrom_round_of_ok all, nextFits, parts, related, rfl⟩

end Growth

end Round

namespace Growth

theorem renew_ensures (shape : Shape K) :
    Ensures (renew (D := D) shape) (shape.Renews fun _ : D => True) := by
  apply Delivers.ensures
  rw [delivers_iff]
  exact renew_deliversFrom (delivers_iff.mp Drawn.delivers_value) shape

/-- What is kept whenever shapes are renewed holds of all sequences that can be
reached. -/
theorem Reaches.of_renewed {start site : Site D K} (reached : Reaches start site)
    {motive : List (Shape K) → Prop} (atStart : motive start.massing.shapes)
    (kept : ∀ {shapes parts}, motive shapes →
      List.Forall₂ (Shape.Renews fun _ : D => True) shapes parts →
        motive parts.flatten) : motive site.massing.shapes :=
  reached.of_kept atStart (fun _ shape _ => renew_ensures shape) kept

/-- What a shape hands on to all that it becomes holds of all shapes that can be
reached. -/
theorem Reaches.forall_of_renewed {start site : Site D K}
    (reached : Reaches start site) {holds : Shape K → Prop}
    (atStart : ∀ shape ∈ start.massing.shapes, holds shape)
    (handed : ∀ {shape parts}, shape.Renews (fun _ : D => True) parts →
      holds shape → ∀ part ∈ parts, holds part) :
    ∀ shape ∈ site.massing.shapes, holds shape := by
  let all (shapes : List (Shape K)) : Prop := ∀ shape ∈ shapes, holds shape
  have renewed : ∀ {shapes : List (Shape K)}, all shapes →
      ∀ shape ∈ shapes, Ensures (renew (D := D) shape) all := by
    intro shapes known shape isShape
    refine (renew_ensures shape).weaken fun parts renews => ?_
    exact handed renews (known shape isShape)
  have joined : ∀ {shapes : List (Shape K)} {parts : List (List (Shape K))},
      all shapes → List.Forall₂ (fun _ => all) shapes parts → all parts.flatten := by
    intro shapes parts _ related
    exact forall_mem_flatten_of_forall₂ related fun known => known
  exact reached.of_kept atStart renewed joined

/-! ## Some rounds -/

/-- The blocks that a number of rounds can put in the place of a shape, if a round puts
there what a relation allows. -/
def Unfolds (renews : Shape K → List (Shape K) → Prop) :
    Nat → Shape K → List (Shape K) → Prop
  | 0, shape, block => block = [shape]
  | count + 1, shape, block =>
      ∃ parts blocks, renews shape parts ∧
        List.Forall₂ (Unfolds renews count) parts blocks ∧ block = blocks.flatten

omit [Scalar K] in
theorem Unfolds.eq_of_zero {renews : Shape K → List (Shape K) → Prop} {shape : Shape K}
    {block : List (Shape K)} (unfolds : Unfolds renews 0 shape block) :
    block = [shape] :=
  unfolds

section Unfolding

variable {allowed : D → Prop} {count : Nat} {shape : Shape K} {block : List (Shape K)}

/-- Rounds leave a shape that cannot expand where it is. -/
theorem Unfolds.eq_self (unfolds : Unfolds (Shape.Renews allowed) count shape block)
    (rests : shape.expands = false) : block = [shape] := by
  induction count generalizing block with
  | zero => exact unfolds
  | succ count ih =>
      obtain ⟨parts, blocks, renews, further, rfl⟩ := unfolds
      rw [renews.eq_self rests, List.forall₂_cons_left_iff] at further
      obtain ⟨first, _, unfoldsFirst, others, rfl⟩ := further
      cases others
      rw [ih unfoldsFirst]
      rfl

theorem flatten_eq_of_rest {shapes : List (Shape K)} {blocks : List (List (Shape K))}
    (unfold : List.Forall₂ (Unfolds (Shape.Renews allowed) count) shapes blocks)
    (rest : ∀ shape ∈ shapes, shape.expands = false) : blocks.flatten = shapes := by
  have known := (List.forall₂_and_left _ _).mpr ⟨rest, unfold⟩
  have stay := flatten_eq_map id (known.imp fun _ _ shape =>
    shape.2.eq_self shape.1)
  rw [stay, List.map_id]

end Unfolding

/-! ## Runs -/

section Runs

variable {K : Type} [Scalar K] [Narrowing Float K]

theorem rounds_add (first second : Nat) :
    rounds (K := K) (first + second) = rounds first >>= fun _ => rounds second := by
  induction first with
  | zero => rw [Nat.zero_add, rounds, pure_bind]
  | succ first ih => rw [Nat.succ_add, rounds, rounds, ih, bind_assoc]

/-- What can become of one shape in a number of rounds, with values below one. -/
abbrev Grown (count : Nat) (shape : Shape K) (block : List (Shape K)) : Prop :=
  Unfolds (Shape.Renews fun draw : Float => ¬ 1.0 ≤ draw) count shape block

variable {site : Site Float K} (stays : site.stream.StaysBelowOne)

include stays

/-- Any number of rounds succeeds, and unfolds every shape. -/
theorem rounds_unfold (count : Nat) :
    ∃ later, runFrom site (rounds count) = (.ok (), later) ∧
      later.stream.StaysBelowOne ∧
      ∃ blocks, List.Forall₂ (Grown count) site.massing.shapes blocks ∧
        later.massing.shapes = blocks.flatten := by
  induction count generalizing site with
  | zero =>
      refine ⟨site, rfl, stays, site.massing.shapes.map fun shape => [shape], ?_, ?_⟩
      · rw [List.forall₂_map_right_iff]
        exact List.forall₂_same.mpr fun _ _ => rfl
      · rw [← List.flatMap_def, List.flatMap_singleton']
  | succ count ih =>
      obtain ⟨next, firstRun, nextStays, parts, renewed, joined⟩ :=
        round_renews Drawn.Gives.value site stays
      obtain ⟨later, restRun, laterStays, blocks, unfolded, laterJoined⟩ := ih nextStays
      rw [joined] at unfolded
      obtain ⟨wholes, unfoldedWholes, same⟩ := exists_joined_blocks renewed unfolded
      refine ⟨later, ?_, laterStays, wholes, unfoldedWholes, laterJoined.trans same⟩
      rw [rounds, runFrom_bind_of_ok firstRun, restRun]

/-- Once nothing can grow, rounds leave all shapes where they are. -/
theorem shapes_rounds_of_rest (rest : site.massing.canGrow = false) (count : Nat) :
    (runFrom site (rounds count)).2.massing.shapes = site.massing.shapes := by
  obtain ⟨later, run, -, blocks, unfold, joined⟩ := rounds_unfold stays count
  simp only [Massing.canGrow, List.any_eq_false, Bool.not_eq_true] at rest
  rw [run]
  exact joined.trans (flatten_eq_of_rest unfold rest)

/-- If there is growth in just the first rounds, these are the productive ones. -/
theorem untilSettled_of_canGrow {left : Nat}
    (grows : ∀ count,
      (runFrom site (rounds count)).2.massing.canGrow = decide (count < left))
    (limit : Nat) :
    runFrom site (untilSettled limit) =
      (.ok (min left limit), (runFrom site (rounds (min (left + 1) limit))).2) := by
  induction limit generalizing site left with
  | zero =>
      rw [Nat.min_zero, Nat.min_zero]
      rfl
  | succ limit ih =>
      obtain ⟨next, firstRun, nextStays, -⟩ := round_renews Drawn.Gives.value site stays
      have started : site.massing.canGrow = decide (0 < left) := grows 0
      rw [untilSettled, runFrom_bind_of_ok firstRun, Nat.succ_min_succ, rounds,
        runFrom_bind_of_ok firstRun, started]
      cases left with
      | zero => rfl
      | succ left =>
          have nextGrows : ∀ count,
              (runFrom next (rounds count)).2.massing.canGrow = decide (count < left) := by
            intro count
            have later := grows (count + 1)
            rw [rounds, runFrom_bind_of_ok firstRun] at later
            simpa using later
          rw [if_pos (by simp), runFrom_bind_of_ok (ih nextStays nextGrows),
            Nat.succ_min_succ]
          rfl

end Runs

/-! ## One shape alone -/

section Alone

variable {K : Type} [Scalar K] {site : Site Float K} {shape : Shape K}

/-- A site on which nothing but one fresh shape stands, with values in the unit
interval. -/
structure StartsWith (site : Site Float K) (shape : Shape K) : Prop where
  fresh : shape.IsFresh Float
  alone : site.massing.shapes = [shape]
  fractions : ∀ count,
    0.0 ≤ site.stream.ambient count ∧ site.stream.ambient count < 1.0

/-- Any fresh shape can grow alone, with the same value over and over. -/
theorem startsWith_steady (fresh : shape.IsFresh Float) :
    StartsWith
      { massing := Massing.ofShapes [shape] none
        stream := DrawStream.start (fun _ => 0.5) .stochastic 0 } shape := by
  constructor
  · exact fresh
  · rfl
  · intro _
    change (0.0 : Float) ≤ 0.5 ∧ (0.5 : Float) < 1.0
    decide +kernel

namespace StartsWith

variable (starts : StartsWith site shape)

include starts

theorem staysBelowOne : site.stream.StaysBelowOne :=
  fun count => Binary64.not_one_le_of_lt (starts.fractions count).2

/-- All that stands on the site after some rounds has grown from the one shape. -/
theorem rounds_grown [Narrowing Float K] (count : Nat) :
    ∃ later, runFrom site (rounds count) = (.ok (), later) ∧
      later.stream.StaysBelowOne ∧ Grown count shape later.massing.shapes := by
  obtain ⟨later, run, stays, blocks, unfolded, joined⟩ :=
    rounds_unfold starts.staysBelowOne count
  rw [starts.alone, List.forall₂_cons_left_iff] at unfolded
  obtain ⟨block, _, grown, none, rfl⟩ := unfolded
  cases none
  rw [List.flatten_singleton] at joined
  refine ⟨later, run, stays, ?_⟩
  rwa [joined]

end StartsWith

end Alone

end Growth

end GrowthGrammar
