import GrowthGrammar.Proofs.Plant.Nesting

/-!
# The strokes of the tree

All that is drawn of the tree is drawn in strokes of three kinds: a piece of wood, a
tip, and a fruit.  Tips and fruits are drawn in their own colour and go back to that of
wood.  Each part is drawn in as many strokes of each kind as its tally says, and takes
as many random values, whatever these values are.  Only for the fruits of a long branch
the values decide, and then the tally bounds their number.
-/

namespace GrowthGrammar

/-- Whether the request places a mesh of the host. -/
def Call.isDecoration {K : Type} : Call K → Bool
  | .decoration .. => true
  | _ => false

namespace MonkeyPuzzle

/-! ## Strokes -/

/-- What is drawn in one go. -/
inductive Stroke where
  | wood (frame : Transform Float32) (prism : Prism Float32)
  | tip (frame : Transform Float32) (prism : Prism Float32)
  | fruit (frame : Transform Float32)

namespace Stroke

/-- The requests of a stroke.  A piece of wood is drawn in the colour that is set. -/
def calls (palette : Palette) : Stroke → List (Call Float32)
  | wood frame prism => [.prism frame prism false]
  | tip frame prism =>
      [.color palette.leaf, .prism frame prism false, .color palette.wood]
  | fruit frame =>
      [.color palette.fruit, .decoration fruitMesh frame, .color palette.wood]

def isWood : Stroke → Bool
  | wood .. => true
  | _ => false

def isTip : Stroke → Bool
  | tip .. => true
  | _ => false

def isFruit : Stroke → Bool
  | fruit .. => true
  | _ => false

end Stroke

/-- How many random values are taken, and how many strokes of each kind are drawn. -/
structure Tally where
  draws : Nat := 0
  wood : Nat := 0
  tips : Nat := 0
  /-- The number of fruits that are hung in any case. -/
  fruits : Nat := 0
  /-- The number of fruits that may be hung besides. -/
  chances : Nat := 0
deriving DecidableEq

namespace Tally

instance : Zero Tally where
  zero := {}

instance : Add Tally where
  add first second :=
    { draws := first.draws + second.draws
      wood := first.wood + second.wood
      tips := first.tips + second.tips
      fruits := first.fruits + second.fruits
      chances := first.chances + second.chances }

theorem add_eq (first second : Tally) :
    first + second =
      { draws := first.draws + second.draws
        wood := first.wood + second.wood
        tips := first.tips + second.tips
        fruits := first.fruits + second.fruits
        chances := first.chances + second.chances } :=
  rfl

/-- Whether strokes are as many of each kind as a tally says. -/
structure Fits (tally : Tally) (strokes : List Stroke) : Prop where
  wood_eq : strokes.countP Stroke.isWood = tally.wood
  tips_eq : strokes.countP Stroke.isTip = tally.tips
  fruits_ge : tally.fruits ≤ strokes.countP Stroke.isFruit
  fruits_le : strokes.countP Stroke.isFruit ≤ tally.fruits + tally.chances

/-- Strokes with as many fruits as there are in any case fit if the others do. -/
theorem fits_of_eq {tally : Tally} {strokes : List Stroke}
    (wood : strokes.countP Stroke.isWood = tally.wood)
    (tips : strokes.countP Stroke.isTip = tally.tips)
    (fruits : strokes.countP Stroke.isFruit = tally.fruits) : tally.Fits strokes :=
  ⟨wood, tips, Nat.le_of_eq fruits.symm, fruits ▸ Nat.le_add_right _ _⟩

theorem fits_nil : Fits 0 [] :=
  fits_of_eq rfl rfl rfl

theorem Fits.append {first second : Tally} {strokes others : List Stroke}
    (fits : first.Fits strokes) (restFits : second.Fits others) :
    (first + second).Fits (strokes ++ others) := by
  constructor <;> simp only [add_eq, List.countP_append]
  · rw [fits.wood_eq, restFits.wood_eq]
  · rw [fits.tips_eq, restFits.tips_eq]
  · exact Nat.add_le_add fits.fruits_ge restFits.fruits_ge
  · have := fits.fruits_le
    have := restFits.fruits_le
    omega

end Tally

/-! ## Programs that keep to a tally -/

section

variable {α β : Type} {palette : Palette} {tally : Tally}

/-- Whether a drawing has taken the random values and drawn the strokes of a tally. -/
structure Amounts (palette : Palette) (tally : Tally) (stream : DrawStream Float)
    (outcome : Outcome α) : Prop where
  stream_eq : outcome.stream = stream.after tally.draws
  exists_strokes : ∃ strokes, tally.Fits strokes ∧
    outcome.calls = strokes.flatMap (Stroke.calls palette)

/-- Whether a program that comes to its end amounts to a tally. -/
def KeepsTo (palette : Palette) (tally : Tally) (program : Program α) : Prop :=
  ∀ turtles stream value,
    (program.outcome turtles stream).result = .ok value →
      Amounts palette tally stream (program.outcome turtles stream)

theorem keepsTo_done (value : α) : KeepsTo palette 0 (.done value) :=
  fun _ _ _ _ => ⟨rfl, [], Tally.fits_nil, rfl⟩

theorem KeepsTo.bind {rest : Tally} {program : Program α} {f : α → Program β}
    (keeps : KeepsTo palette tally program)
    (restKeeps : ∀ value, KeepsTo palette rest (f value)) :
    KeepsTo palette (tally + rest) (program.bind f) := by
  intro turtles stream final ends
  rw [Program.outcome_bind] at ends ⊢
  obtain ⟨value, first, last⟩ := (Outcome.result_andThen_eq_ok_iff _ _ _).mp ends
  obtain ⟨streamIs, strokes, fits, calls⟩ := keeps _ _ _ first
  obtain ⟨restStream, others, restFits, restCalls⟩ := restKeeps value _ _ _ last
  rw [Outcome.andThen_of_ok first]
  refine ⟨?_, strokes ++ others, fits.append restFits, ?_⟩
  · rw [restStream, streamIs, DrawStream.after_after]
    rfl
  · rw [calls, restCalls, List.flatMap_append]

theorem KeepsTo.times {action : Action} {settings : Settings}
    (keeps : KeepsTo palette tally (action settings)) (count : Nat) :
    KeepsTo palette (List.replicate count tally).sum
      (Act.times count action settings) := by
  induction count with
  | zero => exact keepsTo_done ()
  | succ count ih =>
      rw [List.replicate_succ, List.sum_cons]
      exact keeps.bind fun _ => ih

end

/-! ## Parts -/

/-- What a part amounts to. -/
def Part.tally : Part → Tally
  | trunk | short | middle => { wood := 1 }
  | twistForth | twistBack => { wood := 1 }
  | xForth | xBack | yForth | yBack => { wood := 1 }
  | upright => { wood := 3 }
  | fruit => { fruits := 1 }
  | level | anywhere => { draws := 2 }
  | long => { draws := 6, wood := 5, chances := 5 }
  | tip => { tips := 1 }
  | opening | closing | bend | twistStart | leaderStart | whorl => {}

theorem keepsTo_placeFruit (settings : Settings) :
    KeepsTo settings.palette { fruits := 1 } (placeFruit settings) :=
  fun _ _ _ _ => ⟨rfl, [.fruit _], Tally.fits_of_eq rfl rfl rfl, rfl⟩

theorem keepsTo_branchPiece (length : Float32) (settings : Settings) :
    KeepsTo settings.palette { draws := 1, wood := 1, chances := 1 }
      (branchPiece length settings) := by
  intro turtles stream value ends
  have piece : ∃ frame prism active,
      (branchPiece length settings).outcome turtles stream =
        (((if stream.value < 0.15 then placeFruit else pure ()) settings).outcome
          { turtles with active := active } stream.advance).afterCall
            (.prism frame prism false) :=
    ⟨_, _, _, rfl⟩
  obtain ⟨frame, prism, active, piece⟩ := piece
  rw [piece]
  split
  · exact ⟨rfl, [.wood frame prism, .fruit _],
      ⟨rfl, rfl, Nat.zero_le 1, Nat.le_refl 1⟩, rfl⟩
  · exact ⟨rfl, [.wood frame prism], Tally.fits_of_eq rfl rfl rfl, rfl⟩

theorem keepsTo_longBranch (settings : Settings) :
    KeepsTo settings.palette { draws := 6, wood := 5, chances := 5 }
      (longBranch settings) := by
  intro turtles stream value ends
  -- The first value is for the length, and each of the five pieces takes another.
  have pieces := (keepsTo_branchPiece
    (1.4 + Narrowing.narrow stream.value * 0.2) settings).times 5
  obtain ⟨streamIs, strokes, fits, calls⟩ := pieces _ stream.advance value ends
  exact ⟨streamIs, strokes,
    ⟨fits.wood_eq, fits.tips_eq, fits.fruits_ge, fits.fruits_le⟩, calls⟩

/-- Each part amounts to its tally. -/
theorem Part.keepsTo_action (part : Part) (settings : Settings) :
    KeepsTo settings.palette part.tally (part.action settings) := by
  cases part with
  | opening =>
      intro turtles stream value ends
      simp only [action, Act.save, Program.outcome] at ends ⊢
      cases saving : turtles.save with
      | error error => simp [saving] at ends
      | ok deeper => exact ⟨rfl, [], Tally.fits_nil, rfl⟩
  | closing =>
      intro turtles stream value ends
      simp only [action, Act.restore, Program.outcome] at ends ⊢
      cases restoring : turtles.restore with
      | error error => simp [restoring] at ends
      | ok shallower => exact ⟨rfl, [], Tally.fits_nil, rfl⟩
  | trunk | short | middle | twistForth | twistBack | xForth | xBack | yForth | yBack =>
      exact fun _ _ _ _ => ⟨rfl, [.wood _ _], Tally.fits_of_eq rfl rfl rfl, rfl⟩
  | bend | twistStart | leaderStart | whorl | level | anywhere =>
      exact fun _ _ _ _ => ⟨rfl, [], Tally.fits_of_eq rfl rfl rfl, rfl⟩
  | upright =>
      exact fun _ _ _ _ => ⟨rfl, [.wood _ _, .wood _ _, .wood _ _],
        Tally.fits_of_eq rfl rfl rfl, rfl⟩
  | fruit => exact keepsTo_placeFruit settings
  | long => exact keepsTo_longBranch settings
  | tip =>
      exact fun _ _ _ _ => ⟨rfl, [.tip _ _], Tally.fits_of_eq rfl rfl rfl, rfl⟩

/-! ## Sentences -/

/-- A part with the strokes in which it was drawn. -/
structure Piece where
  part : Part
  strokes : List Stroke
  fits : part.tally.Fits strokes

namespace Piece

def calls (palette : Palette) (piece : Piece) : List (Call Float32) :=
  piece.strokes.flatMap (Stroke.calls palette)

/-- The requests of a piece, each with its letter. -/
def requests (palette : Palette) (piece : Piece) : List (Letter × Call Float32) :=
  (piece.calls palette).map (Prod.mk piece.part.letter)

end Piece

/-- What a row of parts amounts to. -/
def tallyOf (parts : List Part) : Tally :=
  (parts.map Part.tally).sum

/-- A letter that can be drawn stands for a part. -/
theorem IsTree.exists_part_of_drawn {spawn : Float} {derivation : Derivation}
    (tree : IsTree spawn derivation.alphabet) {letter : Letter}
    {turtles : BranchStack} {stream : DrawStream Float}
    (drawn : ((derivation.programOf letter).outcome turtles stream).result =
      .ok ()) :
    ∃ part : Part, part.letter = letter := by
  rw [Derivation.programOf] at drawn
  cases found : derivation.alphabet.find letter with
  | error error => simp [found, Program.outcome] at drawn
  | ok symbol =>
      obtain ⟨part, isLetter, _⟩ := tree.exists_part_of_find found
      exact ⟨part, isLetter⟩

/-- A sentence that is drawn to its end is drawn in pieces, and takes as many random
values as its parts. -/
theorem IsTree.exists_pieces {spawn : Float} {derivation : Derivation}
    (tree : IsTree spawn derivation.alphabet) {sentence : List Letter}
    {turtles : BranchStack} {stream : DrawStream Float}
    (drawn : (derivation.outcome sentence turtles stream).result = .ok ()) :
    ∃ pieces : List Piece,
      sentence = letters (pieces.map Piece.part) ∧
        derivation.attributed sentence turtles stream =
          pieces.flatMap (Piece.requests derivation.settings.palette) ∧
        (derivation.outcome sentence turtles stream).stream =
          stream.after (tallyOf (pieces.map Piece.part)).draws := by
  induction sentence generalizing turtles stream with
  | nil => exact ⟨[], rfl, rfl, rfl⟩
  | cons letter rest ih =>
      rw [Derivation.outcome_cons] at drawn ⊢
      obtain ⟨⟨⟩, first, last⟩ :=
        (Outcome.result_andThen_eq_ok_iff _ _ _).mp drawn
      obtain ⟨part, rfl⟩ := tree.exists_part_of_drawn first
      obtain ⟨pieces, rfl, requests, streamIs⟩ := ih last
      rw [Outcome.andThen_of_ok first, Derivation.attributed, first, streamIs, requests]
      rw [tree.programOf_letter] at first ⊢
      obtain ⟨firstStream, strokes, fits, calls⟩ := part.keepsTo_action _ _ _ _ first
      refine ⟨⟨part, strokes, fits⟩ :: pieces, rfl, ?_, ?_⟩
      · rw [calls]
        rfl
      · rw [firstStream, DrawStream.after_after]
        rfl

end MonkeyPuzzle

end GrowthGrammar
