import GrowthGrammar.Shape.Expansion
import GrowthGrammar.Shape.Solid

/-!
# Massings

A massing is a sequence of shapes that grows from an axiom in rounds.  A round
visits the sequence in order: every shape that can expand is given one random
value and replaced by what it becomes, and all others stay.  A round that fails
leaves the sequence as it was.
-/

namespace GrowthGrammar

/-- A sequence of shapes in growth. -/
structure Massing (K : Type) where
  /-- The shapes that growth starts from. -/
  start : List (Shape K)
  shapes : List (Shape K)
  /-- The number of rounds since the start. -/
  rounds : Nat
  budget : Budget

/-- What placing a massing amounted to. -/
structure MassingReport (K : Type) where
  /-- The number of shapes. -/
  leaves : Nat
  /-- The number of shapes that are finished or taken out. -/
  settled : Nat
  removed : Nat
  /-- The number of prisms placed. -/
  placements : Nat
  /-- The volume of the placed prisms, about. -/
  volume : K
  overBudget : Bool
deriving DecidableEq

namespace Massing

variable {K : Type}

/-- The massing in which nothing has grown yet. -/
def ofShapes (shapes : List (Shape K)) (budget : Budget) : Massing K :=
  { start := shapes
    shapes := shapes
    rounds := 0
    budget := budget }

/-- Goes back to the start. -/
def reset (massing : Massing K) : Massing K :=
  { massing with
    shapes := massing.start
    rounds := 0 }

/-- Exchanges the start and goes back to it. -/
def restart (massing : Massing K) (shapes : List (Shape K)) : Massing K :=
  { massing with start := shapes }.reset

/-- Whether some shape can still expand. -/
def canGrow (massing : Massing K) : Bool :=
  massing.shapes.any Shape.expands

/-! ## Placing -/

variable [Scalar K]

/-- The report before any shape is placed. -/
def emptyReport (massing : Massing K) : MassingReport K :=
  { leaves := massing.shapes.length
    settled := 0
    removed := 0
    placements := 0
    volume := 0.0
    overBudget := false }

/-- Counts one shape; its volume may be undefined. -/
def countShape (report : MassingReport K) (shape : Shape K) :
    Option (MassingReport K) :=
  let report :=
    { report with
      settled := report.settled + if shape.isSettled then 1 else 0 }
  if shape.isRemoved then
    some { report with removed := report.removed + 1 }
  else
    shape.volume.map fun volume =>
      { report with
        placements := report.placements + 1
        volume := report.volume + volume }

/-- The report on placing all shapes, unless the cross section of one of them is
no polygon. -/
def report (massing : Massing K) : Option (MassingReport K) :=
  (massing.shapes.foldlM countShape massing.emptyReport).map fun report =>
    { report with
      overBudget := massing.budget.isExceededBy report.placements }

/-- The requests that place all shapes, in the order of the sequence. -/
def calls (massing : Massing K) : List (Call K) :=
  massing.shapes.flatMap Shape.calls

end Massing

/-- A massing and the random stream that it grows with. -/
structure Site (D K : Type) where
  massing : Massing K
  stream : DrawStream D

/-- A step of growth that may fail; it keeps what it did before it failed. -/
abbrev Growth (D K α : Type) :=
  ExceptT GrowthError (StateM (Site D K)) α

namespace Growth

variable {D K : Type} [Scalar D] [Scalar K] [Narrowing D K]

/-- Writes what one shape becomes behind what is already written. -/
def expandOnto (written : Array (Shape K)) (shape : Shape K) :
    Drawn D (Array (Shape K)) := do
  if shape.expands then
    let draw ← Drawn.value
    let pieces ← shape.expand draw
    return written ++ pieces
  else
    return written.push shape

/-- What a sequence of shapes becomes in one round. -/
def expandAll (shapes : List (Shape K)) : Drawn D (List (Shape K)) := do
  let written ← shapes.foldlM expandOnto #[]
  return written.toList

/-- One round.  Tells whether any shape could expand. -/
def round : Growth D K Bool := fun site =>
  let massing := site.massing
  match (expandAll massing.shapes).run site.stream with
  | (.error error, stream) =>
      (.error error, { massing := massing, stream := stream })
  | (.ok shapes, stream) =>
      (.ok massing.canGrow,
        { massing :=
            { massing with
              shapes := shapes
              rounds := massing.rounds + 1 }
          stream := stream })

/-- Rounds until nothing can expand, but no more than a given number.  Counts the
rounds in which some shape expanded. -/
def untilSettled : Nat → Growth D K Nat
  | 0 => return 0
  | rounds + 1 => do
      if ← round then
        let productive ← untilSettled rounds
        return productive + 1
      else
        return 0

end Growth

end GrowthGrammar
