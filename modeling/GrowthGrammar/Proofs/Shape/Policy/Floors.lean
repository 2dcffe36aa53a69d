import GrowthGrammar.Proofs.Shape.Division
import GrowthGrammar.Shape.Expansion

/-!
# What a tower becomes

A tower takes its form and is divided into floors that are set back.  Of the floors
the highest may become a spike; the others, and the highest if it stays, are divided
into bands or left as they are, as the form of the tower says.
-/

namespace GrowthGrammar.Tower

variable {D K : Type} [Scalar D] [Scalar K]

/-- The tower that has taken its form. -/
def formed (form : TowerForm) (shape : Shape K) : Shape K :=
  { shape with kind := .tower form }

/-- The floors of a tower of a form, each set back. -/
def tapered (form : TowerForm) (floors : List (Shape K)) : List (Shape K) :=
  if form.round = true then taperFloors 8 0.71 floors else taperFloors 4 1.0 floors

/-! ## Setting back -/

/-- Whatever holds of a shape of any width holds of floors that are set back. -/
theorem forall_mem_taperFloors {holds : Shape K → Prop}
    (wide : ∀ shape x z sides, holds shape →
      holds { shape.scaleAcross x z with sides := sides })
    {floors : List (Shape K)} (each : ∀ floor ∈ floors, holds floor) (sides : Nat)
    (inset : K) : ∀ floor ∈ taperFloors sides inset floors, holds floor := by
  induction floors generalizing inset with
  | nil => simp [taperFloors]
  | cons floor floors ih =>
      rw [List.forall_mem_cons] at each
      rw [taperFloors, List.forall_mem_cons]
      exact ⟨wide floor inset inset sides each.1, ih each.2 (inset * 0.9)⟩

theorem forall_mem_tapered {holds : Shape K → Prop}
    (wide : ∀ shape x z sides, holds shape →
      holds { shape.scaleAcross x z with sides := sides })
    {floors : List (Shape K)} (each : ∀ floor ∈ floors, holds floor)
    (form : TowerForm) : ∀ floor ∈ tapered form floors, holds floor := by
  rw [tapered]
  split
  · exact forall_mem_taperFloors wide each 8 0.71
  · exact forall_mem_taperFloors wide each 4 1.0

theorem forall_mem_insetBands {holds : Shape K → Prop}
    (wide : ∀ shape x z, holds shape → holds (shape.scaleAcross x z))
    {bands : List (Shape K)} (each : ∀ band ∈ bands, holds band) :
    ∀ band ∈ insetBands bands, holds band := by
  fun_induction insetBands bands with
  | case1 outer inner bands ih =>
      rw [List.forall_mem_cons, List.forall_mem_cons] at each ⊢
      obtain ⟨outerHolds, innerHolds, bandsHold⟩ := each
      exact ⟨outerHolds, wide inner 0.93 0.93 innerHolds, ih bandsHold⟩
  | case2 bands _ => exact each

/-! ## Steps -/

/-- What a tower that expands can become.  Numbers of pieces follow from allowed
values. -/
inductive Becomes (allowed : D → Prop) (shape : Shape K) : List (Shape K) → Prop where
  | floors (isWhole : shape.depth = 0) (form : TowerForm) {draw : D}
      (drawn : allowed draw) :
      Becomes allowed shape
        (tapered form ((formed form shape).pieces .y (floorRange.pieces .y draw)))
  | crowned (isFloor : shape.depth = 1) (highest : shape.boundary.top = true) :
      Becomes allowed shape [spike shape]
  | banded (isFloor : shape.depth = 1) (divides : hasBands shape = true) {draw : D}
      (drawn : allowed draw) :
      Becomes allowed shape
        (insetBands (shape.pieces .y (bandRange.pieces .y draw)))
  | plain (isFloor : shape.depth = 1) (stays : hasBands shape = false) :
      Becomes allowed shape [shape.deepen]
  | finished (isDone : 1 < shape.depth) : Becomes allowed shape [shape.finish]

variable {fits : DrawStream D → Prop} {allowed : D → Prop} {shape : Shape K}
  (values : DeliversFrom fits Drawn.value allowed)

include values

theorem divideFloors_deliversFrom (isWhole : shape.depth = 0) (draw : D) :
    DeliversFrom fits (divideFloors shape draw) (Becomes allowed shape) := by
  rw [divideFloors]
  apply values.bind
  intro banding _
  apply (Shape.divide_deliversFrom values _ .y (by decide)).bind
  rintro _ ⟨count, drawn, rfl⟩
  rw [← apply_ite pure]
  exact .pure (.floors isWhole ⟨draw < 0.5, banding < 0.7⟩ drawn)

theorem divideBands_deliversFrom (isFloor : shape.depth = 1) :
    DeliversFrom fits (divideBands shape) (Becomes allowed shape) := by
  rw [divideBands]
  split
  · next divides =>
      apply (Shape.divide_deliversFrom values shape .y (by decide)).bind
      rintro _ ⟨count, drawn, rfl⟩
      exact .pure (.banded isFloor divides drawn)
  · next stays => exact .pure (.plain isFloor (by simpa using stays))

theorem growFloor_deliversFrom (isFloor : shape.depth = 1) (draw : D) :
    DeliversFrom fits (growFloor shape draw) (Becomes allowed shape) := by
  have divided := divideBands_deliversFrom values isFloor
  rw [growFloor]
  split
  · next highest =>
      split
      · exact .pure (.crowned isFloor highest)
      · exact values.bind fun _ _ => divided
  · exact divided

/-- A tower that expands becomes one of these. -/
theorem expand_deliversFrom [Narrowing D K] {form : TowerForm}
    (isTower : shape.kind = .tower form) (active : shape.isSettled = false)
    (draw : D) :
    DeliversFrom fits (shape.expand draw) (Becomes allowed shape) := by
  rw [Shape.expand, if_neg (by simp [active]), isTower]
  dsimp only [Kind.step]
  match depth : shape.depth with
  | 0 => exact divideFloors_deliversFrom values depth draw
  | 1 => exact growFloor_deliversFrom values depth draw
  | deep + 2 => exact .pure (.finished (by omega))

end GrowthGrammar.Tower
