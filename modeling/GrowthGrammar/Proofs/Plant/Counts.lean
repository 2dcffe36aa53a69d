import GrowthGrammar.Proofs.Plant.Strokes

/-!
# What a drawing takes and places

How many random values a drawing of the tree takes, and how many prisms it places, can
be counted off the sentence before it is drawn.  Of the fruits on long branches only
the greatest number is known.  So where a deterministic stream stands behind a drawing
does not depend on the values that it has handed out.
-/

namespace GrowthGrammar

/-- How many letters of the sentence have a name. -/
def Derivation.occurrences (derivation : Derivation) (name : String) : Nat :=
  derivation.sentence.countP fun letter =>
    derivation.alphabet.names[letter]? = some name

namespace MonkeyPuzzle

/-! ## Requests of strokes -/

theorem countP_isPrism_calls (palette : Palette) (strokes : List Stroke) :
    (strokes.flatMap (Stroke.calls palette)).countP Call.isPrism =
      strokes.countP Stroke.isWood + strokes.countP Stroke.isTip := by
  induction strokes with
  | nil => rfl
  | cons stroke strokes ih =>
      rw [List.flatMap_cons, List.countP_append, ih]
      cases stroke <;>
        simp [Stroke.calls, List.countP_cons, Call.isPrism, Stroke.isWood,
          Stroke.isTip] <;>
        omega

theorem countP_isDecoration_calls (palette : Palette) (strokes : List Stroke) :
    (strokes.flatMap (Stroke.calls palette)).countP Call.isDecoration =
      strokes.countP Stroke.isFruit := by
  induction strokes with
  | nil => rfl
  | cons stroke strokes ih =>
      rw [List.flatMap_cons, List.countP_append, ih]
      cases stroke <;>
        simp [Stroke.calls, List.countP_cons, Call.isDecoration, Stroke.isFruit]
      omega

/-- Strokes place nothing but prisms and decorations. -/
theorem countP_places_calls (palette : Palette) (strokes : List Stroke) :
    let calls := strokes.flatMap (Stroke.calls palette)
    calls.countP Call.places =
      calls.countP Call.isPrism + calls.countP Call.isDecoration := by
  induction strokes with
  | nil => rfl
  | cons stroke strokes ih =>
      simp only [List.flatMap_cons, List.countP_append] at ih ⊢
      rw [ih]
      cases stroke <;>
        simp [Stroke.calls, List.countP_cons, Call.places, Call.isPrism,
          Call.isDecoration] <;>
        omega

/-! ## Pieces -/

/-- The strokes of all pieces amount to the tally of their parts. -/
theorem fits_pieces (pieces : List Piece) :
    (tallyOf (pieces.map Piece.part)).Fits (pieces.flatMap Piece.strokes) := by
  induction pieces with
  | nil => exact Tally.fits_nil
  | cons piece pieces ih => exact piece.fits.append ih

theorem map_snd_requests (palette : Palette) (pieces : List Piece) :
    (pieces.flatMap (Piece.requests palette)).map Prod.snd =
      (pieces.flatMap Piece.strokes).flatMap (Stroke.calls palette) := by
  induction pieces with
  | nil => rfl
  | cons piece pieces ih =>
      simp [ih, Piece.requests, Piece.calls, Function.comp_def]

/-- The tally of a row of parts by the number of times that each of them stands there. -/
theorem tallyOf_eq (parts : List Part) :
    tallyOf parts =
      { draws :=
          2 * (parts.count .level + parts.count .anywhere) + 6 * parts.count .long
        wood :=
          parts.count .trunk + parts.count .short + parts.count .middle
            + parts.count .twistForth + parts.count .twistBack
            + parts.count .xForth + parts.count .xBack + parts.count .yForth
            + parts.count .yBack + 3 * parts.count .upright + 5 * parts.count .long
        tips := parts.count .tip
        fruits := parts.count .fruit
        chances := 5 * parts.count .long } := by
  induction parts with
  | nil => rfl
  | cons part parts ih =>
      have sum : tallyOf (part :: parts) = part.tally + tallyOf parts := rfl
      rw [sum, ih]
      cases part <;> simp [Part.tally, Tally.add_eq] <;> omega

/-! ## Letters -/

/-- A part stands in a sentence as often as its name. -/
theorem IsTree.occurrences_name {spawn : Float} {derivation : Derivation}
    (tree : IsTree spawn derivation.alphabet) {parts : List Part}
    (sentenceIs : derivation.sentence = letters parts) (part : Part) :
    derivation.occurrences part.name = parts.count part := by
  rw [Derivation.occurrences, sentenceIs, letters, List.countP_map, List.count]
  apply List.countP_congr
  intro other _
  simp [tree.getElem?_names, Part.name_injective.eq_iff]

/-- The tally of a sentence by the names that stand in it. -/
theorem IsTree.tallyOf_sentence {spawn : Float} {derivation : Derivation}
    (tree : IsTree spawn derivation.alphabet) {parts : List Part}
    (sentenceIs : derivation.sentence = letters parts) :
    let number := derivation.occurrences
    tallyOf parts =
      { draws := 2 * (number "(flat)" + number "(rand)") + 6 * number "(AL)"
        wood :=
          number "F" + number "(f)" + number "(ff)" + number "(T+Y)" + number "(T-Y)"
            + number "(B+x)" + number "(B-x)" + number "(B+y)" + number "(B-y)"
            + 3 * number "(vert)" + 5 * number "(AL)"
        tips := number "(AT)"
        fruits := number "(pear)"
        chances := 5 * number "(AL)" } := by
  rw [tallyOf_eq]
  simp only [← tree.occurrences_name sentenceIs]
  rfl

/-- How many random values a drawing of a sentence takes, and how many prisms it
places, is decided by the sentence.  So in deterministic mode the sentence decides how
far the stream moves on.  Every fruit in the sentence is hung, and there are at most five
others for each long branch.  All placements are prisms and fruits. -/
theorem draws_and_placements_of_drawing {settings : Settings} {young : Derivation}
    {marks : Landmarks} (planted : plant settings = .ok (young, marks))
    {session final : Session} {report : DrawingReport}
    (sameAlphabet : session.derivation.alphabet = young.alphabet)
    (drawn : runFrom session Step.drawSentence = (.ok report, final)) :
    let number := session.derivation.occurrences
    let draws := 2 * (number "(flat)" + number "(rand)") + 6 * number "(AL)"
    (final.stream = session.stream.after draws ∧
      final.stream.drawn = session.stream.drawn + draws ∧
      (session.stream.mode = .deterministic →
        final.stream.cursor = session.stream.cursor + Int64.ofNat draws)) ∧
    ∃ appended : List (Call Float32),
      final.derivation.scene.calls.toList =
          session.derivation.scene.calls.toList ++ appended ∧
        appended.countP Call.isPrism =
          number "F" + number "(f)" + number "(ff)" + number "(T+Y)" + number "(T-Y)"
            + number "(B+x)" + number "(B-x)" + number "(B+y)" + number "(B-y)"
            + 3 * number "(vert)" + 5 * number "(AL)" + number "(AT)" ∧
        number "(pear)" ≤ appended.countP Call.isDecoration ∧
        appended.countP Call.isDecoration ≤ number "(pear)" + 5 * number "(AL)" ∧
        report.placements =
          appended.countP Call.isPrism + appended.countP Call.isDecoration := by
  intro number draws
  obtain ⟨isYoung, _⟩ := isYoung_of_plant planted
  have tree := isYoung.tree
  rw [← sameAlphabet] at tree
  obtain ⟨ends, placements, streamIs, derivation⟩ :=
    Step.outcome_of_drawSentence_eq_ok drawn
  obtain ⟨pieces, sentenceIs, requests, takes⟩ := tree.exists_pieces ends
  have fits := fits_pieces pieces
  rw [tree.tallyOf_sentence sentenceIs] at takes fits
  rw [← Derivation.map_snd_attributed, requests, map_snd_requests]
    at placements derivation
  have finalStream : final.stream = session.stream.after draws := streamIs.trans takes
  constructor
  · refine ⟨finalStream, ?_, ?_⟩
    · rw [finalStream, DrawStream.drawn_after]
    · intro deterministic
      rw [finalStream, DrawStream.after_of_deterministic deterministic]
  · refine ⟨(pieces.flatMap Piece.strokes).flatMap
      (Stroke.calls session.derivation.settings.palette), ?_, ?_, ?_, ?_, ?_⟩
    · simp [derivation, Scene.extend]
    · rw [countP_isPrism_calls, fits.wood_eq, fits.tips_eq]
    · rw [countP_isDecoration_calls]
      exact fits.fruits_ge
    · rw [countP_isDecoration_calls]
      exact fits.fruits_le
    · rw [placements, countP_places_calls]

/-- A branch with its forks takes 22 values for thirteen prisms and up to six fruits. -/
theorem draws_and_placements_of_branch :
    ∃ young, plant Settings.standard = .ok (young, landmarks) ∧
      let session : Session :=
        { derivation := { young with sentence := letters Part.branch }
          stream := DrawStream.start (fun _ => 0.5) .deterministic 17
          notes := #[] }
      ∃ report final,
        runFrom session Step.drawSentence = (.ok report, final) ∧
          final.stream.cursor = 39 ∧
          14 ≤ report.placements ∧ report.placements ≤ 19 := by
  obtain ⟨alphabet, _, tree, planted⟩ := exists_plant Settings.standard
  refine ⟨_, planted, ?_⟩
  intro session
  have sessionTree : IsTree fullSpawnWeight session.derivation.alphabet := tree
  have standing : Standing 3 0 Part.branch := by
    rw [← List.append_nil Part.branch]
    exact Standing.branch rfl (Nat.le_refl 3)
  have ends := (standing.sentence_drawn sessionTree rfl
    (by decide : 3 < Settings.standard.stackLimit) session.stream).1
  have drawn := Step.runFrom_drawSentence session
  dsimp only at drawn
  rw [ends] at drawn
  obtain ⟨⟨_, _, cursor⟩, appended, _, prisms, fewest, most, placements⟩ :=
    draws_and_placements_of_drawing planted rfl drawn
  have tally := sessionTree.tallyOf_sentence
    (rfl : session.derivation.sentence = letters Part.branch)
  have branch : tallyOf Part.branch =
      { draws := 22, wood := 5, tips := 8, fruits := 1, chances := 5 } := by
    decide
  simp only [branch, Tally.mk.injEq] at tally
  obtain ⟨draws, wood, tips, fruits, chances⟩ := tally
  refine ⟨_, _, drawn, ?_, ?_, ?_⟩
  · rw [cursor rfl, ← draws]
    exact (by decide : (17 : Int64) + Int64.ofNat 22 = 39)
  · omega
  · omega

end MonkeyPuzzle

end GrowthGrammar
