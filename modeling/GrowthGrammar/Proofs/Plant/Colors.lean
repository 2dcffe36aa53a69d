import GrowthGrammar.Proofs.Plant.Failures
import GrowthGrammar.Proofs.Plant.Strokes

/-!
# The colours of the tree

A colour holds until another one is set.  Tips and fruits set their own and go back to
that of wood, so wherever a colour has been set before, wood is drawn in its own.  But
no colour is set where a drawing starts over.  So what is drawn before the first tip and
the first fruit is drawn in no colour of the palette, and a tree that grows from its own
axiom starts with a piece of its trunk.
-/

namespace GrowthGrammar

/-! ## The colour that is set -/

/-- The colour that is set behind a row of requests. -/
def colorAfter (color : Option (Vec4 Float32)) :
    List (Call Float32) → Option (Vec4 Float32)
  | [] => color
  | .color rgba :: rest => colorAfter (some rgba) rest
  | _ :: rest => colorAfter color rest

/-- The colour that was set last. -/
def lastColor (calls : List (Call Float32)) : Option (Vec4 Float32) :=
  colorAfter none calls

theorem colorAfter_append (color : Option (Vec4 Float32))
    (first second : List (Call Float32)) :
    colorAfter color (first ++ second) = colorAfter (colorAfter color first) second := by
  induction first generalizing color with
  | nil => rfl
  | cons call first ih => cases call <;> exact ih _

/-- A colour that is set is not taken back. -/
theorem colorAfter_some_ne_none (rgba : Vec4 Float32) (calls : List (Call Float32)) :
    colorAfter (some rgba) calls ≠ none := by
  induction calls generalizing rgba with
  | nil => nofun
  | cons call calls ih => cases call <;> exact ih _

/-- Whether each request is suited by the colour that is set before it. -/
def Painted (suits : Option (Vec4 Float32) → Letter × Call Float32 → Prop) :
    Option (Vec4 Float32) → List (Letter × Call Float32) → Prop
  | _, [] => True
  | color, request :: rest =>
      suits color request ∧ Painted suits (colorAfter color [request.2]) rest

namespace Painted

variable {suits : Option (Vec4 Float32) → Letter × Call Float32 → Prop}
  {color : Option (Vec4 Float32)}

theorem append {first second : List (Letter × Call Float32)}
    (painted : Painted suits color first)
    (restPainted : Painted suits (colorAfter color (first.map Prod.snd)) second) :
    Painted suits color (first ++ second) := by
  induction first generalizing color with
  | nil => exact restPainted
  | cons request first ih =>
      refine ⟨painted.1, ih painted.2 ?_⟩
      rw [← colorAfter_append]
      exact restPainted

theorem suits_of_split {before after : List (Letter × Call Float32)}
    {request : Letter × Call Float32}
    (painted : Painted suits color (before ++ request :: after)) :
    suits (colorAfter color (before.map Prod.snd)) request := by
  induction before generalizing color with
  | nil => exact painted.1
  | cons first before ih =>
      have later := ih painted.2
      rw [← colorAfter_append] at later
      exact later

end Painted

/-- Derivations with the same programs make the same requests. -/
theorem Derivation.attributed_congr {first second : Derivation}
    (same : first.programOf = second.programOf) :
    first.attributed = second.attributed := by
  funext letters turtles stream
  induction letters generalizing turtles stream with
  | nil => rfl
  | cons letter rest ih => simp only [attributed, same, ih]

namespace MonkeyPuzzle

/-! ## What is drawn in which colour -/

/-- Whether a request places the cone of a tip. -/
def isTipCone (alphabet : Alphabet) (request : Letter × Call Float32) : Bool :=
  request.2.isPrism && alphabet.names[request.1]? == some "(AT)"

/-- Whether a request places a prism of the trunk, of the leader or of a branch. -/
def isBranchPrism (alphabet : Alphabet) (request : Letter × Call Float32) : Bool :=
  request.2.isPrism && alphabet.names[request.1]? != some "(AT)"

/-- Whether a colour suits the request that follows.  Wood may also be drawn while no
colour is set. -/
structure Suits (palette : Palette) (alphabet : Alphabet)
    (color : Option (Vec4 Float32)) (request : Letter × Call Float32) : Prop where
  tip : isTipCone alphabet request = true → color = some palette.leaf
  fruit : request.2.isDecoration = true → color = some palette.fruit
  wood : isBranchPrism alphabet request = true →
    color = some palette.wood ∨ color = none
  /-- Nothing else is placed. -/
  placed : request.2.places = true →
    request.2.isPrism = true ∨ request.2.isDecoration = true

/-- Whether requests are suited by their colours wherever wood may be drawn, and leave
a colour that suits wood. -/
def KeepsColors (palette : Palette) (alphabet : Alphabet)
    (requests : List (Letter × Call Float32)) : Prop :=
  ∀ color, color = some palette.wood ∨ color = none →
    Painted (Suits palette alphabet) color requests ∧
      (colorAfter color (requests.map Prod.snd) = some palette.wood ∨
        colorAfter color (requests.map Prod.snd) = none)

section

variable {palette : Palette} {alphabet : Alphabet}

theorem KeepsColors.append {first second : List (Letter × Call Float32)}
    (keeps : KeepsColors palette alphabet first)
    (restKeeps : KeepsColors palette alphabet second) :
    KeepsColors palette alphabet (first ++ second) := by
  intro color suited
  obtain ⟨painted, next⟩ := keeps color suited
  obtain ⟨restPainted, last⟩ := restKeeps _ next
  refine ⟨painted.append restPainted, ?_⟩
  rw [List.map_append, colorAfter_append]
  exact last

theorem KeepsColors.flatMap {α : Type} {sources : List α}
    {requests : α → List (Letter × Call Float32)}
    (keeps : ∀ source ∈ sources, KeepsColors palette alphabet (requests source)) :
    KeepsColors palette alphabet (sources.flatMap requests) := by
  induction sources with
  | nil => exact fun color suited => ⟨trivial, suited⟩
  | cons source sources ih =>
      rw [List.forall_mem_cons] at keeps
      exact keeps.1.append (ih keeps.2)

theorem suits_color (color : Option (Vec4 Float32)) (letter : Letter)
    (rgba : Vec4 Float32) : Suits palette alphabet color (letter, .color rgba) :=
  ⟨nofun, nofun, nofun, nofun⟩

theorem suits_fruit (letter : Letter) (mesh : Nat) (frame : Transform Float32) :
    Suits palette alphabet (some palette.fruit) (letter, .decoration mesh frame) :=
  ⟨nofun, fun _ => rfl, nofun, fun _ => Or.inr rfl⟩

variable {spawn : Float}

theorem IsTree.names_eq_tip_iff (tree : IsTree spawn alphabet) (part : Part) :
    alphabet.names[part.letter]? = some "(AT)" ↔ part = .tip := by
  rw [tree.getElem?_names, Option.some.injEq]
  exact Part.name_injective.eq_iff (b := .tip)

theorem IsTree.suits_tip (tree : IsTree spawn alphabet) (frame : Transform Float32)
    (prism : Prism Float32) :
    Suits palette alphabet (some palette.leaf)
      (Part.tip.letter, .prism frame prism false) := by
  have named := (tree.names_eq_tip_iff .tip).mpr rfl
  exact ⟨fun _ => rfl, nofun, by simp [isBranchPrism, named], fun _ => Or.inl rfl⟩

theorem IsTree.suits_wood (tree : IsTree spawn alphabet) {part : Part}
    (isWood : part ≠ .tip) {color : Option (Vec4 Float32)}
    (suited : color = some palette.wood ∨ color = none) (frame : Transform Float32)
    (prism : Prism Float32) :
    Suits palette alphabet color (part.letter, .prism frame prism false) := by
  have unnamed := mt (tree.names_eq_tip_iff part).mp isWood
  exact ⟨by simp [isTipCone, unnamed], nofun, fun _ => suited, fun _ => Or.inl rfl⟩

/-- A stroke has its colour if it is that of a tip exactly where its part is a tip. -/
theorem IsTree.keepsColors_stroke (tree : IsTree spawn alphabet) {part : Part}
    {stroke : Stroke} (kind : stroke.isTip = true ↔ part = .tip) :
    KeepsColors palette alphabet
      ((stroke.calls palette).map (Prod.mk part.letter)) := by
  intro color suited
  cases stroke with
  | wood frame prism =>
      have isWood : part ≠ .tip := fun isTip => nomatch kind.mpr isTip
      exact ⟨⟨tree.suits_wood isWood suited frame prism, trivial⟩, suited⟩
  | tip frame prism =>
      obtain rfl := kind.mp rfl
      exact ⟨⟨suits_color _ _ _, tree.suits_tip frame prism, suits_color _ _ _,
        trivial⟩, Or.inl rfl⟩
  | fruit frame =>
      exact ⟨⟨suits_color _ _ _, suits_fruit _ _ _, suits_color _ _ _, trivial⟩,
        Or.inl rfl⟩

/-- Tips are drawn in strokes of their own, and no other part is. -/
theorem Piece.isTip_iff (piece : Piece) {stroke : Stroke}
    (drawn : stroke ∈ piece.strokes) :
    stroke.isTip = true ↔ piece.part = .tip := by
  obtain ⟨part, strokes, wood, tips, fewest, most⟩ := piece
  by_cases isTip : part = .tip
  · subst isTip
    have unwooded := List.countP_eq_zero.mp wood stroke drawn
    have unfruited := List.countP_eq_zero.mp (Nat.le_zero.mp most) stroke drawn
    cases stroke with
    | tip => exact iff_of_true rfl rfl
    | wood => exact absurd rfl unwooded
    | fruit => exact absurd rfl unfruited
  · have untipped : part.tally.tips = 0 := by
      cases part <;> first | rfl | contradiction
    exact iff_of_false (List.countP_eq_zero.mp (tips.trans untipped) stroke drawn) isTip

theorem IsTree.keepsColors_pieces (tree : IsTree spawn alphabet)
    (pieces : List Piece) :
    KeepsColors palette alphabet (pieces.flatMap (Piece.requests palette)) := by
  apply KeepsColors.flatMap
  intro piece _
  rw [Piece.requests, Piece.calls, List.map_flatMap]
  apply KeepsColors.flatMap
  intro stroke drawn
  exact tree.keepsColors_stroke (piece.isTip_iff drawn)

end

/-! ## The first request -/

section

variable {palette : Palette} {alphabet : Alphabet}
  {requests : List (Letter × Call Float32)}

/-- Whether all wood is drawn in its own colour. -/
def WoodIsColored (palette : Palette) (alphabet : Alphabet)
    (requests : List (Letter × Call Float32)) : Prop :=
  ∀ before request after, requests = before ++ request :: after →
    isBranchPrism alphabet request = true →
      lastColor (before.map Prod.snd) = some palette.wood

/-- Whether wood comes first. -/
def StartsWithWood (alphabet : Alphabet)
    (requests : List (Letter × Call Float32)) : Prop :=
  ∃ first ∈ requests.head?, isBranchPrism alphabet first = true

/-- A request for which no colour is set is wood or a colour. -/
theorem Suits.color_or_wood {request : Letter × Call Float32}
    (suits : Suits palette alphabet none request) :
    isBranchPrism alphabet request = true ∨ ∃ rgba, request.2 = .color rgba := by
  obtain ⟨letter, call⟩ := request
  cases call with
  | color rgba => exact Or.inr ⟨rgba, rfl⟩
  | prism frame prism corrected =>
      by_cases named : alphabet.names[letter]? = some "(AT)"
      · have isTip :
            isTipCone alphabet (letter, .prism frame prism corrected) = true := by
          simp [isTipCone, named, Call.isPrism]
        exact nomatch suits.tip isTip
      · exact Or.inl (by simp [isBranchPrism, named, Call.isPrism])
  | plane halfExtents => exact nomatch suits.placed rfl
  | decoration mesh frame => exact nomatch suits.fruit rfl

/-- All wood is drawn in its own colour exactly if wood does not come first. -/
theorem woodIsColored_iff (painted : Painted (Suits palette alphabet) none requests) :
    WoodIsColored palette alphabet requests ↔ ¬ StartsWithWood alphabet requests := by
  constructor
  · rintro colored ⟨first, isFirst, isWood⟩
    obtain ⟨rest, rfl⟩ := List.head?_eq_some_iff.mp isFirst
    exact nomatch colored [] first rest rfl isWood
  · intro starts before request after split isWood
    rw [split] at painted starts
    rcases painted.suits_of_split.wood isWood with colored | uncolored
    · exact colored
    · cases before with
      | nil => exact absurd ⟨request, rfl, isWood⟩ starts
      | cons first before =>
          rcases painted.1.color_or_wood with firstIsWood | ⟨rgba, sets⟩
          · exact absurd ⟨first, rfl, firstIsWood⟩ starts
          · rw [List.map_cons, sets] at uncolored
            exact absurd uncolored (colorAfter_some_ne_none rgba _)

end

/-! ## Regrown trees -/

/-- A tree that is redrawn is drawn in pieces. -/
theorem IsTree.exists_pieces_of_redraw {spawn : Float} {session final : Session}
    {report : DrawingReport} (tree : IsTree spawn session.derivation.alphabet)
    (redrawn : runFrom session Step.redraw = (.ok report, final)) :
    ∃ (pieces : List Piece) (stream : DrawStream Float),
      session.derivation.sentence = letters (pieces.map Piece.part) ∧
        final.derivation.attributed final.derivation.sentence
            (BranchStack.start Turtle.root final.derivation.settings.stackLimit)
            stream =
          pieces.flatMap (Piece.requests session.derivation.settings.palette) ∧
        final.derivation.scene.calls.toList =
          (pieces.flatMap
            (Piece.requests session.derivation.settings.palette)).map Prod.snd := by
  rw [Step.runFrom_redraw] at redrawn
  obtain ⟨ends, _, _, derivation⟩ := Step.outcome_of_drawSentence_eq_ok redrawn
  have clearedTree : IsTree spawn (Step.cleared session).derivation.alphabet := tree
  obtain ⟨pieces, sentenceIs, requests, _⟩ := clearedTree.exists_pieces ends
  refine ⟨pieces, (Step.cleared session).stream, sentenceIs, ?_, ?_⟩
  · have same : final.derivation.programOf =
        (Step.cleared session).derivation.programOf := by
      rw [derivation]
      rfl
    rw [Derivation.attributed_congr same, derivation]
    exact requests
  · rw [derivation, ← Derivation.map_snd_attributed, requests]
    simp [Scene.extend, Step.cleared, Scene.empty]

/-- The lowest piece of the trunk is replaced by nothing else. -/
theorem isKept_short :
    IsKept Part.Sprouts fun _ parts => parts.head? = some .short := by
  intro _ before after first grows
  obtain ⟨rest, rfl⟩ := List.head?_eq_some_iff.mp first
  obtain ⟨shoot, others, sprouts, _, rfl⟩ := GrowsInto.cons_iff.mp grows
  rcases sprouts with replaced | ⟨_, rfl⟩
  · nomatch replaced
  · rfl

/-- Pieces that start with the lowest one of the trunk start with wood. -/
theorem IsTree.startsWithWood_of_short {spawn : Float} {alphabet : Alphabet}
    (tree : IsTree spawn alphabet) (palette : Palette) {pieces : List Piece}
    (first : (pieces.map Piece.part).head? = some .short) :
    StartsWithWood alphabet (pieces.flatMap (Piece.requests palette)) := by
  cases pieces with
  | nil => nomatch first
  | cons piece pieces =>
      have isShort : piece.part = .short := Option.some.inj first
      have untipped := mt (tree.names_eq_tip_iff piece.part).mp (by simp [isShort])
      obtain ⟨wood, _, _, most⟩ := piece.fits
      rw [isShort] at wood most
      rcases strokesAre : piece.strokes with _ | ⟨stroke, strokes⟩
      · rw [strokesAre] at wood
        nomatch wood
      · have inside : stroke ∈ piece.strokes := strokesAre ▸ List.mem_cons_self
        cases stroke with
        | wood frame prism =>
            refine ⟨(piece.part.letter, .prism frame prism false), ?_, ?_⟩
            · simp [Piece.requests, Piece.calls, strokesAre, Stroke.calls]
            · simp [isBranchPrism, untipped, Call.isPrism]
        | tip frame prism =>
            have isTip := (piece.isTip_iff inside).mp rfl
            rw [isShort] at isTip
            nomatch isTip
        | fruit frame =>
            exact absurd rfl (List.countP_eq_zero.mp (Nat.le_zero.mp most) _ inside)

/-- A regrown tree is drawn in suiting colours, and starts with wood if it has grown from
its own axiom. -/
theorem IsTree.exists_painted_of_regrow {session final : Session}
    {report : DrawingReport}
    (tree : IsTree fullSpawnWeight session.derivation.alphabet)
    (regrown : runFrom session (regrow landmarks.leaders) = (.ok report, final)) :
    ∃ stream,
      let requests := final.derivation.attributed final.derivation.sentence
        (BranchStack.start Turtle.root final.derivation.settings.stackLimit) stream
      final.derivation.scene.calls.toList = requests.map Prod.snd ∧
        Painted (Suits session.derivation.settings.palette session.derivation.alphabet)
          none requests ∧
        (session.derivation.start = letters Part.seedling →
          StartsWithWood session.derivation.alphabet requests) := by
  rw [runFrom_regrow, runFrom_bind_eq_ok_iff] at regrown
  obtain ⟨⟨⟩, ripe, growth, redrawn⟩ := regrown
  have rewoundTree : IsTree fullSpawnWeight
      (Step.rewound session).derivation.alphabet := tree
  -- A staged run has put its weights back, so that the tree is drawn by its own alphabet.
  have ripeAlphabet := alphabet_deriveTimes_of_tree rewoundTree
    session.derivation.settings.passes
  rw [growth] at ripeAlphabet
  have settings : ripe.derivation.settings = session.derivation.settings :=
    ((GrowthMode.staged landmarks.leaders).frames_of_derive growth).settings
  obtain ⟨pieces, stream, sentenceIs, requests, calls⟩ :=
    IsTree.exists_pieces_of_redraw (ripeAlphabet ▸ tree) redrawn
  rw [settings] at requests calls
  refine ⟨stream, ?_⟩
  rw [requests]
  refine ⟨calls, (tree.keepsColors_pieces pieces none (Or.inr rfl)).1, ?_⟩
  intro unedited
  -- The lowest piece of the trunk stays in its place through all passes.
  obtain ⟨parts, count, first, run⟩ := exists_run rewoundTree isKept_short
    unedited rfl session.derivation.settings.passes
  rw [run, Prod.mk.injEq] at growth
  obtain ⟨_, rfl⟩ := growth
  rw [Part.letter_injective.list_map sentenceIs] at first
  exact tree.startsWithWood_of_short _ first

/-- The tree regrows from its own axiom if the limit of saved turtles exceeds the number
of passes. -/
theorem IsTree.exists_regrow {session : Session}
    (tree : IsTree fullSpawnWeight session.derivation.alphabet)
    (unedited : session.derivation.start = letters Part.seedling)
    (room : session.derivation.settings.passes <
      session.derivation.settings.stackLimit) :
    ∃ report final,
      runFrom session (regrow landmarks.leaders) = (.ok report, final) := by
  have rewoundTree : IsTree fullSpawnWeight
      (Step.rewound session).derivation.alphabet := tree
  obtain ⟨parts, count, standing, growth⟩ := exists_run rewoundTree isKept_standing
    unedited standing_seedling session.derivation.settings.passes
  let ripe := grown (Step.rewound session) parts count
  have ripeTree : IsTree fullSpawnWeight ripe.derivation.alphabet := tree
  obtain ⟨report, final, redrawn⟩ := Step.exists_redraw_of_drawn
    (standing.sentence_drawn ripeTree rfl room (Step.cleared ripe).stream).1
  refine ⟨report, final, ?_⟩
  rw [runFrom_regrow, runFrom_bind_of_ok growth, redrawn]

/-- In a regrown tree every tip is drawn in the colour of leaves and every fruit in that
of fruit.  Wood is drawn in its own colour or while no colour is set, and the latter
happens exactly if wood comes first.  In a tree that grows from its own axiom it does. -/
theorem colors_of_regrown_tree {settings : Settings} {young : Derivation}
    {marks : Landmarks} (planted : plant settings = .ok (young, marks))
    {session final : Session} {report : DrawingReport}
    (sameAlphabet : session.derivation.alphabet = young.alphabet)
    (regrown : runFrom session (regrow marks.leaders) = (.ok report, final)) :
    let palette := session.derivation.settings.palette
    let alphabet := session.derivation.alphabet
    ∃ stream,
      let requests := final.derivation.attributed final.derivation.sentence
        (BranchStack.start Turtle.root final.derivation.settings.stackLimit) stream
      final.derivation.scene.calls.toList = requests.map Prod.snd ∧
        (∀ before request after, requests = before ++ request :: after →
          Suits palette alphabet (lastColor (before.map Prod.snd)) request) ∧
        (WoodIsColored palette alphabet requests ↔
          ¬ StartsWithWood alphabet requests) ∧
        (session.derivation.start = young.start →
          StartsWithWood alphabet requests) := by
  intro palette alphabet
  obtain ⟨isYoung, rfl⟩ := isYoung_of_plant planted
  have tree := isYoung.tree
  rw [← sameAlphabet] at tree
  obtain ⟨stream, calls, painted, starts⟩ := tree.exists_painted_of_regrow regrown
  refine ⟨stream, calls, ?_, woodIsColored_iff painted, ?_⟩
  · intro before request after split
    rw [split] at painted
    exact painted.suits_of_split
  · exact fun unedited => starts (unedited.trans isYoung.start_eq)

/-- A tree of twelve passes starts with wood for which no colour is set, and all of its
tips have the colour of leaves. -/
theorem colors_of_grown_tree :
    ∃ young, plant Settings.standard = .ok (young, landmarks) ∧
      let session : Session :=
        { derivation := young
          stream := DrawStream.start (fun _ => 0.5) .stochastic 17
          notes := #[] }
      ∃ report final stream,
        runFrom session (regrow landmarks.leaders) = (.ok report, final) ∧
          let requests := final.derivation.attributed final.derivation.sentence
            (BranchStack.start Turtle.root final.derivation.settings.stackLimit)
            stream
          StartsWithWood young.alphabet requests ∧
            ∀ before request after, requests = before ++ request :: after →
              isTipCone young.alphabet request = true →
                lastColor (before.map Prod.snd) = some Palette.standard.leaf := by
  obtain ⟨alphabet, _, tree, planted⟩ := exists_plant Settings.standard
  refine ⟨_, planted, ?_⟩
  intro session
  have sessionTree : IsTree fullSpawnWeight session.derivation.alphabet := tree
  obtain ⟨report, final, regrown⟩ := sessionTree.exists_regrow rfl
    (by decide : Settings.standard.passes < Settings.standard.stackLimit)
  have sameAlphabet : session.derivation.alphabet = alphabet := rfl
  obtain ⟨stream, _, suits, _, starts⟩ :=
    colors_of_regrown_tree planted sameAlphabet regrown
  exact ⟨report, final, stream, regrown, starts rfl,
    fun before request after split => (suits before request after split).tip⟩

/-- The young tree is drawn without a pass, and no colour is set before the lowest piece
of its trunk. -/
theorem wood_of_young_tree_has_no_color :
    ∃ young, plant Settings.standard = .ok (young, landmarks) ∧
      let session : Session :=
        { derivation :=
            { young with
              settings :=
                { Settings.standard with passes := 0, mode := .deterministic } }
          stream := DrawStream.start (fun _ => 0.5) .deterministic 0
          notes := #[] }
      ∃ report final stream,
        runFrom session (regrow landmarks.leaders) = (.ok report, final) ∧
          let requests := final.derivation.attributed final.derivation.sentence
            (BranchStack.start Turtle.root final.derivation.settings.stackLimit)
            stream
          final.derivation.scene.calls.toList = requests.map Prod.snd ∧
            ¬ WoodIsColored Palette.standard young.alphabet requests := by
  obtain ⟨alphabet, _, tree, planted⟩ := exists_plant Settings.standard
  refine ⟨_, planted, ?_⟩
  intro session
  have sessionTree : IsTree fullSpawnWeight session.derivation.alphabet := tree
  obtain ⟨report, final, regrown⟩ := sessionTree.exists_regrow rfl
    (by decide : 0 < Settings.standard.stackLimit)
  obtain ⟨stream, calls, painted, starts⟩ :=
    sessionTree.exists_painted_of_regrow regrown
  refine ⟨report, final, stream, regrown, calls, fun colored => ?_⟩
  exact (woodIsColored_iff painted).mp colored (starts rfl)

end MonkeyPuzzle

end GrowthGrammar
