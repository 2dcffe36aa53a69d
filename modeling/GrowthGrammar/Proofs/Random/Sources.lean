import Mathlib
import GrowthGrammar.Proofs.Random.Stream

/-!
# Sources and their histories

Random streams are constructed, drawn from, reseeded, switched to another mode and copied,
in any order.  A source is a stream together with all that was ever done to it, so that
its state can be compared with its history: every value is counted, and the cursor stands
as many places behind the last seed as values were handed out in deterministic mode since
then.  Sources do not affect one another, and from equal cursors they hand out equal
values.
-/

namespace GrowthGrammar

namespace Source

/-- What can be done to a source. -/
inductive Act where
  | draw
  | reseed (seed : Int64)
  | switch (mode : DrawMode)

/-- What is written down about a source. -/
inductive Entry (D : Type) where
  | constructed (mode : DrawMode) (seed : Int64)
  /-- A value was handed out in a mode. -/
  | handed (mode : DrawMode) (value : D)
  | reseeded (seed : Int64)
  | switched (mode : DrawMode)

end Source

/-- A random stream and its history, the latest entry first. -/
structure Source (D : Type) where
  stream : DrawStream D
  history : List (Source.Entry D)

namespace Source

variable {D : Type}

/-! ## What happens to sources -/

/-- A new source, which has handed out nothing yet. -/
def construct (ambient : Nat → D) (mode : DrawMode) (seed : Int64) : Source D :=
  { stream := DrawStream.start ambient mode seed
    history := [.constructed mode seed] }

/-- A copy has the history of its original, but the host need not give it the values that it
gives to the original. -/
def copy (source : Source D) (ambient : Nat → D) : Source D :=
  { source with stream := { source.stream with ambient := ambient } }

/-- What happens to a number of sources, which are told apart by their places in a list. -/
inductive Event (D : Type) where
  | construct (ambient : Nat → D) (mode : DrawMode) (seed : Int64)
  | act (place : Nat) (act : Act)
  | copy (place : Nat) (ambient : Nat → D)

section Happenings

variable [Scalar D]

/-- Does something to a source and writes it down. -/
def act (source : Source D) : Act → Source D
  | .draw =>
      let (value, stream) := DrawStream.next.run source.stream
      { stream := stream
        history := .handed source.stream.mode value :: source.history }
  | .reseed seed =>
      { stream := source.stream.reseed seed
        history := .reseeded seed :: source.history }
  | .switch mode =>
      { stream := source.stream.withMode mode
        history := .switched mode :: source.history }

def actAll (source : Source D) (acts : List Act) : Source D :=
  acts.foldl act source

/-- New sources and copies are put behind all others. -/
def happen (sources : List (Source D)) : Event D → List (Source D)
  | .construct ambient mode seed => sources ++ [construct ambient mode seed]
  | .act place act => sources.modify place (·.act act)
  | .copy place ambient => sources ++ (sources[place]?.map (·.copy ambient)).toList

def happenAll (sources : List (Source D)) (events : List (Event D)) :
    List (Source D) :=
  events.foldl happen sources

end Happenings

/-- What an event does to the source in a place. -/
def Event.actOn (place : Nat) : Event D → Option Act
  | .act other deed => if other = place then some deed else none
  | _ => none

/-- What is done to the source in a place. -/
def actsOn (place : Nat) (events : List (Event D)) : List Act :=
  events.filterMap (Event.actOn place)

/-! ## Histories -/

namespace Entry

/-- The seed that was set. -/
def seed? : Entry D → Option Int64
  | .constructed _ seed => some seed
  | .reseeded seed => some seed
  | _ => none

/-- The mode that was set. -/
def mode? : Entry D → Option DrawMode
  | .constructed mode _ => some mode
  | .switched mode => some mode
  | _ => none

def isHanded : Entry D → Bool
  | .handed _ _ => true
  | _ => false

/-- The value that was handed out, if it was in deterministic mode. -/
def deterministic? : Entry D → Option D
  | .handed .deterministic value => some value
  | _ => none

end Entry

/-- The mode that was set last. -/
def lastMode (history : List (Entry D)) : Option DrawMode :=
  history.findSome? Entry.mode?

/-- The seed that was set last. -/
def lastSeed (history : List (Entry D)) : Option Int64 :=
  history.findSome? Entry.seed?

/-- The number of values handed out in deterministic mode since a seed was set. -/
def countSinceSeed (history : List (Entry D)) : Nat :=
  (history.takeWhile (·.seed?.isNone)).countP (·.deterministic?.isSome)

/-- Where the cursor should stand: as many places behind the last seed as values were handed
out in deterministic mode since then, wrapping at the end of its range. -/
def expectedCursor (history : List (Entry D)) : Option Int :=
  (lastSeed history).map fun seed =>
    Int.bmod (seed.toInt + countSinceSeed history) (2 ^ 64)

/-- The values handed out in deterministic mode, the earliest first. -/
def deterministicValues (history : List (Entry D)) : List D :=
  (history.filterMap Entry.deterministic?).reverse

/-- The hashes of a number of cursors one after another. -/
def hashesFrom [Scalar D] (cursor : Int64) : Nat → List D
  | 0 => []
  | count + 1 => sineHash cursor.toInt :: hashesFrom (cursor + 1) count

/-- Whether every value was handed out in the mode that was set last, and was in
deterministic mode the hash of the cursor. -/
def ValuesFollow [Scalar D] (history : List (Entry D)) : Prop :=
  ∀ mode value earlier, .handed mode value :: earlier <:+ history →
    lastMode earlier = some mode ∧
      (mode = .deterministic → (expectedCursor earlier).map sineHash = some value)

/-- How a stream agrees with the history of it. -/
structure Accounted [Scalar D] (source : Source D) : Prop where
  drawn_eq : source.stream.drawn = source.history.countP Entry.isHanded
  mode_eq : lastMode source.history = some source.stream.mode
  cursor_eq : expectedCursor source.history = some source.stream.cursor.toInt
  values_follow : ValuesFollow source.history

section Histories

variable {history : List (Entry D)} {cursor : Int64}

/-- A value in deterministic mode moves the cursor by one. -/
theorem expectedCursor_handed (value : D)
    (stands : expectedCursor history = some cursor.toInt) :
    expectedCursor (.handed .deterministic value :: history) =
      some (cursor + 1).toInt := by
  obtain ⟨seed, isLast, isCursor⟩ := Option.map_eq_some_iff.mp stands
  have counted : countSinceSeed (.handed .deterministic value :: history) =
      countSinceSeed history + 1 := by
    rw [countSinceSeed, List.takeWhile_cons, if_pos (by simp [Entry.seed?]),
      List.countP_cons_of_pos (by simp [Entry.deterministic?]), countSinceSeed]
  have still : lastSeed (.handed .deterministic value :: history) = some seed := isLast
  rw [expectedCursor, still, counted, Option.map_some, Int64.toInt_add, ← isCursor,
    Int.bmod_add_bmod, Nat.cast_add, ← add_assoc]
  rfl

/-- All that sets no seed and hands out no value in deterministic mode leaves the cursor. -/
theorem expectedCursor_cons {entry : Entry D} (keepsSeed : entry.seed? = none)
    (hands : entry.deterministic? = none) :
    expectedCursor (entry :: history) = expectedCursor history := by
  rw [expectedCursor, expectedCursor, lastSeed, List.findSome?_cons, keepsSeed,
    countSinceSeed, List.takeWhile_cons, if_pos (by simp [keepsSeed]),
    List.countP_cons_of_neg (by simp [hands])]
  rfl

/-- A seed is where the cursor stands. -/
theorem expectedCursor_of_seed {entry : Entry D} {seed : Int64}
    (sets : entry.seed? = some seed) :
    expectedCursor (entry :: history) = some seed.toInt := by
  rw [expectedCursor, lastSeed, List.findSome?_cons, sets, countSinceSeed,
    List.takeWhile_cons, if_neg (by simp [sets])]
  simp [Int64.toInt_bmod]

theorem deterministicValues_cons (entry : Entry D) :
    deterministicValues (entry :: history) =
      deterministicValues history ++ entry.deterministic?.toList := by
  rw [deterministicValues, deterministicValues, List.filterMap_cons]
  cases entry.deterministic? <;> simp

theorem ValuesFollow.cons [Scalar D] (follow : ValuesFollow history) {entry : Entry D}
    (follows : ∀ mode value, entry = .handed mode value → lastMode history = some mode ∧
      (mode = .deterministic → (expectedCursor history).map sineHash = some value)) :
    ValuesFollow (entry :: history) := by
  intro mode value earlier isPart
  rcases List.suffix_cons_iff.mp isPart with isNew | isOld
  · obtain ⟨isEntry, rfl⟩ := List.cons.inj isNew
    exact follows mode value isEntry.symm
  · exact follow mode value earlier isOld

end Histories

/-! ## One source -/

section Acts

variable [Scalar D] {source : Source D}

theorem accounted_construct (ambient : Nat → D) (mode : DrawMode) (seed : Int64) :
    (construct ambient mode seed).Accounted :=
  { drawn_eq := rfl
    mode_eq := rfl
    cursor_eq := expectedCursor_of_seed rfl
    values_follow := by
      intro mode value earlier isPart
      simp [construct, List.suffix_cons_iff] at isPart }

theorem history_draw (source : Source D) :
    (source.act .draw).history =
      .handed source.stream.mode source.stream.value :: source.history :=
  rfl

theorem cursor_of_deterministic (deterministic : source.stream.mode = .deterministic) :
    (source.act .draw).stream.cursor = source.stream.cursor + 1 := by
  change source.stream.advance.cursor = _
  rw [DrawStream.advance_of_deterministic deterministic]

theorem cursor_of_stochastic (stochastic : source.stream.mode = .stochastic) :
    (source.act .draw).stream.cursor = source.stream.cursor := by
  change source.stream.advance.cursor = _
  rw [DrawStream.advance, stochastic]

theorem Accounted.draw (accounted : source.Accounted) : (source.act .draw).Accounted := by
  constructor
  · rw [history_draw, List.countP_cons_of_pos rfl, ← accounted.drawn_eq]
    exact source.stream.drawn_advance
  · rw [history_draw]
    exact accounted.mode_eq.trans (congrArg some source.stream.mode_advance.symm)
  · rw [history_draw]
    cases isMode : source.stream.mode with
    | stochastic =>
        rw [expectedCursor_cons rfl rfl, cursor_of_stochastic isMode]
        exact accounted.cursor_eq
    | deterministic =>
        rw [expectedCursor_handed _ accounted.cursor_eq, cursor_of_deterministic isMode]
  · rw [history_draw]
    apply accounted.values_follow.cons
    rintro mode value isEntry
    obtain ⟨rfl, rfl⟩ := Entry.handed.inj isEntry
    refine ⟨accounted.mode_eq, fun deterministic => ?_⟩
    rw [accounted.cursor_eq, Option.map_some,
      DrawStream.value_of_deterministic deterministic]

/-- Whatever is done to a source, it agrees with its history. -/
theorem Accounted.act (accounted : source.Accounted) (deed : Act) :
    (source.act deed).Accounted := by
  cases deed with
  | draw => exact accounted.draw
  | reseed seed =>
      exact
        { drawn_eq := accounted.drawn_eq.trans (List.countP_cons_of_neg Bool.false_ne_true).symm
          mode_eq := accounted.mode_eq
          cursor_eq := expectedCursor_of_seed rfl
          values_follow := accounted.values_follow.cons nofun }
  | switch mode =>
      exact
        { drawn_eq := accounted.drawn_eq.trans (List.countP_cons_of_neg Bool.false_ne_true).symm
          mode_eq := rfl
          cursor_eq := (expectedCursor_cons rfl rfl).trans accounted.cursor_eq
          values_follow := accounted.values_follow.cons nofun }

theorem Accounted.copy (accounted : source.Accounted) (ambient : Nat → D) :
    (source.copy ambient).Accounted :=
  ⟨accounted.drawn_eq, accounted.mode_eq, accounted.cursor_eq, accounted.values_follow⟩

/-- A switch and a draw in stochastic mode leave the cursor, so that only a draw in
deterministic mode is a step from hash to hash. -/
theorem deterministicValues_actAll (source : Source D) (deeds : List Act)
    (keepsSeed : ∀ seed, .reseed seed ∉ deeds) :
    ∃ count, deterministicValues (source.actAll deeds).history =
      deterministicValues source.history ++ hashesFrom source.stream.cursor count := by
  induction deeds generalizing source with
  | nil => exact ⟨0, (List.append_nil _).symm⟩
  | cons deed deeds ih =>
      obtain ⟨count, later⟩ := ih (source.act deed) fun seed isLater =>
        keepsSeed seed (List.mem_cons_of_mem deed isLater)
      change ∃ _, deterministicValues ((source.act deed).actAll deeds).history = _
      rw [later]
      cases deed with
      | reseed seed => exact absurd List.mem_cons_self (keepsSeed seed)
      | switch mode => exact ⟨count, rfl⟩
      | draw =>
          cases isMode : source.stream.mode with
          | stochastic =>
              refine ⟨count, ?_⟩
              rw [history_draw, cursor_of_stochastic isMode, isMode,
                deterministicValues_cons]
              simp [Entry.deterministic?]
          | deterministic =>
              refine ⟨count + 1, ?_⟩
              rw [history_draw, cursor_of_deterministic isMode, isMode,
                DrawStream.value_of_deterministic isMode, deterministicValues_cons,
                hashesFrom, List.append_assoc]
              rfl

end Acts

/-! ## Many sources -/

theorem mem_actsOn {place : Nat} {deed : Act} {events : List (Event D)} :
    deed ∈ actsOn place events ↔ .act place deed ∈ events := by
  rw [actsOn, List.mem_filterMap]
  constructor
  · rintro ⟨event, isEvent, acts⟩
    cases event with
    | act other other_deed =>
        simp only [Event.actOn, Option.ite_none_right_eq_some, Option.some.injEq] at acts
        obtain ⟨rfl, rfl⟩ := acts
        exact isEvent
    | _ => cases acts
  · exact fun isEvent => ⟨_, isEvent, by simp [Event.actOn]⟩

section Events

variable [Scalar D]

theorem happenAll_append (sources : List (Source D)) (events further : List (Event D)) :
    happenAll sources (events ++ further) = happenAll (happenAll sources events) further :=
  List.foldl_append

theorem accounted_happen {sources : List (Source D)}
    (accounted : ∀ source ∈ sources, source.Accounted) (event : Event D) :
    ∀ source ∈ happen sources event, source.Accounted := by
  intro source isSource
  cases event with
  | construct ambient mode seed =>
      rcases List.mem_append.mp isSource with isOld | isNew
      · exact accounted source isOld
      · exact List.mem_singleton.mp isNew ▸ accounted_construct ambient mode seed
  | act place deed =>
      obtain ⟨other, isPlace⟩ := List.mem_iff_getElem?.mp isSource
      rw [happen, List.getElem?_modify] at isPlace
      obtain ⟨old, isOld, rfl⟩ := Option.map_eq_some_iff.mp isPlace
      have before := accounted old (List.mem_of_getElem? isOld)
      split
      · exact before.act deed
      · exact before
  | copy place ambient =>
      rcases List.mem_append.mp isSource with isOld | isNew
      · exact accounted source isOld
      · obtain ⟨old, isOld, rfl⟩ := Option.map_eq_some_iff.mp (Option.mem_toList.mp isNew)
        exact (accounted old (List.mem_of_getElem? isOld)).copy ambient

theorem accounted_happenAll {sources : List (Source D)}
    (accounted : ∀ source ∈ sources, source.Accounted) (events : List (Event D)) :
    ∀ source ∈ happenAll sources events, source.Accounted := by
  induction events generalizing sources with
  | nil => exact accounted
  | cons event events ih => exact ih (accounted_happen accounted event)

/-- An event changes no source but the one that it is about. -/
theorem getElem?_happen {sources : List (Source D)} {place : Nat} {source : Source D}
    (isSource : sources[place]? = some source) (event : Event D) :
    (happen sources event)[place]? =
      some (source.actAll (event.actOn place).toList) := by
  have inside : place < sources.length := (List.getElem?_eq_some_iff.mp isSource).1
  cases event with
  | construct ambient mode seed =>
      rw [happen, List.getElem?_append_left inside, isSource]
      rfl
  | copy other ambient =>
      rw [happen, List.getElem?_append_left inside, isSource]
      rfl
  | act other deed =>
      rw [happen, List.getElem?_modify, isSource, Event.actOn]
      split <;> rfl

/-- What becomes of a source depends on nothing but what is done to it. -/
theorem getElem?_happenAll {sources : List (Source D)} {place : Nat} {source : Source D}
    (isSource : sources[place]? = some source) (events : List (Event D)) :
    (happenAll sources events)[place]? = some (source.actAll (actsOn place events)) := by
  induction events generalizing sources source with
  | nil => exact isSource
  | cons event events ih =>
      change (happenAll (happen sources event) events)[place]? = _
      rw [ih (getElem?_happen isSource event), actsOn, actsOn, List.filterMap_cons, actAll,
        actAll, actAll]
      cases event.actOn place <;> rfl

/-- A copy stands behind all others; it is counted like its original and stands where that
stands. -/
theorem getElem?_copied {sources : List (Source D)} {place : Nat} {source : Source D}
    (isSource : sources[place]? = some source) (ambient : Nat → D) :
    (happen sources (.copy place ambient))[sources.length]? =
      some (source.copy ambient) := by
  rw [happen, List.getElem?_append_right le_rfl, isSource, Nat.sub_self]
  rfl

end Events

/-! ## Every run -/

/-- Whatever happens to any number of sources, in any order, each of them agrees with its
history: it has counted its values in both modes, its cursor stands as many places behind
its last seed as it handed out values in deterministic mode since then, and each of these
values was the hash of the cursor.  Draws in stochastic mode and switches leave the cursor.
No source is affected by what is done to another.  A copy begins where its original
stands, and from equal cursors two sources, copies or not, hand out the same sequence of
hashes in deterministic mode, however their draws and switches are interleaved. -/
theorem sources_account_for_values [Scalar D] (events : List (Event D)) :
    (∀ source ∈ happenAll [] events, source.Accounted ∧
      (source.stream.mode = .stochastic →
        (source.act .draw).stream.cursor = source.stream.cursor) ∧
      ∀ mode, (source.act (.switch mode)).stream.cursor = source.stream.cursor) ∧
    (∀ (place : Nat) (source : Source D), (happenAll [] events)[place]? = some source →
      ∀ further, (happenAll [] (events ++ further))[place]? =
        some (source.actAll (actsOn place further))) ∧
    (∀ (place : Nat) (source : Source D), (happenAll [] events)[place]? = some source →
      ∀ ambient,
      ∃ twin, (happenAll [] (events ++ [.copy place ambient]))[
            (happenAll [] events).length]? = some twin ∧
          (happenAll [] (events ++ [.copy place ambient]))[place]? = some source ∧
          twin.stream = { source.stream with ambient := ambient } ∧
          twin.history = source.history) ∧
    ∀ (place place' : Nat) (source source' : Source D) (further : List (Event D)),
      (happenAll [] events)[place]? = some source →
      (happenAll [] events)[place']? = some source' →
      source.stream.cursor = source'.stream.cursor →
      (∀ seed, .act place (.reseed seed) ∉ further ∧ .act place' (.reseed seed) ∉ further) →
      ∃ later later' count count',
        (happenAll [] (events ++ further))[place]? = some later ∧
        (happenAll [] (events ++ further))[place']? = some later' ∧
        deterministicValues later.history =
          deterministicValues source.history ++ hashesFrom source.stream.cursor count ∧
        deterministicValues later'.history =
          deterministicValues source'.history ++ hashesFrom source.stream.cursor count' := by
  refine ⟨fun source isSource => ⟨accounted_happenAll (List.forall_mem_nil _) events source isSource,
      cursor_of_stochastic, fun _ => rfl⟩, ?apart, ?copies, ?alike⟩
  case apart =>
    intro place source isSource further
    rw [happenAll_append]
    exact getElem?_happenAll isSource further
  case copies =>
    intro place source isSource ambient
    rw [happenAll_append]
    exact ⟨source.copy ambient, getElem?_copied isSource ambient,
      getElem?_happenAll isSource [.copy place ambient], rfl, rfl⟩
  case alike =>
    intro place place' source source' further isSource isSource' level keepsSeed
    rw [happenAll_append]
    obtain ⟨count, isCount⟩ := deterministicValues_actAll source (actsOn place further)
      fun seed isAct => (keepsSeed seed).1 (mem_actsOn.mp isAct)
    obtain ⟨count', isCount'⟩ := deterministicValues_actAll source' (actsOn place' further)
      fun seed isAct => (keepsSeed seed).2 (mem_actsOn.mp isAct)
    exact ⟨_, _, count, count', getElem?_happenAll isSource further,
      getElem?_happenAll isSource' further, isCount, level ▸ isCount'⟩

/-- A run that passes the end of the cursor's range, rests there and is copied. -/
def pastTheEnd (ambient : Nat → Float) : List (Event Float) :=
  [.construct ambient .deterministic Int64.maxValue, .act 0 .draw,
    .act 0 (.switch .stochastic), .act 0 .draw, .act 0 (.switch .deterministic),
    .copy 0 ambient]

/-- Draws from a source and from its copy in turn. -/
def drawnInTurn : List (Event Float) :=
  [.act 0 .draw, .act 1 (.switch .stochastic), .act 0 .draw, .act 1 .draw,
    .act 1 (.switch .deterministic), .act 1 .draw]

/-- Behind the end of the range, a source and its copy hand out the same hash, although the
one is drawn from more often than the other. -/
theorem copies_past_the_end :
    ∃ source twin later later' : Source Float,
      (happenAll [] (pastTheEnd fun _ => 0))[0]? = some source ∧
      (happenAll [] (pastTheEnd fun _ => 0))[1]? = some twin ∧
      source.Accounted ∧ twin.Accounted ∧
      source.stream.drawn = 2 ∧ twin.stream.drawn = 2 ∧
      source.stream.cursor = Int64.minValue ∧ twin.stream.cursor = Int64.minValue ∧
      (happenAll [] (pastTheEnd (fun _ => 0) ++ drawnInTurn))[0]? = some later ∧
      (happenAll [] (pastTheEnd (fun _ => 0) ++ drawnInTurn))[1]? = some later' ∧
      deterministicValues later.history =
        deterministicValues source.history ++ hashesFrom Int64.minValue 2 ∧
      deterministicValues later'.history =
        deterministicValues twin.history ++ hashesFrom Int64.minValue 1 := by
  obtain ⟨accounted, -, -, alike⟩ := sources_account_for_values (pastTheEnd fun _ => 0)
  obtain ⟨later, later', _, _, isLater, isLater', -, -⟩ :=
    alike 0 1 _ _ drawnInTurn rfl rfl rfl (by simp [drawnInTurn])
  refine ⟨_, _, later, later', rfl, rfl, (accounted _ (List.mem_of_getElem? (i := 0) rfl)).1,
    (accounted _ (List.mem_of_getElem? (i := 1) rfl)).1, rfl, rfl, rfl, rfl, isLater, isLater',
    ?_, ?_⟩
  -- How many values there are is known after the events have been run.
  · cases isLater
    rfl
  · cases isLater'
    rfl

end Source

end GrowthGrammar
