import Mathlib.Data.List.Induction
import GrowthGrammar.Error

/-!
# Brackets in a sentence

A bracket that is closed belongs to the latest bracket that is still open before
it, and the two enclose a group.  What is visible of a sentence is what is left
when every group is removed.  A sentence is read letter by letter, and what is
visible so far is kept with its latest letter first, so that a closing bracket
only has to drop the letters back to the opening bracket.
-/

namespace GrowthGrammar

/-- The two letters that enclose a branch. -/
structure Brackets where
  opening : Letter
  closing : Letter

namespace Brackets

variable (brackets : Brackets)

/-- Drops letters back to the first opening bracket and drops it as well, if
there is one. -/
def close : List Letter → Option (List Letter)
  | [] => none
  | letter :: outer =>
      if letter = brackets.opening then some outer else close outer

/-- What is visible after one more letter, the latest first.  A closing bracket
that closes nothing stays visible. -/
def read (shown : List Letter) (letter : Letter) : List Letter :=
  if letter = brackets.closing then
    (brackets.close shown).getD (letter :: shown)
  else
    letter :: shown

/-- What is visible of a sentence, the latest letter first. -/
def shown (sentence : List Letter) : List Letter :=
  sentence.foldl brackets.read []

/-- A sentence without its groups. -/
def visible (sentence : List Letter) : List Letter :=
  (brackets.shown sentence).reverse

/-- In a balanced sentence every bracket belongs to a group. -/
inductive Balanced : List Letter → Prop where
  | nil : Balanced []
  | letter {letter : Letter} {rest : List Letter}
      (unopened : letter ≠ brackets.opening)
      (unclosed : letter ≠ brackets.closing) (balanced : Balanced rest) :
      Balanced (letter :: rest)
  | group {inside rest : List Letter} (insideBalanced : Balanced inside)
      (balanced : Balanced rest) :
      Balanced
        (brackets.opening :: inside ++ brackets.closing :: rest)

variable {brackets}

theorem close_eq_some_iff (letters outer : List Letter) :
    brackets.close letters = some outer ↔
      ∃ inside, brackets.opening ∉ inside ∧
        letters = inside ++ brackets.opening :: outer := by
  induction letters with
  | nil => simp [close]
  | cons letter rest ih =>
      rw [close]
      by_cases opens : letter = brackets.opening
      · subst opens
        simp only [↓reduceIte, Option.some.injEq]
        constructor
        · rintro rfl
          exact ⟨[], by simp, rfl⟩
        · rintro ⟨inside, unopened, split⟩
          cases inside with
          | nil => simpa using split
          | cons first inside =>
              rw [List.cons_append, List.cons.injEq] at split
              simp [split.1] at unopened
      · rw [if_neg opens, ih]
        constructor
        · rintro ⟨inside, unopened, rfl⟩
          exact ⟨letter :: inside, by simp [unopened, Ne.symm opens], rfl⟩
        · rintro ⟨inside, unopened, split⟩
          cases inside with
          | nil =>
              rw [List.nil_append, List.cons.injEq] at split
              exact absurd split.1 opens
          | cons first inside =>
              rw [List.cons_append, List.cons.injEq] at split
              refine ⟨inside, ?_, split.2⟩
              intro isInside
              exact unopened (List.mem_cons_of_mem first isInside)

theorem close_eq_none_iff (letters : List Letter) :
    brackets.close letters = none ↔ brackets.opening ∉ letters := by
  induction letters with
  | nil => simp [close]
  | cons letter rest ih =>
      rw [close]
      by_cases opens : letter = brackets.opening <;> simp [opens, ih, eq_comm]

@[simp]
theorem shown_nil : brackets.shown [] = [] :=
  rfl

@[simp]
theorem visible_nil : brackets.visible [] = [] :=
  rfl

theorem shown_concat (sentence : List Letter) (letter : Letter) :
    brackets.shown (sentence ++ [letter]) =
      brackets.read (brackets.shown sentence) letter := by
  simp [shown]

theorem read_of_ne {letter : Letter} (unclosed : letter ≠ brackets.closing)
    (shown : List Letter) : brackets.read shown letter = letter :: shown := by
  simp [read, unclosed]

theorem read_closing (inside outer : List Letter)
    (unopened : brackets.opening ∉ inside) :
    brackets.read (inside ++ brackets.opening :: outer) brackets.closing =
      outer := by
  have closes := (brackets.close_eq_some_iff
    (inside ++ brackets.opening :: outer) outer).mpr ⟨inside, unopened, rfl⟩
  simp [read, closes]

theorem visible_concat_of_ne {letter : Letter}
    (unclosed : letter ≠ brackets.closing) (sentence : List Letter) :
    brackets.visible (sentence ++ [letter]) =
      brackets.visible sentence ++ [letter] := by
  simp [visible, shown_concat, read_of_ne unclosed]

/-- A closing bracket hides what is visible from the latest opening bracket
on. -/
theorem visible_concat_closing (sentence : List Letter) :
    brackets.opening ∉ brackets.visible sentence ∨
      ∃ outer inside, brackets.opening ∉ inside ∧
        brackets.visible sentence = outer ++ brackets.opening :: inside ∧
        brackets.visible (sentence ++ [brackets.closing]) = outer := by
  unfold visible
  rw [shown_concat, read, if_pos rfl]
  cases closed : brackets.close (brackets.shown sentence) with
  | none =>
      left
      rw [List.mem_reverse]
      exact (close_eq_none_iff _).mp closed
  | some outer =>
      right
      obtain ⟨inside, unopened, split⟩ := (close_eq_some_iff _ _).mp closed
      refine ⟨outer.reverse, inside.reverse, by simpa using unopened, ?_, rfl⟩
      rw [split]
      simp

/-! ## Groups -/

theorem Balanced.append {first second : List Letter}
    (firstBalanced : brackets.Balanced first)
    (secondBalanced : brackets.Balanced second) :
    brackets.Balanced (first ++ second) := by
  induction firstBalanced with
  | nil => exact secondBalanced
  | letter unopened unclosed _ ih => exact .letter unopened unclosed ih
  | group insideBalanced _ _ ih =>
      have whole := Balanced.group insideBalanced ih
      simpa using whole

/-- Reading a balanced sentence shows no bracket of it that is open. -/
theorem Balanced.foldl_read
    (distinct : brackets.opening ≠ brackets.closing)
    {letters : List Letter} (balanced : brackets.Balanced letters)
    (shown : List Letter) :
    ∃ inside, brackets.opening ∉ inside ∧
      letters.foldl brackets.read shown = inside ++ shown := by
  induction balanced generalizing shown with
  | nil => exact ⟨[], by simp, rfl⟩
  | @letter letter rest unopened unclosed _ ih =>
      obtain ⟨inside, insideUnopened, reading⟩ := ih (letter :: shown)
      refine ⟨inside ++ [letter], by simp [insideUnopened, Ne.symm unopened], ?_⟩
      rw [List.foldl_cons, read_of_ne unclosed, reading]
      simp
  | @group inside rest _ _ insideRead restRead =>
      obtain ⟨between, unopened, insideReading⟩ :=
        insideRead (brackets.opening :: shown)
      rw [List.foldl_append, List.foldl_cons, List.foldl_cons,
        read_of_ne distinct, insideReading, read_closing between shown unopened]
      exact restRead shown

/-- A group is invisible. -/
theorem visible_group (distinct : brackets.opening ≠ brackets.closing)
    {inside : List Letter} (balanced : brackets.Balanced inside)
    (before after : List Letter) :
    brackets.visible
        (before ++ brackets.opening :: inside ++ brackets.closing :: after) =
      brackets.visible (before ++ after) := by
  obtain ⟨between, unopened, reading⟩ := balanced.foldl_read distinct
    (brackets.opening :: brackets.shown before)
  unfold shown at reading
  simp only [visible, shown, List.foldl_append, List.foldl_cons,
    read_of_ne distinct, reading, read_closing _ _ unopened]

example :
    (Brackets.mk 0 1).visible [2, 0, 3, 0, 4, 1, 1, 5, 0, 6] = [2, 5, 0, 6] := by
  decide

/-- Where an opening bracket is visible behind a closing one, the closing one
has closed a group. -/
theorem close_shown_of_opened
    (distinct : brackets.opening ≠ brackets.closing) {sentence : List Letter}
    (opened :
      brackets.opening ∈ brackets.shown (sentence ++ [brackets.closing])) :
    brackets.close (brackets.shown sentence) =
      some (brackets.shown (sentence ++ [brackets.closing])) := by
  rw [shown_concat, read, if_pos rfl] at opened ⊢
  cases closed : brackets.close (brackets.shown sentence) with
  | none =>
      rw [closed, Option.getD_none] at opened
      rcases List.mem_cons.mp opened with same | inSentence
      · exact absurd same distinct
      · exact absurd inSentence ((close_eq_none_iff _).mp closed)
  | some outer => rfl

/-- What follows the latest visible opening bracket is balanced. -/
theorem exists_balanced_of_shown
    (distinct : brackets.opening ≠ brackets.closing)
    (sentence : List Letter) {inside outer : List Letter}
    (unopened : brackets.opening ∉ inside)
    (reading :
      brackets.shown sentence = inside ++ brackets.opening :: outer) :
    ∃ before between, sentence = before ++ brackets.opening :: between ∧
      brackets.Balanced between ∧ brackets.shown before = outer := by
  -- The sentence before a closed group is shorter than its part before the
  -- closing bracket, and both are needed.
  induction lengthIs : sentence.length using Nat.strongRecOn
    generalizing sentence inside outer with
  | ind size shorter =>
      rcases sentence.eq_nil_or_concat with rfl | ⟨sentence, letter, rfl⟩
      · simp at reading
      · rw [List.concat_eq_append] at lengthIs reading ⊢
        rw [List.length_append, List.length_singleton] at lengthIs
        by_cases closes : letter = brackets.closing
        · subst closes
          have closed : brackets.close (brackets.shown sentence) =
              some (brackets.shown (sentence ++ [brackets.closing])) :=
            close_shown_of_opened distinct (by simp [reading])
          obtain ⟨inGroup, groupUnopened, groupReading⟩ :=
            (close_eq_some_iff _ _).mp closed
          obtain ⟨earlier, group, rfl, groupBalanced, earlierReading⟩ :=
            shorter sentence.length (by omega) sentence groupUnopened
              groupReading rfl
          have earlierShorter : earlier.length < size := by
            rw [← lengthIs, List.length_append]
            omega
          obtain ⟨before, between, rfl, balanced, beforeReading⟩ :=
            shorter earlier.length earlierShorter earlier unopened
              (earlierReading.trans reading) rfl
          refine ⟨before,
            between ++ brackets.opening :: group ++ [brackets.closing],
            by simp, ?_, beforeReading⟩
          have grouped := balanced.append (.group groupBalanced .nil)
          simpa using grouped
        · rw [shown_concat, read_of_ne closes] at reading
          cases inside with
          | nil =>
              rw [List.nil_append, List.cons.injEq] at reading
              rcases reading with ⟨rfl, outerIs⟩
              exact ⟨sentence, [], rfl, .nil, outerIs⟩
          | cons first inside =>
              rw [List.cons_append, List.cons.injEq] at reading
              rcases reading with ⟨rfl, reading⟩
              rw [List.mem_cons, not_or] at unopened
              obtain ⟨before, between, rfl, balanced, beforeReading⟩ :=
                shorter sentence.length (by omega) sentence unopened.2 reading rfl
              refine ⟨before, between ++ [letter], by simp, ?_, beforeReading⟩
              exact balanced.append
                (.letter (Ne.symm unopened.1) closes .nil)

end Brackets

end GrowthGrammar
