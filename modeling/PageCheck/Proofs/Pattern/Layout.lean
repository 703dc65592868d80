import Mathlib.Data.List.TakeWhile
import PageCheck.Pattern.Reader

/-!
# Layout and runs in front of more text

Blanks and comments are skipped in the same way whatever follows, as long as a part of the
pattern is left behind them; a comment that is open at the end goes on into what follows.  The
readers of digits, minus signs and names of edges are runs of characters with layout between
them, and a run that ends inside a text ends there in any longer text.
-/

namespace PageCheck
namespace Pattern

variable {ignoring inComment cut : Bool} {c : Char} {text rest more : Text}

/-! ## Blanks and comments -/

/-- Skipping that stops at a character stops there in every longer text. -/
theorem skipLayout_append_of_cons
    (stops : skipLayout inComment text = (c :: rest, cut))
    (more : Text) :
    skipLayout inComment (text ++ more) = (c :: rest ++ more, cut) := by
  induction text generalizing inComment with
  | nil => cases stops
  | cons d tail hypothesis =>
      rw [List.cons_append]
      rw [skipLayout] at stops ⊢
      split_ifs at stops ⊢ with comment blank sign
      · exact hypothesis stops
      · exact hypothesis stops
      · exact hypothesis stops
      · cases stops
        rfl

/-- Skipping that meets the end goes on with what follows. -/
theorem skipLayout_append_of_nil
    (ends : skipLayout inComment text = ([], cut))
    (more : Text) :
    skipLayout inComment (text ++ more) = skipLayout cut more := by
  induction text generalizing inComment with
  | nil =>
      cases ends
      rfl
  | cons d tail hypothesis =>
      rw [List.cons_append]
      rw [skipLayout] at ends ⊢
      split_ifs at ends ⊢ with comment blank sign
      · exact hypothesis ends
      · exact hypothesis ends
      · exact hypothesis ends
      · cases ends

/-- The rest of a pattern behind ignored layout, and whether the end cut a comment short. -/
def layout (ignoring : Bool) (text : Text) : Text × Bool :=
  if ignoring then skipLayout false text else (text, false)

theorem skip_eq (text : Text) : skip ignoring text = (layout ignoring text).1 := by
  cases ignoring <;> rfl

theorem layout_append_of_cons
    (stops : layout ignoring text = (c :: rest, cut))
    (more : Text) :
    layout ignoring (text ++ more) = (c :: rest ++ more, cut) := by
  cases ignoring with
  | false =>
      cases stops
      rfl
  | true => exact skipLayout_append_of_cons stops more

theorem layout_append_of_nil
    (ends : layout ignoring text = ([], cut))
    (more : Text) :
    layout ignoring (text ++ more) = if cut then skipLayout true more else layout ignoring more := by
  cases ignoring with
  | false =>
      cases ends
      rfl
  | true =>
      have further : layout true (text ++ more) = skipLayout cut more :=
        skipLayout_append_of_nil ends more
      rw [further]
      cases cut <;> rfl

theorem skip_append
    (stops : skip ignoring text = c :: rest)
    (more : Text) :
    skip ignoring (text ++ more) = c :: rest ++ more := by
  rw [skip_eq] at stops
  have pair : layout ignoring text = (c :: rest, (layout ignoring text).2) := Prod.ext stops rfl
  rw [skip_eq, layout_append_of_cons pair]

@[simp] theorem skip_nil : skip ignoring [] = [] := by
  cases ignoring <;> rfl

theorem length_skipLayout_le (inComment : Bool) (text : Text) :
    (skipLayout inComment text).1.length ≤ text.length := by
  induction text generalizing inComment with
  | nil => simp [skipLayout]
  | cons d tail hypothesis =>
      rw [skipLayout]
      split_ifs with comment blank sign
      · exact Nat.le_succ_of_le (hypothesis _)
      · exact Nat.le_succ_of_le (hypothesis _)
      · exact Nat.le_succ_of_le (hypothesis _)
      · exact Nat.le_refl _

theorem length_skip_le (ignoring : Bool) (text : Text) :
    (skip ignoring text).length ≤ text.length := by
  cases ignoring with
  | false => exact Nat.le_refl _
  | true => exact length_skipLayout_le false text

/-- Nothing is left of a text of blanks. -/
theorem skipLayout_of_blank
    (blank : text.dropWhile Text.isBlank = []) :
    (skipLayout inComment text).1 = [] := by
  induction text generalizing inComment with
  | nil => rfl
  | cons d tail hypothesis =>
      have all := List.dropWhile_eq_nil_iff.1 blank
      have further : tail.dropWhile Text.isBlank = [] :=
        List.dropWhile_eq_nil_iff.2 fun e inside => all e (List.mem_cons_of_mem _ inside)
      rw [skipLayout, if_pos (all d List.mem_cons_self)]
      split_ifs <;> exact hypothesis further

/-- Leading blanks are no part of what is left. -/
theorem skipLayout_dropWhile (text : Text) :
    skipLayout false (text.dropWhile Text.isBlank) = skipLayout false text := by
  induction text with
  | nil => rfl
  | cons d tail hypothesis =>
      cases blank : Text.isBlank d with
      | true =>
          rw [List.dropWhile_cons_of_pos blank, hypothesis, skipLayout]
          simp [blank]
      | false => rw [List.dropWhile_cons_of_neg (by simp [blank])]

theorem dropWhile_append_of_cons
    {p : Char → Bool}
    (stops : text.dropWhile p = c :: rest)
    (more : Text) :
    (text ++ more).dropWhile p = c :: rest ++ more := by
  rw [List.dropWhile_append, stops]
  rfl

theorem takeWhile_append_of_cons
    {p : Char → Bool}
    (stops : text.dropWhile p = c :: rest)
    (more : Text) :
    (text ++ more).takeWhile p = text.takeWhile p := by
  induction text with
  | nil => cases stops
  | cons d tail hypothesis =>
      cases inside : p d with
      | true =>
          rw [List.dropWhile_cons_of_pos inside] at stops
          simp [inside, hypothesis stops]
      | false => simp [inside]

theorem skip_dropWhile_append
    {p : Char → Bool}
    (stops : skip ignoring (text.dropWhile p) = c :: rest)
    (more : Text) :
    skip ignoring ((text ++ more).dropWhile p) = c :: rest ++ more := by
  cases visible : text.dropWhile p with
  | nil => simp [visible] at stops
  | cons d tail =>
      rw [visible] at stops
      rw [dropWhile_append_of_cons visible, skip_append stops]

/-! ## The character behind a minus sign -/

/-- The first character of a text starts layout if nothing but layout is left of the text. -/
theorem head?_of_dropWhile
    (layout : ∀ d tail, text.dropWhile Text.isBlank = d :: tail → d = '#')
    (head : text.head? = some c) :
    Text.isBlank c = true ∨ c = '#' := by
  obtain ⟨tail, rfl⟩ := List.head?_eq_some_iff.1 head
  cases blank : Text.isBlank c with
  | true => exact .inl rfl
  | false => exact .inr (layout c tail (List.dropWhile_cons_of_neg (by simp [blank])))

/-- The character that decides about a minus sign is found inside the text, unless nothing but
layout is left. -/
theorem peekPastBlanks_append
    (decides : skip ignoring text ≠ [] ∨
      ∃ c, peekPastBlanks ignoring text = some c ∧ ¬ (Text.isBlank c = true ∨ c = '#'))
    (more : Text) :
    peekPastBlanks ignoring (text ++ more) = peekPastBlanks ignoring text := by
  cases ignoring with
  | false =>
      cases text with
      | nil => simp [peekPastBlanks] at decides
      | cons d tail => rfl
  | true =>
      have skipped : skip true text = (skipLayout false (text.dropWhile Text.isBlank)).1 :=
        (congrArg Prod.fst (skipLayout_dropWhile text)).symm
      cases visible : text.dropWhile Text.isBlank with
      | nil =>
          rcases decides with left | ⟨c, next, clear⟩
          · simp [skipped, visible, skipLayout] at left
          · simp only [peekPastBlanks, visible, if_true] at next
            exact absurd (head?_of_dropWhile (by simp [visible]) next) clear
      | cons d tail =>
          by_cases sign : d = '#'
          · subst sign
            cases comment : tail.dropWhile Text.isBlank with
            | nil =>
                rcases decides with left | ⟨c, next, clear⟩
                · rw [skipped, visible, skipLayout] at left
                  simp [Text.isBlank, skipLayout_of_blank comment] at left
                · simp only [peekPastBlanks, visible, comment, if_true] at next
                  exact absurd (head?_of_dropWhile (by simp [visible]) next) clear
            | cons e further =>
                simp only [peekPastBlanks, visible, comment, if_true,
                  dropWhile_append_of_cons visible, List.cons_append,
                  dropWhile_append_of_cons comment]
          · simp [peekPastBlanks, visible, dropWhile_append_of_cons visible]

/-! ## Runs -/

/-- Reads a run of characters, and skips layout behind each of them. -/
def readRun (inside : Char → Bool) (ignoring : Bool) : Nat → Text → Text × Text
  | 0, text => ([], text)
  | fuel + 1, text =>
      match text with
      | c :: rest =>
          if inside c then
            let (run, after) := readRun inside ignoring fuel (skip ignoring rest)
            (c :: run, after)
          else
            ([], text)
      | [] => ([], [])

theorem readDigits_eq (fuel : Nat) (text : Text) :
    readDigits ignoring fuel text =
      readRun (fun c => '0' ≤ c ∧ c ≤ '9') ignoring fuel text := by
  induction fuel generalizing text with
  | zero => rfl
  | succ fuel hypothesis =>
      cases text with
      | nil => rfl
      | cons c rest => simp only [readDigits, readRun, hypothesis, decide_eq_true_eq]

theorem readEdgeName_eq (fuel : Nat) (text : Text) :
    readEdgeName ignoring fuel text = readRun isEdgeLetter ignoring fuel text := by
  induction fuel generalizing text with
  | zero => rfl
  | succ fuel hypothesis =>
      cases text with
      | nil => rfl
      | cons c rest => simp only [readEdgeName, readRun, hypothesis]

theorem readMinuses_eq (fuel : Nat) (text : Text) :
    readMinuses ignoring fuel text =
      let (run, after) := readRun (· == '-') ignoring fuel text
      (run.map fun c => ClassSet.literal ⟨c, false⟩, after) := by
  induction fuel generalizing text with
  | zero => rfl
  | succ fuel hypothesis =>
      cases text with
      | nil => rfl
      | cons c rest =>
          by_cases minus : c = '-'
          · subst minus
            simp only [readMinuses, readRun, hypothesis]
            rfl
          · simp [readMinuses, readRun, minus]

/-- A run that ends at a character ends there in every longer text. -/
theorem readRun_append
    {inside : Char → Bool}
    {run : Text}
    {fuel longer : Nat}
    (enough : text.length ≤ fuel)
    (enoughLonger : (text ++ more).length ≤ longer)
    (stops : readRun inside ignoring fuel text = (run, c :: rest)) :
    readRun inside ignoring longer (text ++ more) = (run, c :: rest ++ more) := by
  induction fuel generalizing text longer run with
  | zero =>
      obtain rfl := List.length_eq_zero_iff.1 (Nat.le_zero.1 enough)
      cases stops
  | succ fuel hypothesis =>
      cases text with
      | nil => cases stops
      | cons d tail =>
          obtain ⟨longer, rfl⟩ : ∃ less, longer = less + 1 :=
            ⟨longer - 1, by simp at enoughLonger; omega⟩
          rw [List.cons_append]
          simp only [readRun] at stops ⊢
          split_ifs at stops ⊢ with member
          · cases left : skip ignoring tail with
            | nil =>
                rw [left] at stops
                cases fuel <;> cases stops
            | cons e further =>
                rw [left] at stops
                obtain ⟨rfl, after⟩ := Prod.mk.inj stops
                have bound : (e :: further).length ≤ fuel := by
                  have shorter := length_skip_le ignoring tail
                  simp only [List.length_cons, left] at enough shorter ⊢
                  omega
                have boundLonger : (e :: further ++ more).length ≤ longer := by
                  have shorter := length_skip_le ignoring (tail ++ more)
                  rw [skip_append left] at shorter
                  simp only [List.cons_append, List.length_cons] at enoughLonger shorter ⊢
                  omega
                rw [skip_append left, hypothesis bound boundLonger (Prod.ext rfl after)]
          · cases stops
            rfl

theorem readRun_length_append
    {inside : Char → Bool}
    {run : Text}
    (text more : Text)
    (stops : readRun inside ignoring text.length text = (run, c :: rest)) :
    readRun inside ignoring (text ++ more).length (text ++ more) = (run, c :: rest ++ more) :=
  readRun_append (Nat.le_refl _) (Nat.le_refl _) stops

end Pattern
end PageCheck
