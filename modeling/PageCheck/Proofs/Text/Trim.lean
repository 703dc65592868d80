import Mathlib.Data.List.Basic
import Mathlib.Data.List.Induction
import Mathlib.Data.List.TakeWhile
import PageCheck.Text.Blank

/-!
# Trimmed texts

A text is trimmed when neither of its ends is blank.  Trimming gives a trimmed
text, leaves a trimmed text alone and takes nothing but blanks away.
-/

namespace PageCheck
namespace Text

/-- Neither end of a text is blank. -/
def IsTrimmed (text : Text) : Prop :=
  (∀ c ∈ text.head?, isBlank c = false) ∧ ∀ c ∈ text.getLast?, isBlank c = false

/-! ## The two ends -/

/-- A text that does not start with a blank is left alone by trimming its start. -/
theorem trimStart_eq_self
    {text : Text}
    (visible : ∀ c ∈ text.head?, isBlank c = false) :
    trimStart text = text := by
  cases text with
  | nil => rfl
  | cons c rest => exact trimStart_of_head_not_blank (visible c rfl)

/-- A text that does not end with a blank is left alone by trimming its end. -/
theorem trimEnd_eq_self
    {text : Text}
    (visible : ∀ c ∈ text.getLast?, isBlank c = false) :
    trimEnd text = text := by
  have reversed : trimStart text.reverse = text.reverse := by
    apply trimStart_eq_self
    simpa only [List.head?_reverse] using visible
  unfold trimStart at reversed
  rw [trimEnd, reversed, List.reverse_reverse]

/-- A trimmed text is left alone by trimming. -/
theorem IsTrimmed.trim_eq
    {text : Text}
    (trimmed : IsTrimmed text) :
    trim text = text := by
  rw [trim, trimStart_eq_self trimmed.1, trimEnd_eq_self trimmed.2]

theorem head?_trimStart_not_blank
    (text : Text) :
    ∀ c ∈ (trimStart text).head?, isBlank c = false := by
  intro c first
  have visible := List.head?_dropWhile_not isBlank text
  rw [trimStart, Option.mem_def] at first
  rw [first] at visible
  simpa using visible

theorem getLast?_trimEnd_not_blank
    (text : Text) :
    ∀ c ∈ (trimEnd text).getLast?, isBlank c = false := by
  intro c last
  rw [trimEnd, List.getLast?_reverse] at last
  exact head?_trimStart_not_blank text.reverse c last

/-- Trimming the end keeps a front part of a text. -/
theorem trimEnd_isPrefixOf
    (text : Text) :
    trimEnd text <+: text := by
  rw [trimEnd, ← List.reverse_suffix, List.reverse_reverse]
  exact List.dropWhile_suffix isBlank

/-- The result of trimming is trimmed. -/
theorem isTrimmed_trim
    (text : Text) :
    IsTrimmed (trim text) := by
  refine ⟨?_, getLast?_trimEnd_not_blank (trimStart text)⟩
  intro c first
  obtain ⟨behind, whole⟩ := trimEnd_isPrefixOf (trimStart text)
  apply head?_trimStart_not_blank text c
  rw [← whole, List.head?_append]
  rw [trim, Option.mem_def] at first
  simp [first]

@[simp] theorem trim_trim (text : Text) : trim (trim text) = trim text :=
  (isTrimmed_trim text).trim_eq

/-- Trimming adds no character. -/
theorem mem_of_mem_trim
    {c : Char}
    {text : Text}
    (inside : c ∈ trim text) :
    c ∈ text :=
  (List.dropWhile_suffix isBlank).mem ((trimEnd_isPrefixOf (trimStart text)).mem inside)

/-- A text that is searched for blanks in vain has none. -/
theorem visible_of_any_eq_false
    {text : Text}
    (none : text.any isBlank = false) :
    ∀ c ∈ text, isBlank c = false := by
  intro c inside
  rw [List.any_eq_false] at none
  simpa using none c inside

/-- A text without any blank is trimmed. -/
theorem isTrimmed_of_visible
    {text : Text}
    (visible : ∀ c ∈ text, isBlank c = false) :
    IsTrimmed text :=
  ⟨fun c first => visible c (List.mem_of_mem_head? first),
    fun c last => visible c (List.mem_of_mem_getLast? last)⟩

/-! ## Blanks that trimming takes away -/

theorem trimStart_cons_of_isBlank
    {c : Char}
    (blank : isBlank c = true)
    (text : Text) :
    trimStart (c :: text) = trimStart text := by
  simp [trimStart, blank]

/-- A blank in front does not survive trimming. -/
theorem trim_cons_of_isBlank
    {c : Char}
    (blank : isBlank c = true)
    (text : Text) :
    trim (c :: text) = trim text := by
  rw [trim, trimStart_cons_of_isBlank blank, trim]

theorem trimEnd_append_of_isBlank
    {c : Char}
    (blank : isBlank c = true)
    (text : Text) :
    trimEnd (text ++ [c]) = trimEnd text := by
  simp [trimEnd, blank]

/-- A blank behind does not survive trimming. -/
theorem trim_append_of_isBlank
    {c : Char}
    (blank : isBlank c = true)
    (text : Text) :
    trim (text ++ [c]) = trim text := by
  by_cases hollow : ∀ d ∈ text, isBlank d = true
  · have none : text.dropWhile isBlank = [] := List.dropWhile_eq_nil_iff.2 hollow
    simp [trim, trimStart, List.dropWhile_append, none, blank, trimEnd]
  · have some : (text.dropWhile isBlank).isEmpty = false := by
      rw [List.isEmpty_eq_false_iff, Ne, List.dropWhile_eq_nil_iff]
      exact hollow
    rw [trim, trimStart, List.dropWhile_append, some]
    simp only [Bool.false_eq_true, if_false]
    exact trimEnd_append_of_isBlank blank (trimStart text)

/-- Blanks around a text do not survive trimming. -/
theorem trim_append_append_of_blank
    {front behind : Text}
    (blank : ∀ c ∈ front, isBlank c = true)
    (blankToo : ∀ c ∈ behind, isBlank c = true)
    (text : Text) :
    trim (front ++ text ++ behind) = trim text := by
  induction front with
  | nil =>
      rw [List.nil_append]
      induction behind using List.reverseRecOn with
      | nil => rw [List.append_nil]
      | append_singleton before last hypothesis =>
          rw [List.forall_mem_append, List.forall_mem_singleton] at blankToo
          rw [← List.append_assoc, trim_append_of_isBlank blankToo.2, hypothesis blankToo.1]
  | cons c front hypothesis =>
      rw [List.forall_mem_cons] at blank
      rw [List.cons_append, List.cons_append, trim_cons_of_isBlank blank.1, hypothesis blank.2]

/-- Nothing is left of a text of blanks, and something of every other text. -/
theorem trim_eq_nil_iff
    {text : Text} :
    trim text = [] ↔ ∀ c ∈ text, isBlank c = true := by
  have atStart : trimStart text = [] ↔ ∀ c ∈ text, isBlank c = true :=
    List.dropWhile_eq_nil_iff
  constructor
  · intro hollow
    rw [trim, trimEnd, List.reverse_eq_nil_iff, List.dropWhile_eq_nil_iff] at hollow
    cases start : trimStart text with
    | nil => exact atStart.1 start
    | cons c rest =>
        have visible := head?_trimStart_not_blank text c (by simp [start])
        have blank := hollow c (by simp [start])
        rw [visible] at blank
        cases blank
  · intro blank
    rw [trim, atStart.2 blank]
    rfl

/-- A text is what trimming leaves with blanks around it. -/
theorem exists_blanks_trim (text : Text) :
    ∃ front behind, text = front ++ trim text ++ behind ∧
      (∀ c ∈ front, isBlank c = true) ∧ ∀ c ∈ behind, isBlank c = true := by
  have back : trimStart text =
      trim text ++ ((trimStart text).reverse.takeWhile isBlank).reverse := by
    rw [trim, trimEnd, ← List.reverse_append, List.takeWhile_append_dropWhile,
      List.reverse_reverse]
  refine ⟨text.takeWhile isBlank, ((trimStart text).reverse.takeWhile isBlank).reverse, ?_,
    fun c => List.mem_takeWhile_imp, ?_⟩
  · rw [List.append_assoc, ← back, trimStart, List.takeWhile_append_dropWhile]
  · intro c inside
    exact List.mem_takeWhile_imp (List.mem_reverse.1 inside)

/-- A trimmed text does not end with blanks. -/
theorem IsTrimmed.eq_nil_of_blank
    {text gap : Text}
    (trimmed : IsTrimmed (text ++ gap))
    (blank : ∀ c ∈ gap, isBlank c = true) :
    gap = [] := by
  by_contra filled
  have last : gap.getLast filled ∈ (text ++ gap).getLast? := by
    rw [List.getLast?_append_of_ne_nil _ filled]
    exact List.getLast?_eq_some_getLast filled
  have visible := trimmed.2 _ last
  rw [blank _ (List.getLast_mem filled)] at visible
  cases visible

/-- The blanks in front of a text that starts visibly are all that are in front. -/
theorem takeWhile_isBlank_append
    {front text : Text}
    (blank : ∀ c ∈ front, isBlank c = true)
    (visible : ∀ c ∈ text.head?, isBlank c = false) :
    (front ++ text).takeWhile isBlank = front := by
  rw [List.takeWhile_append_of_pos blank]
  cases text with
  | nil => simp
  | cons c text => simp [visible c rfl]

/-! ## First words -/

/-- A word in front of a blank is the first word. -/
theorem firstWord_append_cons
    {word : Text}
    {c : Char}
    (visible : ∀ d ∈ word, isBlank d = false)
    (blank : isBlank c = true)
    (rest : Text) :
    firstWord (word ++ c :: rest) = word := by
  rw [firstWord, List.takeWhile_append_of_pos]
  · simp [blank]
  · intro d inside
    simp [visible d inside]

/-- What follows a word in front of a blank starts with that blank. -/
theorem afterFirstWord_append_cons
    {word : Text}
    {c : Char}
    (visible : ∀ d ∈ word, isBlank d = false)
    (blank : isBlank c = true)
    (rest : Text) :
    afterFirstWord (word ++ c :: rest) = c :: rest := by
  rw [afterFirstWord, List.dropWhile_append_of_pos]
  · simp [blank]
  · intro d inside
    simp [visible d inside]

/-- A word on its own is its first word. -/
theorem firstWord_eq_self
    {word : Text}
    (visible : ∀ d ∈ word, isBlank d = false) :
    firstWord word = word := by
  rw [firstWord, List.takeWhile_eq_self_iff]
  intro d inside
  simp [visible d inside]

theorem afterFirstWord_eq_nil
    {word : Text}
    (visible : ∀ d ∈ word, isBlank d = false) :
    afterFirstWord word = [] := by
  rw [afterFirstWord, List.dropWhile_eq_nil_iff]
  intro d inside
  simp [visible d inside]

/-- A blank or nothing follows the first word. -/
theorem head?_afterFirstWord_blank
    (text : Text) :
    ∀ c ∈ (afterFirstWord text).head?, isBlank c = true := by
  intro c first
  have stop := List.head?_dropWhile_not (fun d => !isBlank d) text
  rw [afterFirstWord, Option.mem_def] at first
  rw [first] at stop
  simpa using stop

/-! ## Words with single blanks between them -/

/-- The words behind the first one have a blank in front of each. -/
theorem joinWith_cons
    (word : Text)
    (words : List Text) :
    joinWith [' '] (word :: words) = word ++ words.flatMap fun other => ' ' :: other := by
  induction words generalizing word with
  | nil => simp [joinWith]
  | cons next words hypothesis =>
      have step : joinWith [' '] (word :: next :: words) =
          word ++ ' ' :: joinWith [' '] (next :: words) := by
        simp [joinWith, List.intercalate]
      rw [step, hypothesis, List.flatMap_cons, List.cons_append]

/-- Trimmed words that are not empty make a trimmed text. -/
theorem isTrimmed_joinWith
    {words : List Text}
    (filled : ∀ word ∈ words, word ≠ [])
    (trimmed : ∀ word ∈ words, IsTrimmed word) :
    IsTrimmed (joinWith [' '] words) := by
  induction words with
  | nil => exact ⟨by simp [joinWith], by simp [joinWith]⟩
  | cons word words hypothesis =>
      have visible := trimmed word List.mem_cons_self
      obtain ⟨c, rest, shape⟩ := List.exists_cons_of_ne_nil (filled word List.mem_cons_self)
      refine ⟨?_, ?_⟩
      · rw [joinWith_cons]
        rw [shape] at visible ⊢
        exact visible.1
      · cases words with
        | nil => simpa [joinWith] using visible.2
        | cons next words =>
            have later := hypothesis
              (fun other inside => filled other (List.mem_cons_of_mem word inside))
              (fun other inside => trimmed other (List.mem_cons_of_mem word inside))
            obtain ⟨d, more, start⟩ := List.exists_cons_of_ne_nil
              (filled next (List.mem_cons_of_mem word List.mem_cons_self))
            rw [joinWith_cons, List.flatMap_cons, List.cons_append, ← joinWith_cons]
            have shown : joinWith [' '] (next :: words) ≠ [] := by
              rw [joinWith_cons, start]
              simp
            rw [List.getLast?_append_of_ne_nil _ (List.cons_ne_nil _ _),
              List.getLast?_cons_of_ne_nil shown]
            exact later.2

end Text
end PageCheck
