import Mathlib.Algebra.Ring.Parity
import Mathlib.Data.List.DropRight
import Mathlib.Data.Nat.Find
import PageCheck.Proofs.Script.Quotes

/-!
# Backslashes between double quotes

The reader of quotes goes through a text from the front and takes a backslash together with
the character behind it.  What comes of it is stated here by counting: a double quote closes
the text exactly if the number of backslashes in front of it is even, and a run of
backslashes stands for half as many.
-/

namespace PageCheck

/-! ## Backslashes in front of a place -/

namespace Token

/-- The number of backslashes at the end of a text. -/
def backslashesAtEnd (text : Text) : Nat :=
  (text.rtakeWhile fun c => c == '\\').length

@[simp] theorem backslashesAtEnd_nil : backslashesAtEnd [] = 0 := rfl

theorem backslashesAtEnd_concat
    (text : Text)
    (c : Char) :
    backslashesAtEnd (text ++ [c]) = if c = '\\' then backslashesAtEnd text + 1 else 0 := by
  rw [backslashesAtEnd, List.rtakeWhile_concat]
  by_cases backslash : c = '\\'
  · simp [backslash, backslashesAtEnd]
  · simp [backslash]

/-- An even number of backslashes in front of a text does not change whether the number at
its end is even. -/
theorem even_backslashesAtEnd_append
    {front : Text}
    (even : Even (backslashesAtEnd front))
    (text : Text) :
    Even (backslashesAtEnd (front ++ text)) ↔ Even (backslashesAtEnd text) := by
  -- The count is taken from the end, and so is the induction.
  induction text using List.reverseRecOn with
  | nil => simpa using even
  | append_singleton text c hypothesis =>
      rw [← List.append_assoc, backslashesAtEnd_concat, backslashesAtEnd_concat]
      split
      · rw [Nat.even_add_one, Nat.even_add_one, hypothesis]
      · rfl

theorem not_even_backslashesAtEnd_single : ¬ Even (backslashesAtEnd ['\\']) := by
  decide

/-- A backslash together with the character behind it counts as an even number. -/
theorem even_backslashesAtEnd_pair (c : Char) : Even (backslashesAtEnd ['\\', c]) := by
  have pair := backslashesAtEnd_concat ['\\'] c
  rw [List.singleton_append] at pair
  rw [pair]
  split
  · decide
  · decide

theorem even_backslashesAtEnd_singleton
    {c : Char}
    (noBackslash : c ≠ '\\') :
    Even (backslashesAtEnd [c]) := by
  have single := backslashesAtEnd_concat [] c
  rw [List.nil_append, if_neg noBackslash] at single
  rw [single]
  exact .zero

/-! ## Places of quotes and backslashes -/

/-- The double quote at a place closes a text if there is an even number of backslashes
directly in front of it, or none. -/
structure ClosesAt (text : Text) (place : Nat) : Prop where
  quote : text[place]? = some '\"'
  even : Even (backslashesAtEnd (text.take place))

/-- The first place at which a double quote closes a text. -/
structure ClosesFirstAt (text : Text) (place : Nat) : Prop where
  closes : ClosesAt text place
  first : ∀ earlier < place, ¬ ClosesAt text earlier

/-- The backslash at a place escapes the double quote or the backslash behind it, if it is not
itself escaped: an even number of backslashes is directly in front of it, or none. -/
structure EscapesAt (text : Text) (place : Nat) : Prop where
  backslash : text[place]? = some '\\'
  even : Even (backslashesAtEnd (text.take place))
  special : text[place + 1]? = some '\"' ∨ text[place + 1]? = some '\\'

instance (text : Text) (place : Nat) : Decidable (EscapesAt text place) :=
  decidable_of_iff
    (text[place]? = some '\\' ∧ Even (backslashesAtEnd (text.take place)) ∧
      (text[place + 1]? = some '\"' ∨ text[place + 1]? = some '\\'))
    ⟨fun ⟨backslash, even, special⟩ => ⟨backslash, even, special⟩,
      fun escapes => ⟨escapes.backslash, escapes.even, escapes.special⟩⟩

/-- A text without the backslashes that escape something. -/
def withoutEscapes (text : Text) : Text :=
  (text.zipIdx.filter fun part => ¬ EscapesAt text part.2).map Prod.fst

section Append

variable {front text : Text} {place : Nat}

theorem getElem?_add_append : (front ++ text)[place + front.length]? = text[place]? := by
  rw [List.getElem?_append_right (Nat.le_add_left _ _), Nat.add_sub_cancel]

theorem even_take_add_append
    (even : Even (backslashesAtEnd front)) :
    Even (backslashesAtEnd ((front ++ text).take (place + front.length))) ↔
      Even (backslashesAtEnd (text.take place)) := by
  rw [Nat.add_comm, List.take_length_add_append, even_backslashesAtEnd_append even]

theorem closesAt_append
    (even : Even (backslashesAtEnd front)) :
    ClosesAt (front ++ text) (place + front.length) ↔ ClosesAt text place := by
  constructor
  · rintro ⟨quote, evenToo⟩
    rw [getElem?_add_append] at quote
    exact ⟨quote, (even_take_add_append even).1 evenToo⟩
  · rintro ⟨quote, evenToo⟩
    refine ⟨?_, (even_take_add_append even).2 evenToo⟩
    rw [getElem?_add_append, quote]

theorem escapesAt_append
    (even : Even (backslashesAtEnd front)) :
    EscapesAt (front ++ text) (place + front.length) ↔ EscapesAt text place := by
  have next : (front ++ text)[place + front.length + 1]? = text[place + 1]? := by
    rw [Nat.add_right_comm, getElem?_add_append]
  constructor
  · rintro ⟨backslash, evenToo, special⟩
    rw [getElem?_add_append] at backslash
    rw [next] at special
    exact ⟨backslash, (even_take_add_append even).1 evenToo, special⟩
  · rintro ⟨backslash, evenToo, special⟩
    refine ⟨?_, (even_take_add_append even).2 evenToo, ?_⟩
    · rw [getElem?_add_append, backslash]
    · rwa [next]

/-- What is left of a text behind an even number of backslashes does not depend on them. -/
theorem withoutEscapes_append
    (even : Even (backslashesAtEnd front))
    (text : Text) :
    withoutEscapes (front ++ text) =
      (front.zipIdx.filter fun part => ¬ EscapesAt (front ++ text) part.2).map Prod.fst ++
        withoutEscapes text := by
  have behind : text.zipIdx front.length =
      text.zipIdx.map fun part => (part.1, part.2 + front.length) := by
    rw [List.zipIdx_eq_map_add]
    exact List.map_congr_left fun part _ => by rw [Nat.add_comm]
  rw [withoutEscapes, List.zipIdx_append, Nat.zero_add, behind, List.filter_append,
    List.map_append, List.filter_map, List.map_map, withoutEscapes]
  congr 2
  apply List.filter_congr
  intro part _
  simp only [Function.comp_apply, escapesAt_append even]

end Append

/-! ## Where a text is closed -/

/-- Whether a quote in the front part of a text closes it does not depend on what follows. -/
theorem closesAt_of_lt
    {front behind : Text}
    {place : Nat}
    (inside : place < front.length) :
    ClosesAt (front ++ behind) place ↔ ClosesAt front place := by
  have quote : (front ++ behind)[place]? = front[place]? := List.getElem?_append_left inside
  have before : (front ++ behind).take place = front.take place :=
    List.take_append_of_le_length inside.le
  constructor
  · rintro ⟨found, even⟩
    exact ⟨quote ▸ found, before ▸ even⟩
  · rintro ⟨found, even⟩
    exact ⟨quote ▸ found, before ▸ even⟩

/-- Between double quotes nothing closes the text before its end, and a quote there does. -/
theorem DoubleBody.closedBehind
    {inner : Text}
    (body : DoubleBody inner) :
    Even (backslashesAtEnd inner) ∧ ∀ place, ¬ ClosesAt inner place := by
  induction body with
  | nil => exact ⟨by simp, fun place closes => by simpa using closes.quote⟩
  | @escaped rest c _ hypothesis =>
      have pair := even_backslashesAtEnd_pair c
      refine ⟨(even_backslashesAtEnd_append pair rest).2 hypothesis.1, ?_⟩
      intro place closes
      match place with
      | 0 => simpa using closes.quote
      | 1 => exact absurd closes.even not_even_backslashesAtEnd_single
      | place + 2 => exact hypothesis.2 place ((closesAt_append pair).1 closes)
  | @plain c rest noQuote noBackslash _ hypothesis =>
      have single := even_backslashesAtEnd_singleton noBackslash
      refine ⟨(even_backslashesAtEnd_append single rest).2 hypothesis.1, ?_⟩
      intro place closes
      match place with
      | 0 => exact noQuote (by simpa using closes.quote)
      | place + 1 => exact hypothesis.2 place ((closesAt_append single).1 closes)

/-- These are the only texts of that kind. -/
theorem doubleBody_iff
    {inner : Text} :
    DoubleBody inner ↔ Even (backslashesAtEnd inner) ∧ ∀ place, ¬ ClosesAt inner place := by
  refine ⟨DoubleBody.closedBehind, ?_⟩
  rintro ⟨even, unclosed⟩
  induction inner using closeDouble?.induct with
  | case1 => exact .nil
  | case2 => exact absurd even not_even_backslashesAtEnd_single
  | case3 c rest hypothesis =>
      have pair := even_backslashesAtEnd_pair c
      have restEven := (even_backslashesAtEnd_append pair rest).1 even
      exact .escaped c (hypothesis restEven fun place closes =>
        unclosed (place + 2) ((closesAt_append pair).2 closes))
  | case4 rest _ _ => exact absurd ⟨rfl, by simp⟩ (unclosed 0)
  | case5 c rest single pair noQuote hypothesis =>
      have noBackslash : c ≠ '\\' := by
        rintro rfl
        cases rest with
        | nil => exact single rfl rfl
        | cons d rest => exact pair d rest rfl rfl
      have one := even_backslashesAtEnd_singleton noBackslash
      have restEven := (even_backslashesAtEnd_append one rest).1 even
      exact .plain noQuote noBackslash (hypothesis restEven fun place closes =>
        unclosed (place + 1) ((closesAt_append one).2 closes))

theorem ClosesAt.exists_first
    {text : Text}
    {place : Nat}
    (closes : ClosesAt text place) :
    ∃ first, ClosesFirstAt text first := by
  classical
  have some : ∃ place, ClosesAt text place := ⟨place, closes⟩
  exact ⟨Nat.find some, Nat.find_spec some, fun _ => Nat.find_min some⟩

theorem ClosesAt.append_eq
    {text : Text}
    {place : Nat}
    (closes : ClosesAt text place) :
    text.take place ++ '\"' :: text.drop (place + 1) = text := by
  obtain ⟨inside, quote⟩ := List.getElem?_eq_some_iff.1 closes.quote
  rw [← quote, List.getElem_cons_drop, List.take_append_drop]

/-- What stands in front of the first closing quote can stand between quotes. -/
theorem ClosesFirstAt.doubleBody
    {text : Text}
    {place : Nat}
    (closes : ClosesFirstAt text place) :
    DoubleBody (text.take place) := by
  refine doubleBody_iff.2 ⟨closes.closes.even, ?_⟩
  intro earlier closesToo
  have inside : earlier < (text.take place).length :=
    (List.getElem?_eq_some_iff.1 closesToo.quote).1
  apply closes.first earlier (inside.trans_le (List.length_take_le place text))
  rw [← List.take_append_drop place text]
  exact (closesAt_of_lt inside).2 closesToo

/-- The reader stops at the first place at which a quote closes the text. -/
theorem closeDouble?_eq_some_iff_closesFirstAt
    {text inner after : Text} :
    closeDouble? text = some (inner, after) ↔
      ∃ place, ClosesFirstAt text place ∧
        inner = text.take place ∧ after = text.drop (place + 1) := by
  rw [closeDouble?_eq_some_iff]
  constructor
  · rintro ⟨body, rfl⟩
    obtain ⟨even, unclosed⟩ := doubleBody_iff.1 body
    have before : (inner ++ '\"' :: after).take inner.length = inner := List.take_left
    refine ⟨inner.length, ⟨⟨by simp, before.symm ▸ even⟩, ?_⟩, before.symm, by simp⟩
    intro earlier inside closes
    exact unclosed earlier ((closesAt_of_lt inside).1 closes)
  · rintro ⟨place, closes, rfl, rfl⟩
    exact ⟨closes.doubleBody, closes.closes.append_eq.symm⟩

end Token

/-! ## Runs of backslashes -/

/-- A text by its runs of backslashes: the other characters with the lengths of the runs in
front of them, which may be empty, and the length of the run at the end. -/
structure BackslashRuns where
  steps : List (Nat × Char)
  last : Nat
  maximal : ∀ step ∈ steps, step.2 ≠ '\\'

namespace BackslashRuns

/-- The text with runs of other lengths, which depend on the old ones and on the characters
behind them. -/
def textWith (length : Nat → Option Char → Nat) (runs : BackslashRuns) : Text :=
  (runs.steps.flatMap fun step =>
    List.replicate (length step.1 (some step.2)) '\\' ++ [step.2]) ++
      List.replicate (length runs.last none) '\\'

/-- The text that has these runs. -/
def text (runs : BackslashRuns) : Text :=
  runs.textWith fun count _ => count

/-- How many backslashes are left of a run: half of them, rounded down in front of a double
quote and up everywhere else. -/
def halved (count : Nat) (next : Option Char) : Nat :=
  if next = some '\"' then count / 2 else (count + 1) / 2

theorem halved_add_two
    (count : Nat)
    (next : Option Char) :
    halved (count + 2) next = halved count next + 1 := by
  unfold halved
  split <;> omega

/-- Every text has runs. -/
theorem exists_text_eq (text : Text) : ∃ runs : BackslashRuns, runs.text = text := by
  induction text with
  | nil => exact ⟨⟨[], 0, List.forall_mem_nil _⟩, rfl⟩
  | cons c rest hypothesis =>
      obtain ⟨⟨steps, last, maximal⟩, rfl⟩ := hypothesis
      by_cases backslash : c = '\\'
      · subst backslash
        -- The first run gets longer by one.
        cases steps with
        | nil => exact ⟨⟨[], last + 1, maximal⟩, rfl⟩
        | cons step steps =>
            refine ⟨⟨(step.1 + 1, step.2) :: steps, last, ?_⟩, rfl⟩
            rw [List.forall_mem_cons] at maximal ⊢
            exact maximal
      · exact ⟨⟨(0, c) :: steps, last, List.forall_mem_cons.2 ⟨backslash, maximal⟩⟩, rfl⟩

/-- The characters other than backslashes do not depend on how long the runs are. -/
theorem filter_textWith
    (runs : BackslashRuns)
    (length : Nat → Option Char → Nat) :
    (runs.textWith length).filter (· ≠ '\\') = runs.steps.map Prod.snd := by
  obtain ⟨steps, last, maximal⟩ := runs
  simp only [textWith, List.filter_append, List.filter_replicate]
  induction steps with
  | nil => simp
  | cons step steps hypothesis =>
      rw [List.forall_mem_cons] at maximal
      simpa [maximal.1] using hypothesis maximal.2

end BackslashRuns

/-! ## What runs of backslashes stand for -/

open BackslashRuns (halved halved_add_two)

/-- A run in front of another character, or at the end, is halved. -/
theorem Value.unescape_run
    (count : Nat)
    (behind : Text)
    (maximal : behind.head? ≠ some '\\') :
    unescape (List.replicate count '\\' ++ behind) =
      List.replicate (halved count behind.head?) '\\' ++ unescape behind := by
  -- Two backslashes are read as one, until one or none is left in front of what follows.
  induction count using Nat.twoStepInduction with
  | zero => simp [halved]
  | one =>
      cases behind with
      | nil => rfl
      | cons c rest =>
          have noBackslash : c ≠ '\\' := by simpa using maximal
          rw [List.replicate_one, List.singleton_append, unescape,
            Token.unescape_cons noBackslash]
          by_cases quote : c = '\"'
          · simp [quote, halved]
          · simp [quote, noBackslash, halved]
  | more count hypothesis _ =>
      rw [List.replicate_succ, List.replicate_succ, List.cons_append, List.cons_append, unescape,
        if_pos (.inr rfl), hypothesis, halved_add_two, List.replicate_succ, List.cons_append]

/-- Taking escapes away halves the runs of backslashes and copies everything else. -/
theorem BackslashRuns.unescape_text (runs : BackslashRuns) :
    Value.unescape runs.text = runs.textWith halved := by
  obtain ⟨steps, last, maximal⟩ := runs
  induction steps with
  | nil =>
      have run := Value.unescape_run last [] (by simp)
      simpa [text, textWith, Value.unescape] using run
  | cons step steps hypothesis =>
      rw [List.forall_mem_cons] at maximal
      have first := Value.unescape_run step.1 (step.2 :: text ⟨steps, last, maximal.2⟩)
        (by simpa using maximal.1)
      rw [Token.unescape_cons maximal.1, hypothesis maximal.2] at first
      simpa [text, textWith] using first

/-- Between double quotes, a run in front of a quote has an odd number of backslashes. -/
theorem Token.DoubleBody.of_run
    {c : Char}
    {rest : Text}
    {count : Nat}
    (maximal : c ≠ '\\')
    (body : DoubleBody (List.replicate count '\\' ++ c :: rest)) :
    (c = '\"' → Odd count) ∧ DoubleBody rest := by
  induction count using Nat.twoStepInduction with
  | zero =>
      cases body with
      | escaped => exact absurd rfl maximal
      | plain noQuote _ body => exact ⟨fun quote => absurd quote noQuote, body⟩
  | one =>
      cases body with
      | escaped _ body => exact ⟨fun _ => odd_one, body⟩
      | plain _ noBackslash _ => exact absurd rfl noBackslash
  | more count hypothesis _ =>
      cases body with
      | escaped _ body =>
          obtain ⟨odd, rest⟩ := hypothesis body
          exact ⟨fun quote => (odd quote).add_even even_two, rest⟩
      | plain _ noBackslash _ => exact absurd rfl noBackslash

theorem BackslashRuns.odd_of_doubleBody
    {runs : BackslashRuns}
    (body : Token.DoubleBody runs.text) :
    ∀ step ∈ runs.steps, step.2 = '\"' → Odd step.1 := by
  obtain ⟨steps, last, maximal⟩ := runs
  induction steps with
  | nil => exact List.forall_mem_nil _
  | cons step steps hypothesis =>
      rw [List.forall_mem_cons] at maximal
      have run : Token.DoubleBody (List.replicate step.1 '\\' ++
          step.2 :: text ⟨steps, last, maximal.2⟩) := by
        simpa [text, textWith] using body
      obtain ⟨odd, rest⟩ := run.of_run maximal.1
      exact List.forall_mem_cons.2 ⟨odd, hypothesis maximal.2 rest⟩

/-! ## Which backslashes are dropped -/

namespace Token

/-- Of a backslash and the character behind it, the backslash goes away if it escapes the
character. -/
theorem withoutEscapes_pair
    (c : Char)
    (text : Text) :
    withoutEscapes ('\\' :: c :: text) =
      (if c = '\"' ∨ c = '\\' then [c] else ['\\', c]) ++ withoutEscapes text := by
  have first : EscapesAt ('\\' :: c :: text) 0 ↔ c = '\"' ∨ c = '\\' := by
    constructor
    · intro escapes
      simpa using escapes.special
    · intro special
      exact ⟨rfl, .zero, by simpa using special⟩
  -- The backslash in front leaves the one at the next place, if it is one, without effect.
  have second : ¬ EscapesAt ('\\' :: c :: text) 1 := fun escapes =>
    not_even_backslashesAtEnd_single escapes.even
  have split := withoutEscapes_append (even_backslashesAtEnd_pair c) text
  by_cases special : c = '\"' ∨ c = '\\'
  · simpa [first, second, special] using split
  · simpa [first, second, special] using split

theorem withoutEscapes_cons
    {c : Char}
    (noBackslash : c ≠ '\\')
    (text : Text) :
    withoutEscapes (c :: text) = c :: withoutEscapes text := by
  have first : ¬ EscapesAt (c :: text) 0 := by
    intro escapes
    exact noBackslash (by simpa using escapes.backslash)
  have split := withoutEscapes_append (even_backslashesAtEnd_singleton noBackslash) text
  simpa [first] using split

/-- A text between double quotes stands for what is left of it without the backslashes that
escape something. -/
theorem Resolves.withoutEscapes_eq
    {inner value : Text}
    (resolves : Resolves inner value) :
    withoutEscapes inner = value := by
  induction resolves with
  | nil => rfl
  | escaped special _ hypothesis =>
      rw [withoutEscapes_pair, if_pos special, hypothesis, List.singleton_append]
  | kept plain _ hypothesis =>
      rw [withoutEscapes_pair, if_neg (not_or.2 plain), hypothesis, List.cons_append,
        List.singleton_append]
  | plain plain _ hypothesis => rw [withoutEscapes_cons plain.2, hypothesis]

/-! ## Double quotes by parity -/

theorem splitQuoted?_cons_eq_some_iff
    {rest raw after : Text} :
    splitQuoted? ('\"' :: rest) = some (raw, after) ↔
      ∃ place, ClosesFirstAt rest place ∧
        raw = '\"' :: rest.take place ++ ['\"'] ∧ after = rest.drop (place + 1) := by
  rw [splitQuoted?, if_pos rfl, Option.map_eq_some_iff]
  constructor
  · rintro ⟨⟨inner, behind⟩, closed, shape⟩
    obtain ⟨place, closes, rfl, rfl⟩ := closeDouble?_eq_some_iff_closesFirstAt.1 closed
    cases shape
    exact ⟨place, closes, rfl, rfl⟩
  · rintro ⟨place, closes, rfl, rfl⟩
    exact ⟨_, closeDouble?_eq_some_iff_closesFirstAt.2 ⟨place, closes, rfl, rfl⟩, rfl⟩

/-- A text behind a double quote is closed exactly if it has a double quote with an even
number of backslashes, or none, directly in front of it, and the first of these closes it.
What is between the quotes stands for a text with half of the backslashes of every run,
rounded down in front of a double quote, where their number is odd, and up everywhere else.
All other characters stay, and nothing goes away but the backslashes that escape a quote or
another backslash. -/
theorem doubleQuotes_byParity (rest : Text) :
    ((∃ parts, splitQuoted? ('\"' :: rest) = some parts) ↔ ∃ place, ClosesAt rest place) ∧
    (∀ raw after, splitQuoted? ('\"' :: rest) = some (raw, after) ↔
      ∃ place, ClosesFirstAt rest place ∧
        raw = '\"' :: rest.take place ++ ['\"'] ∧ after = rest.drop (place + 1)) ∧
    ∀ place, ClosesFirstAt rest place →
      let body := rest.take place
      let value := Value.unescape body
      Value.unquote ('\"' :: body ++ ['\"']) = .ok value ∧
      (∃ runs : BackslashRuns, runs.text = body) ∧
      (∀ runs : BackslashRuns, runs.text = body →
        value = runs.textWith BackslashRuns.halved ∧
        ∀ step ∈ runs.steps, step.2 = '\"' → Odd step.1) ∧
      value.filter (· ≠ '\\') = body.filter (· ≠ '\\') ∧
      value = withoutEscapes body := by
  refine ⟨?_, fun _ _ => splitQuoted?_cons_eq_some_iff, ?_⟩
  · constructor
    · rintro ⟨⟨raw, after⟩, found⟩
      obtain ⟨place, closes, -⟩ := splitQuoted?_cons_eq_some_iff.1 found
      exact ⟨place, closes.closes⟩
    · rintro ⟨place, closes⟩
      obtain ⟨first, closesFirst⟩ := closes.exists_first
      exact ⟨_, splitQuoted?_cons_eq_some_iff.2 ⟨first, closesFirst, rfl, rfl⟩⟩
  · intro place closes body value
    have inside : DoubleBody body := closes.doubleBody
    obtain ⟨resolved, resolves⟩ := inside.exists_resolves
    have same : value = resolved := resolves.unescape_eq
    refine ⟨?_, BackslashRuns.exists_text_eq body, ?_, ?_, ?_⟩
    · have stands := StandsFor.double resolves
      rw [same, ← stands.unquote_eq (.quoted (.double inside))]
    · intro runs shape
      rw [← shape] at inside
      refine ⟨?_, BackslashRuns.odd_of_doubleBody inside⟩
      rw [← runs.unescape_text, shape]
    · obtain ⟨runs, shape⟩ := BackslashRuns.exists_text_eq body
      have halves : value = runs.textWith BackslashRuns.halved := by
        rw [← runs.unescape_text, shape]
      rw [halves, ← shape, BackslashRuns.text, BackslashRuns.filter_textWith,
        BackslashRuns.filter_textWith]
    · rw [same, resolves.withoutEscapes_eq]

/-- A backslash in front of a letter stays, a run at the end is halved, and a quote behind an
odd number of backslashes closes nothing. -/
example :
    Value.unquote "\"a \\\"b\\\" \\\\ \\d\\\\\\\\\"" = .ok "a \"b\" \\ \\d\\\\" ∧
      splitQuoted? "\"a\\\\\\\" b" = none := by
  decide

end Token
end PageCheck
