import PageCheck.Proofs.Pattern.Layout

/-!
# Reading in front of more text

What a reader of patterns reads at the start of a text it reads there in a longer text as well,
and the same text is left in front of what was added.  This holds for codes and properties
whatever is added, and for escapes, brackets, repetitions and openings in front of the end of a
group.
-/

namespace PageCheck
namespace Pattern

/-! ## Readings that continue -/

/-- What is read of a text is read of a longer one, and the rest is longer by the same. -/
def Continues {α : Type} (more : Text) (short long : Option (α × Text)) : Prop :=
  ∀ item after, short = some (item, after) → long = some (item, after ++ more)

namespace Continues

variable {α β : Type} {more : Text} {short long : Option (α × Text)}

theorem none : Continues more (Option.none : Option (α × Text)) long := by
  intro item after found
  cases found

theorem some (item : α) (after : Text) :
    Continues more (Option.some (item, after)) (Option.some (item, after ++ more)) := by
  intro item after found
  cases found
  rfl

theorem map
    (continues : Continues more short long)
    (change : α → β) :
    Continues more (short.map fun read => (change read.1, read.2))
      (long.map fun read => (change read.1, read.2)) := by
  intro item after found
  obtain ⟨⟨original, rest⟩, given, same⟩ := Option.map_eq_some_iff.1 found
  cases same
  rw [continues original rest given]
  rfl

theorem attach (found : Option α) (change : α → β) (after : Text) :
    Continues more (found.map fun item => (change item, after))
      (found.map fun item => (change item, after ++ more)) := by
  cases found with
  | none => exact .none
  | some item => exact .some _ after

end Continues

variable {ignoring negated : Bool}

/-! ## Numbers and codes -/

/-- A count that is followed by a character is the same count in every longer text. -/
theorem readCount_append
    {count : Option Nat}
    {c : Char}
    {text rest : Text}
    (found : readCount ignoring text = some (count, c :: rest))
    (more : Text) :
    readCount ignoring (text ++ more) = some (count, c :: rest ++ more) := by
  simp only [readCount, readDigits_eq] at found ⊢
  cases run : readRun (fun c => '0' ≤ c ∧ c ≤ '9') ignoring
      (text.dropWhile Text.isBlank).length (text.dropWhile Text.isBlank) with
  | mk digits behind =>
      simp only [run] at found
      -- A character is left, and so neither the digits nor the blanks around them meet the end.
      have stops : skip ignoring (behind.dropWhile Text.isBlank) = c :: rest := by
        split_ifs at found
        · exact (Prod.mk.inj (Option.some.inj found)).2
        · obtain ⟨value, _, same⟩ := Option.map_eq_some_iff.1 found
          exact (Prod.mk.inj same).2
      cases behind with
      | nil => simp at stops
      | cons e behind =>
          cases start : text.dropWhile Text.isBlank with
          | nil => simp [start, readRun] at run
          | cons d tail =>
              rw [start] at run
              rw [dropWhile_append_of_cons start, readRun_length_append (d :: tail) more run]
              simp only [stops] at found
              simp only [skip_dropWhile_append stops]
              split_ifs at found ⊢
              · cases found
                rfl
              · exact Continues.attach _ some (c :: rest) _ _ found

theorem readFixedHex_continues (count : Nat) (text more : Text) :
    Continues more (readFixedHex ignoring count text)
      (readFixedHex ignoring count (text ++ more)) := by
  induction count generalizing text with
  | zero => exact .some [] text
  | succ count hypothesis =>
      cases text with
      | nil => exact .none
      | cons d tail =>
          rw [List.cons_append]
          simp only [readFixedHex]
          split_ifs with digit last
          · exact (hypothesis tail).map _
          · cases left : skip ignoring tail with
            | nil =>
                obtain ⟨less, rfl⟩ := Nat.exists_eq_succ_of_ne_zero last
                exact .none
            | cons e further =>
                rw [skip_append left]
                exact (hypothesis (e :: further)).map _
          · exact .none

theorem readBraced_continues
    {fuel longer : Nat}
    (enough : fuel ≤ longer)
    (text more : Text) :
    Continues more (readBraced ignoring fuel text)
      (readBraced ignoring longer (text ++ more)) := by
  induction fuel generalizing text longer with
  | zero => exact .none
  | succ fuel hypothesis =>
      obtain ⟨longer, rfl⟩ : ∃ less, longer = less + 1 := ⟨longer - 1, by omega⟩
      rw [readBraced, readBraced]
      cases left : skip ignoring text with
      | nil => exact .none
      | cons d tail =>
          rw [skip_append left]
          simp only [List.cons_append]
          split_ifs with brace
          · exact .some [] tail
          · exact (hypothesis (by omega) tail).map _

/-- The text in braces is long enough for itself. -/
theorem readBraced_length_continues (text more : Text) :
    Continues more (readBraced ignoring (text.length + 1) text)
      (readBraced ignoring ((text ++ more).length + 1) (text ++ more)) :=
  readBraced_continues (by simp) text more

theorem readHex_continues (width : Nat) (text more : Text) :
    Continues more (readHex ignoring width text) (readHex ignoring width (text ++ more)) := by
  rw [readHex, readHex]
  cases left : skip ignoring text with
  | nil => exact .none
  | cons d tail =>
      rw [skip_append left]
      simp only [List.cons_append]
      split_ifs with brace
      · cases inner : readBraced ignoring (tail.length + 1) tail with
        | none => exact .none
        | some read =>
            rw [readBraced_length_continues tail more read.1 read.2 inner]
            dsimp only
            split_ifs with digits
            · exact .attach _ _ read.2
            · exact .none
      · rw [← List.cons_append]
        cases inner : readFixedHex ignoring width (d :: tail) with
        | none => exact .none
        | some read =>
            rw [readFixedHex_continues width (d :: tail) more read.1 read.2 inner]
            exact .attach _ _ read.2

theorem readProperty_continues (text more : Text) :
    Continues more (readProperty ignoring negated text)
      (readProperty ignoring negated (text ++ more)) := by
  rw [readProperty, readProperty]
  cases left : skip ignoring text with
  | nil => exact .none
  | cons d tail =>
      rw [skip_append left]
      simp only [List.cons_append]
      split_ifs with brace backslash
      · exact (readBraced_length_continues tail more).map
          fun name => ClassSet.property (queryOf name) negated
      · exact .none
      · exact .some _ tail

/-! ## Escapes -/

/-- What stands behind a pattern for whole subjects: the end of a group and of the subject. -/
def closing : Text := [')', '$']

theorem readEdge_continues (text : Text) :
    Continues closing (readEdge ignoring text) (readEdge ignoring (text ++ closing)) := by
  cases text with
  | nil => exact .some _ []
  | cons d tail =>
      by_cases brace : d = '\x7b'
      · subst brace
        rw [List.cons_append]
        simp only [readEdge]
        cases left : skip ignoring tail with
        | nil => exact .none
        | cons e further =>
            rw [skip_append left]
            simp only [List.cons_append]
            split_ifs with letter
            · simp only [readEdgeName_eq]
              cases run : readRun isEdgeLetter ignoring (further.length + 1) (e :: further) with
              | mk name behind =>
                  cases behind with
                  | nil => exact .none
                  | cons f after =>
                      have longer : readRun isEdgeLetter ignoring
                          ((further ++ closing).length + 1) (e :: (further ++ closing)) =
                            (name, f :: after ++ closing) :=
                        readRun_length_append (e :: further) closing run
                      rw [longer]
                      by_cases brace : f = '\x7d'
                      · subst brace
                        simp only [List.cons_append]
                        split
                        all_goals first | exact .some _ after | exact .none
                      · simp only [List.cons_append]
                        split <;> simp_all [Continues]
            · exact .some _ ('\x7b' :: tail)
      · have plain (more : Text) : readEdge ignoring (d :: more) = some (.wordEdge, d :: more) := by
          simp [readEdge, brace]
        rw [List.cons_append, plain, plain]
        exact .some _ (d :: tail)

theorem readEscape_continues (text : Text) :
    Continues closing (readEscape ignoring text) (readEscape ignoring (text ++ closing)) := by
  cases text with
  | nil => exact .none
  | cons c rest =>
      rw [List.cons_append]
      simp only [readEscape]
      split
      all_goals first
        | exact (readHex_continues _ rest closing).map _
        | exact (readProperty_continues rest closing).map _
        | exact (readEdge_continues rest).map _
        | exact .some _ rest
        | skip
      -- Every other character stands for itself, if it may stand behind a backslash at all.
      split_ifs
      · exact .some _ rest
      · exact .none

/-! ## Brackets -/

/-- Reads the name of an ASCII class, and the signs behind it. -/
def readClassName (negated : Bool) (text : Text) : Option (ClassSet × Text) :=
  match text.dropWhile (· != ':') with
  | ':' :: ']' :: after =>
      (asciiClass? (text.takeWhile (· != ':'))).map fun kind => (.ascii kind negated, after)
  | _ => none

theorem readClassName_append (text : Text) :
    readClassName negated (text ++ closing) =
      (readClassName negated text).map fun read => (read.1, read.2 ++ closing) := by
  unfold readClassName
  cases stop : text.dropWhile (· != ':') with
  | nil =>
      rw [List.dropWhile_append, stop]
      rfl
  | cons c rest =>
      rw [dropWhile_append_of_cons stop, takeWhile_append_of_cons stop]
      rcases rest with _ | ⟨d, after⟩
      · by_cases colon : c = ':'
        · subst colon
          rfl
        · simp [colon]
      · by_cases signs : c = ':' ∧ d = ']'
        · obtain ⟨rfl, rfl⟩ := signs
          simp [Function.comp_def]
        · have neither (after : Text) :
              (match c :: d :: after with
                | ':' :: ']' :: after =>
                    (asciiClass? (text.takeWhile (· != ':'))).map fun kind =>
                      (ClassSet.ascii kind negated, after)
                | _ => none) = none := by
            split <;> simp_all
          rw [List.cons_append, List.cons_append, neither, neither]
          rfl

theorem readAsciiClass_append (text : Text) :
    readAsciiClass (text ++ closing) =
      (readAsciiClass text).map fun read => (read.1, read.2 ++ closing) := by
  rcases text with _ | ⟨c, rest⟩
  · rfl
  by_cases colon : c = ':'
  · subst colon
    rcases rest with _ | ⟨d, after⟩
    · rfl
    by_cases caret : d = '^'
    · subst caret
      exact readClassName_append after
    · have plain (more : Text) :
          readAsciiClass (':' :: d :: more) = readClassName false (d :: more) := by
        simp only [readAsciiClass, List.cons.injEq, caret, false_and, imp_self, implies_true]
        rfl
      rw [List.cons_append, List.cons_append, plain, plain, ← List.cons_append,
        readClassName_append]
  · simp [readAsciiClass, colon]

/-- The negation of a bracket, and what follows it. -/
def bracketBody (ignoring : Bool) (text : Text) : Bool × Text :=
  match skip ignoring text with
  | '^' :: rest => (true, skip ignoring rest)
  | start => (false, start)

/-- Reads the items at the start of a bracket: minus signs, or else one closing bracket. -/
def openBody (ignoring negated : Bool) (body : Text) : Option (Bool × List ClassSet × Text) :=
  let (minuses, after) := readMinuses ignoring body.length body
  match minuses, after with
  | _, [] => none
  | [], ']' :: rest =>
      match skip ignoring rest with
      | [] => none
      | further => some (negated, [.literal ⟨']', false⟩], further)
  | _, _ => some (negated, minuses.reverse, after)

/-- The items at the start of a bracket, behind the minus signs. -/
def firstItems (ignoring : Bool) (minuses : List ClassSet) :
    Text → Option (List ClassSet × Text)
  | [] => none
  | c :: rest =>
      if minuses = [] ∧ c = ']' then
        if skip ignoring rest = [] then
          none
        else
          some ([.literal ⟨']', false⟩], skip ignoring rest)
      else
        some (minuses.reverse, c :: rest)

theorem openBody_eq (body : Text) :
    openBody ignoring negated body =
      let minuses := readMinuses ignoring body.length body
      (firstItems ignoring minuses.1 minuses.2).map fun read => (negated, read.1, read.2) := by
  unfold openBody
  obtain ⟨minuses, after⟩ := readMinuses ignoring body.length body
  dsimp only
  split
  · rfl
  · rename_i rest
    cases left : skip ignoring rest <;> simp [firstItems, left]
  · rename_i noEnd noBracket
    obtain ⟨c, rest, rfl⟩ := List.exists_cons_of_ne_nil noEnd
    have other : ¬ (minuses = [] ∧ c = ']') := by
      rintro ⟨rfl, rfl⟩
      exact noBracket rest rfl rfl
    simp [firstItems, other]

theorem openBracket_eq (text : Text) :
    openBracket ignoring text =
      openBody ignoring (bracketBody ignoring text).1 (bracketBody ignoring text).2 := by
  unfold openBracket bracketBody
  cases skip ignoring text with
  | nil => rfl
  | cons d tail =>
      by_cases caret : d = '^'
      · subst caret
        rfl
      · simp only [List.cons.injEq, caret, false_and, imp_self, implies_true]
        rfl

theorem bracketBody_append
    {c : Char}
    {text rest : Text}
    (body : bracketBody ignoring text = (negated, c :: rest))
    (more : Text) :
    bracketBody ignoring (text ++ more) = (negated, c :: rest ++ more) := by
  unfold bracketBody at body ⊢
  cases start : skip ignoring text with
  | nil => simp [start] at body
  | cons d tail =>
      rw [start] at body
      rw [skip_append start]
      by_cases caret : d = '^'
      · subst caret
        obtain ⟨rfl, stops⟩ := Prod.mk.inj body
        exact Prod.ext rfl (skip_append stops more)
      · simp_all

theorem firstItems_continues (minuses : List ClassSet) (text more : Text) :
    Continues more (firstItems ignoring minuses text)
      (firstItems ignoring minuses (text ++ more)) := by
  cases text with
  | nil => exact .none
  | cons c rest =>
      simp only [firstItems, List.cons_append]
      split_ifs with bracket ends endsLonger endsLonger
      · exact .none
      · exact .none
      · obtain ⟨d, tail, left⟩ := List.exists_cons_of_ne_nil ends
        rw [skip_append left] at endsLonger
        cases endsLonger
      · obtain ⟨d, tail, left⟩ := List.exists_cons_of_ne_nil ends
        rw [left, skip_append left]
        exact .some _ (d :: tail)
      · exact .some _ (c :: rest)

/-- The start of a bracket, in front of more text. -/
theorem openBracket_append
    {opened : Bool × List ClassSet × Text}
    {text : Text}
    (found : openBracket ignoring text = some opened) :
    openBracket ignoring (text ++ closing) =
      some (opened.1, opened.2.1, opened.2.2 ++ closing) := by
  simp only [openBracket_eq, openBody_eq, readMinuses_eq] at found ⊢
  cases body : bracketBody ignoring text with
  | mk negated rest =>
      simp only [body] at found
      obtain ⟨⟨items, after⟩, given, rfl⟩ := Option.map_eq_some_iff.1 found
      cases run : readRun (· == '-') ignoring rest.length rest with
      | mk minuses behind =>
          rw [run] at given
          -- Something is left behind the minus signs, and so something was there before them.
          cases behind with
          | nil => cases given
          | cons c tail =>
              cases rest with
              | nil => cases run
              | cons d rest =>
                  have longer := readRun_length_append (d :: rest) closing run
                  rw [bracketBody_append body]
                  simp only [longer, firstItems_continues _ (c :: tail) closing _ _ given]
                  rfl

theorem readMember_continues (text : Text) :
    Continues closing (readMember ignoring text) (readMember ignoring (text ++ closing)) := by
  cases text with
  | nil => exact .none
  | cons c rest =>
      by_cases backslash : c = '\\'
      · subst backslash
        exact readEscape_continues rest
      · have plain (more : Text) :
            readMember ignoring (c :: more) = some (.literal ⟨c, false⟩, more) := by
          simp [readMember]
        rw [List.cons_append, plain, plain]
        exact .some _ rest

/-- A member of a bracket that is an item of its own. -/
def loneItem (member : Escape) (after : Text) : Option (ClassSet × Text) :=
  match member with
  | .literal literal => some (.literal literal, after)
  | .oneOf members => some (members, after)
  | .place _ => none

/-- Reads the last character of a range that starts with a member of a bracket. -/
def readRange (ignoring : Bool) (member : Escape) (text : Text) : Option (ClassSet × Text) :=
  match member, readMember ignoring text with
  | .literal first, some (.literal last, further) =>
      if first.char ≤ last.char then some (.range first last, further) else none
  | _, _ => none

/-- Whether a minus sign in front of a text starts a range. -/
def startsRange (ignoring : Bool) (text : Text) : Prop :=
  ¬ (peekPastBlanks ignoring text = some ']' ∨ peekPastBlanks ignoring text = some '-')

theorem readItem_eq
    {member : Escape}
    {text after : Text}
    (read : readMember ignoring text = some (member, after)) :
    (skip ignoring after = [] → readItem ignoring text = none) ∧
      (∀ rest, skip ignoring after = '-' :: rest → startsRange ignoring rest →
        readItem ignoring text = readRange ignoring member (skip ignoring rest)) ∧
      (∀ d rest, skip ignoring after = d :: rest → (d = '-' → ¬ startsRange ignoring rest) →
        readItem ignoring text = loneItem member after) := by
  refine ⟨?_, ?_, ?_⟩
  · intro ends
    rw [readItem, read]
    simp [ends]
  · intro rest left starts
    simp only [readItem, read, left]
    rw [if_neg starts]
    cases skip ignoring rest with
    | nil => cases member <;> rfl
    | cons e more => rfl
  · intro d rest left alone
    simp only [readItem, read, left]
    split
    · rename_i impossible
      cases impossible
    · rename_i tail shape
      obtain ⟨rfl, rfl⟩ := List.cons.inj shape
      rw [if_pos (not_not.1 (alone rfl))]
      rfl
    · rfl

theorem loneItem_continues (member : Escape) (after more : Text) :
    Continues more (loneItem member after) (loneItem member (after ++ more)) := by
  cases member with
  | literal literal => exact .some _ after
  | oneOf members => exact .some _ after
  | place place => exact .none

theorem readRange_continues (member : Escape) (text : Text) :
    Continues closing (readRange ignoring member text)
      (readRange ignoring member (text ++ closing)) := by
  cases member with
  | literal first =>
      simp only [readRange]
      cases read : readMember ignoring text with
      | none => exact .none
      | some pair =>
          obtain ⟨last, further⟩ := pair
          rw [readMember_continues text last further read]
          cases last with
          | literal last =>
              dsimp only
              split_ifs
              · exact .some _ further
              · exact .none
          | oneOf members => exact .none
          | place place => exact .none
  | oneOf members => exact .none
  | place place => exact .none

/-- A minus sign starts a range in front of more text if it does, provided that a character
follows it or that it starts none. -/
theorem startsRange_append_iff
    {text : Text}
    (decided : skip ignoring text ≠ [] ∨ ¬ startsRange ignoring text)
    (more : Text) :
    startsRange ignoring (text ++ more) ↔ startsRange ignoring text := by
  have found : skip ignoring text ≠ [] ∨ ∃ c, peekPastBlanks ignoring text = some c ∧
      ¬ (Text.isBlank c = true ∨ c = '#') := by
    refine decided.imp_right fun none => ?_
    rcases not_not.1 none with next | next
    · exact ⟨_, next, by decide⟩
    · exact ⟨_, next, by decide⟩
  rw [startsRange, startsRange, peekPastBlanks_append found]

theorem readItem_continues (text : Text) :
    Continues closing (readItem ignoring text) (readItem ignoring (text ++ closing)) := by
  cases first : readMember ignoring text with
  | none =>
      rw [readItem, first]
      exact .none
  | some read =>
      obtain ⟨member, after⟩ := read
      obtain ⟨ends, range, alone⟩ := readItem_eq first
      obtain ⟨_, rangeLonger, aloneLonger⟩ := readItem_eq (readMember_continues text _ _ first)
      cases left : skip ignoring after with
      | nil =>
          rw [ends left]
          exact .none
      | cons d tail =>
          have leftLonger : skip ignoring (after ++ closing) = d :: (tail ++ closing) :=
            skip_append left closing
          by_cases starts : d = '-' ∧ startsRange ignoring tail
          · obtain ⟨rfl, starts⟩ := starts
            rw [range tail left starts]
            cases further : skip ignoring tail with
            | nil =>
                cases member <;> exact .none
            | cons e rest =>
                have startsLonger := (startsRange_append_iff (.inl (by simp [further])) closing).2
                  starts
                rw [rangeLonger _ leftLonger startsLonger, skip_append further]
                exact readRange_continues member (e :: rest)
          · rw [alone d tail left (not_and.1 starts)]
            rw [aloneLonger d _ leftLonger]
            · exact loneItem_continues member after closing
            · intro minus
              have never := not_and.1 starts minus
              rwa [startsRange_append_iff (.inr never)]

section ReadBracket

variable {fuel : Nat} {stack : List SetFrame} {items : List ClassSet} {text rest : Text}

/-- The sign that an operator is written with, twice. -/
def SetOperator.sign : SetOperator → Char
  | .inter => '&'
  | .diff => '-'
  | .symmDiff => '~'

/-- Reads a bracket inside brackets that are already open. -/
def readNested
    (ignoring : Bool)
    (fuel : Nat)
    (stack : List SetFrame)
    (items : List ClassSet)
    (text : Text) :
    Option (ClassSet × Text) :=
  match openBracket ignoring text with
  | some (negated, start, after) =>
      readBracket ignoring fuel (.opened items negated :: stack) start after
  | none => none

theorem readBracket_of_end (left : skip ignoring text = []) :
    readBracket ignoring (fuel + 1) stack items text = none := by
  rw [readBracket, left]

theorem readBracket_of_opening (left : skip ignoring text = '[' :: rest) :
    readBracket ignoring (fuel + 1) stack items text =
      if stack.isEmpty then
        readNested ignoring fuel stack items rest
      else
        match readAsciiClass rest with
        | some (named, after) => readBracket ignoring fuel stack (named :: items) after
        | none => readNested ignoring fuel stack items rest := by
  rw [readBracket, left]
  rfl

theorem readBracket_of_closing (left : skip ignoring text = ']' :: rest) :
    readBracket ignoring (fuel + 1) stack items text =
      match closeOperator (ClassSet.ofItems items.reverse) stack with
      | (body, .opened outer negated :: below) =>
          if below.isEmpty then
            some (.bracketed negated body, rest)
          else
            readBracket ignoring fuel below (.bracketed negated body :: outer) rest
      | _ => none := by
  rw [readBracket, left]
  rfl

theorem readBracket_of_operator
    {operator : SetOperator}
    (left : skip ignoring text = operator.sign :: operator.sign :: rest) :
    readBracket ignoring (fuel + 1) stack items text =
      let closed := closeOperator (ClassSet.ofItems items.reverse) stack
      readBracket ignoring fuel (.operator operator closed.1 :: closed.2) [] rest := by
  rw [readBracket, left]
  cases operator <;> rfl

theorem readBracket_of_item
    {d : Char}
    (left : skip ignoring text = d :: rest)
    (noBracket : d ≠ '[' ∧ d ≠ ']')
    (noOperator : ∀ (operator : SetOperator) tail,
      d :: rest ≠ operator.sign :: operator.sign :: tail) :
    readBracket ignoring (fuel + 1) stack items text =
      match readItem ignoring (d :: rest) with
      | some (item, after) => readBracket ignoring fuel stack (item :: items) after
      | none => none := by
  rw [readBracket, left]
  split
  case h_1 impossible => cases impossible
  case h_2 shape => exact absurd (List.cons.inj shape).1 noBracket.1
  case h_3 shape => exact absurd (List.cons.inj shape).1 noBracket.2
  case h_4 shape => exact absurd shape (noOperator .inter _)
  case h_5 shape => exact absurd shape (noOperator .diff _)
  case h_6 shape => exact absurd shape (noOperator .symmDiff _)
  case h_7 => rfl

end ReadBracket

/-- A bracket ends where it ends in every longer text. -/
theorem readBracket_continues
    {fuel longer : Nat}
    (enough : fuel ≤ longer)
    (stack : List SetFrame)
    (items : List ClassSet)
    (text : Text) :
    Continues closing (readBracket ignoring fuel stack items text)
      (readBracket ignoring longer stack items (text ++ closing)) := by
  induction fuel generalizing longer stack items text with
  | zero => exact .none
  | succ fuel hypothesis =>
      obtain ⟨longer, rfl⟩ : ∃ less, longer = less + 1 := ⟨longer - 1, by omega⟩
      have further := fun stack items text =>
        hypothesis (Nat.le_of_succ_le_succ enough) stack items text
      have nested (start : Text) : Continues closing
          (readNested ignoring fuel stack items start)
          (readNested ignoring longer stack items (start ++ closing)) := by
        unfold readNested
        cases opened : openBracket ignoring start with
        | none => exact .none
        | some opening =>
            rw [openBracket_append opened]
            exact further _ _ _
      cases left : skip ignoring text with
      | nil =>
          rw [readBracket_of_end left]
          exact .none
      | cons d tail =>
          have leftLonger : skip ignoring (text ++ closing) = d :: (tail ++ closing) :=
            skip_append left closing
          by_cases opening : d = '['
          · subst opening
            rw [readBracket_of_opening left, readBracket_of_opening leftLonger]
            split_ifs
            · exact nested tail
            · rw [readAsciiClass_append]
              cases readAsciiClass tail with
              | none => exact nested tail
              | some named => exact further _ _ _
          by_cases ending : d = ']'
          · subst ending
            rw [readBracket_of_closing left, readBracket_of_closing leftLonger]
            split
            · split_ifs
              · exact .some _ tail
              · exact further _ _ _
            · exact .none
          by_cases combines :
            ∃ (operator : SetOperator) (rest : Text),
              d :: tail = operator.sign :: operator.sign :: rest
          · obtain ⟨operator, rest, shape⟩ := combines
            obtain ⟨rfl, rfl⟩ := List.cons.inj shape
            rw [List.cons_append] at leftLonger
            rw [readBracket_of_operator left, readBracket_of_operator leftLonger]
            exact further _ _ rest
          · have noOperator : ∀ (operator : SetOperator) (rest : Text),
                d :: tail ≠ operator.sign :: operator.sign :: rest :=
              fun operator rest shape => combines ⟨operator, rest, shape⟩
            have noOperatorLonger : ∀ (operator : SetOperator) (rest : Text),
                d :: (tail ++ closing) ≠ operator.sign :: operator.sign :: rest := by
              intro operator rest shape
              obtain ⟨same, shape⟩ := List.cons.inj shape
              cases tail with
              | nil =>
                  have next : ')' = operator.sign := (List.cons.inj shape).1
                  cases operator <;> simp [SetOperator.sign] at next
              | cons e tail =>
                  have next : e = operator.sign := (List.cons.inj shape).1
                  exact noOperator operator tail (by rw [same, next])
            rw [readBracket_of_item left ⟨opening, ending⟩ noOperator,
              readBracket_of_item leftLonger ⟨opening, ending⟩ noOperatorLonger]
            cases item : readItem ignoring (d :: tail) with
            | none => exact .none
            | some read =>
                rw [← List.cons_append, readItem_continues (d :: tail) read.1 read.2 item]
                exact further _ _ _

end Pattern
end PageCheck
