import PageCheck.Proofs.Pattern.Continuation

/-!
# Parts of patterns

A pattern is read part by part.  Where a part ends and what it says depends on what was read
before only through whether layout is ignored; adding the part to what was read is a step of its
own.  A part that is read in front of nothing is read in front of the end of a group as well.
-/

namespace PageCheck
namespace Pattern

variable {ignoring : Bool} {text rest after : Text}

/-! ## In front of the end of a group -/

/-- An open comment swallows the end of the group. -/
theorem layout_append_closing_of_nil
    {cut : Bool}
    (ends : layout ignoring text = ([], cut)) :
    layout ignoring (text ++ closing) = if cut then ([], true) else (closing, false) := by
  have stays : layout ignoring closing = (closing, false) := by
    cases ignoring <;> rfl
  rw [layout_append_of_nil ends, stays]
  rfl

/-- Behind the text, layout is skipped up to the end of the group, or a comment goes on. -/
theorem skip_append_closing_of_nil (left : skip ignoring text = []) :
    skip ignoring (text ++ closing) = [] ∨ skip ignoring (text ++ closing) = closing := by
  rw [skip_eq] at left
  have ends : layout ignoring text = ([], (layout ignoring text).2) := Prod.ext left rfl
  rw [skip_eq, layout_append_closing_of_nil ends]
  cases (layout ignoring text).2 with
  | true => exact .inl rfl
  | false => exact .inr rfl

/-! ## Repetitions -/

/-- The text behind a question mark that makes a counted repetition lazy. -/
def dropLazyPast (ignoring : Bool) (text : Text) : Text :=
  match skip ignoring text with
  | '?' :: lazily => lazily
  | _ => text

theorem dropLazyPast_append (text : Text) :
    dropLazyPast ignoring (text ++ closing) = dropLazyPast ignoring text ++ closing := by
  cases left : skip ignoring text with
  | nil =>
      rcases skip_append_closing_of_nil left with longer | longer
      · simp [dropLazyPast, left, longer]
      · rw [dropLazyPast, dropLazyPast, left, longer]
        rfl
  | cons d tail =>
      by_cases lazy : d = '?'
      · subst lazy
        simp [dropLazyPast, left, skip_append left]
      · simp [dropLazyPast, left, skip_append left, lazy]

/-- Ends a counted repetition. -/
def endRepetition (ignoring : Bool) (least : Nat) (most : Option Nat) (text : Text) :
    Option (Nat × Option Nat × Text) :=
  match text with
  | '\x7d' :: after =>
      if most.all fun most => least ≤ most then
        some (least, most, dropLazyPast ignoring after)
      else
        none
  | _ => none

/-- Reads the greatest count of a repetition behind its comma. -/
def readMost (ignoring : Bool) (least : Nat) (text : Text) : Option (Nat × Option Nat × Text) :=
  match skip ignoring text with
  | '\x7d' :: after => endRepetition ignoring least none ('\x7d' :: after)
  | more =>
      match readCount ignoring more with
      | some (some most, after) => endRepetition ignoring least (some most) after
      | _ => none

theorem readRepetition_eq (text : Text) :
    readRepetition ignoring text =
      match readCount ignoring (skip ignoring text) with
      | some (some least, ',' :: rest) => readMost ignoring least rest
      | some (some least, rest) => endRepetition ignoring least (some least) rest
      | _ => none := by
  rfl

section Repetition

variable {least : Nat} {most : Option Nat} {read : Nat × Option Nat × Text}

theorem endRepetition_append
    (found : endRepetition ignoring least most text = some read) :
    endRepetition ignoring least most (text ++ closing) =
      some (read.1, read.2.1, read.2.2 ++ closing) := by
  rcases text with _ | ⟨c, after⟩
  · cases found
  by_cases brace : c = '\x7d'
  · subst brace
    simp only [endRepetition, List.cons_append] at found ⊢
    split_ifs at found ⊢ with ordered
    cases found
    rw [dropLazyPast_append]
  · simp [endRepetition, brace] at found

@[simp] theorem readCount_nil : readCount ignoring [] = some (none, []) := by
  simp [readCount, readDigits]

theorem readMost_of_count
    {c : Char}
    (left : skip ignoring text = c :: rest)
    (counts : c ≠ '\x7d') :
    readMost ignoring least text =
      match readCount ignoring (c :: rest) with
      | some (some most, after) => endRepetition ignoring least (some most) after
      | _ => none := by
  unfold readMost
  rw [left]
  split
  case h_1 shape => exact absurd (List.cons.inj shape).1 counts
  case h_2 => rfl

theorem readRepetition_of_single
    {c : Char}
    (counted : readCount ignoring (skip ignoring text) = some (some least, c :: rest))
    (single : c ≠ ',') :
    readRepetition ignoring text = endRepetition ignoring least (some least) (c :: rest) := by
  rw [readRepetition_eq, counted]
  split
  case h_1 shape =>
    cases shape
    cases single rfl
  case h_2 shape =>
    cases shape
    rfl
  case h_3 impossible => exact absurd rfl (impossible _ _)

theorem readMost_append
    (found : readMost ignoring least text = some read) :
    readMost ignoring least (text ++ closing) =
      some (read.1, read.2.1, read.2.2 ++ closing) := by
  cases left : skip ignoring text with
  | nil => simp [readMost, left] at found
  | cons c rest =>
      by_cases brace : c = '\x7d'
      · subst brace
        rw [readMost, left] at found
        rw [readMost, skip_append left]
        exact endRepetition_append found
      · rw [readMost_of_count left brace] at found
        rw [readMost_of_count (skip_append left closing) brace]
        cases counted : readCount ignoring (c :: rest) with
        | none => simp [counted] at found
        | some pair =>
            rcases pair with ⟨_ | most, _ | ⟨d, more⟩⟩
            · simp [counted] at found
            · simp [counted] at found
            · simp [counted, endRepetition] at found
            · rw [counted] at found
              have longer : readCount ignoring (c :: (rest ++ closing)) =
                  some (some most, d :: more ++ closing) :=
                readCount_append counted closing
              simp only [List.append_eq, longer]
              exact endRepetition_append found

theorem readRepetition_append
    (found : readRepetition ignoring text = some read) :
    readRepetition ignoring (text ++ closing) =
      some (read.1, read.2.1, read.2.2 ++ closing) := by
  cases left : skip ignoring text with
  | nil => simp [readRepetition_eq, left] at found
  | cons c rest =>
      cases counted : readCount ignoring (c :: rest) with
      | none => simp [readRepetition_eq, left, counted] at found
      | some pair =>
          rcases pair with ⟨_ | least, _ | ⟨d, more⟩⟩
          · simp [readRepetition_eq, left, counted] at found
          · simp [readRepetition_eq, left, counted] at found
          · simp [readRepetition_eq, left, counted, endRepetition] at found
          · have longer : readCount ignoring (skip ignoring (text ++ closing)) =
                some (some least, d :: more ++ closing) := by
              rw [skip_append left, readCount_append counted]
            rw [← left] at counted
            by_cases comma : d = ','
            · subst comma
              rw [readRepetition_eq, counted] at found
              rw [readRepetition_eq, longer]
              exact readMost_append found
            · rw [readRepetition_of_single counted comma] at found
              rw [readRepetition_of_single longer comma]
              exact endRepetition_append found

end Repetition

/-! ## Groups -/

theorem readFlags_append
    {seen settings : Settings}
    {negative dangling : Bool}
    {c : Char}
    (found : readFlags seen negative dangling text = some (settings, c, after))
    (more : Text) :
    readFlags seen negative dangling (text ++ more) = some (settings, c, after ++ more) := by
  induction text generalizing seen negative dangling with
  | nil => cases found
  | cons d tail hypothesis =>
      rw [List.cons_append]
      simp only [readFlags] at found ⊢
      split_ifs at found ⊢
      · cases found
        rfl
      · exact hypothesis found
      · cases letter : flag? d with
        | none => simp [letter] at found
        | some flag =>
            simp only [letter] at found ⊢
            split_ifs at found ⊢
            exact hypothesis found

theorem readGroupName_continues (name text more : Text) :
    Continues more (readGroupName name text) (readGroupName name (text ++ more)) := by
  induction text generalizing name with
  | nil => exact .none
  | cons d tail hypothesis =>
      rw [List.cons_append]
      simp only [readGroupName]
      split_ifs
      · exact .none
      · exact .some name tail
      · exact hypothesis _
      · exact .none

/-- Reads the flags of a group, or settings of flags. -/
def readGroupFlags (text : Text) : Option (Opening × Text) :=
  match readFlags [] false false text with
  | some (settings, ')', after) =>
      if settings.isEmpty then none else some (.settings settings, after)
  | some (settings, _, after) => some (.group false settings, after)
  | none => none

theorem readGroupFlags_continues (text more : Text) :
    Continues more (readGroupFlags text) (readGroupFlags (text ++ more)) := by
  unfold readGroupFlags
  cases read : readFlags [] false false text with
  | none => exact .none
  | some flags =>
      obtain ⟨settings, c, after⟩ := flags
      rw [readFlags_append read]
      by_cases ends : c = ')'
      · subst ends
        simp only
        split_ifs
        · exact .none
        · exact .some _ after
      · simp only
        exact .some _ after

/-- Reads what follows a question mark at the start of a group. -/
def readGroupHead : Text → Option (Opening × Text)
  | '=' :: _ => none
  | '!' :: _ => none
  | '<' :: '=' :: _ => none
  | '<' :: '!' :: _ => none
  | 'P' :: '<' :: rest => (readGroupName [] rest).map fun read => (.named read.1, read.2)
  | '<' :: rest => (readGroupName [] rest).map fun read => (.named read.1, read.2)
  | rest => readGroupFlags rest

theorem readOpening_of_question (left : skip ignoring text = '?' :: rest) :
    readOpening ignoring text = readGroupHead rest := by
  rw [readOpening, left]
  split
  case h_7 shape =>
    cases shape
    have flags : readGroupHead rest = readGroupFlags rest := by simp_all [readGroupHead]
    rw [flags]
    rfl
  all_goals simp_all [readGroupHead]

theorem readOpening_of_plain
    {c : Char}
    (left : skip ignoring text = c :: rest)
    (plain : c ≠ '?') :
    readOpening ignoring text = some (.group true [], c :: rest) := by
  rw [readOpening, left]
  simp [plain]

theorem readGroupHead_of_angle
    {d : Char}
    (noLook : ¬ (d = '=' ∨ d = '!')) :
    readGroupHead ('<' :: d :: rest) =
      (readGroupName [] (d :: rest)).map fun read => (.named read.1, read.2) := by
  simp [readGroupHead, not_or.1 noLook]

theorem readGroupHead_of_flags
    {c : Char}
    (noLook : ¬ (c = '=' ∨ c = '!'))
    (noName : c ≠ '<' ∧ c ≠ 'P') :
    readGroupHead (c :: rest) = readGroupFlags (c :: rest) := by
  simp [readGroupHead, not_or.1 noLook, noName]

theorem readGroupHead_continues (text : Text) :
    Continues closing (readGroupHead text) (readGroupHead (text ++ closing)) := by
  rcases text with _ | ⟨c, rest⟩
  · exact .none
  by_cases look : c = '=' ∨ c = '!'
  · rcases look with rfl | rfl
    · exact .none
    · exact .none
  by_cases angle : c = '<'
  · subst angle
    rcases rest with _ | ⟨d, rest⟩
    · exact .none
    by_cases behind : d = '=' ∨ d = '!'
    · rcases behind with rfl | rfl
      · exact .none
      · exact .none
    · rw [List.cons_append, List.cons_append, readGroupHead_of_angle behind,
        readGroupHead_of_angle behind]
      exact (readGroupName_continues [] (d :: rest) closing).map _
  by_cases letter : c = 'P'
  · subst letter
    rcases rest with _ | ⟨d, rest⟩
    · exact .none
    by_cases angled : d = '<'
    · subst angled
      exact (readGroupName_continues [] rest closing).map _
    · have noFlag : readGroupHead ('P' :: d :: rest) = none := by
        have flags : readGroupHead ('P' :: d :: rest) = readGroupFlags ('P' :: d :: rest) := by
          simp [readGroupHead, angled]
        rw [flags]
        rfl
      rw [noFlag]
      exact .none
  · rw [List.cons_append, readGroupHead_of_flags look ⟨angle, letter⟩,
      readGroupHead_of_flags look ⟨angle, letter⟩]
    exact readGroupFlags_continues (c :: rest) closing

/-- Whether an opening parenthesis starts a group. -/
def Opening.isGroup : Opening → Bool
  | .settings _ => false
  | _ => true

/-- An opening is the same in front of the end of a group, unless it starts a group and nothing
is left behind it. -/
theorem readOpening_append
    {opening : Opening}
    (found : readOpening ignoring text = some (opening, after))
    (inside : after = [] → opening.isGroup = false) :
    readOpening ignoring (text ++ closing) = some (opening, after ++ closing) := by
  cases left : skip ignoring text with
  | nil =>
      rw [readOpening, left] at found
      cases found
      cases inside rfl
  | cons d tail =>
      by_cases question : d = '?'
      · subst question
        rw [readOpening_of_question left] at found
        rw [readOpening_of_question (skip_append left closing)]
        exact readGroupHead_continues tail _ _ found
      · rw [readOpening_of_plain left question] at found
        rw [readOpening_of_plain (skip_append left closing) question]
        cases found
        rfl

/-! ## Parts -/

/-- A part of a pattern, apart from what surrounds it. -/
inductive Part
  | item (node : Node)
  | opening (opening : Opening)
  | closing
  | bar
  | repetition (least : Nat) (most : Option Nat)

/-- Whether a part starts a group. -/
def Part.startsGroup : Part → Bool
  | .opening start => start.isGroup
  | _ => false

/-- The tree of an escape. -/
def Escape.node : Escape → Node
  | Escape.literal written => Node.literal written
  | Escape.oneOf members => Node.oneOf members
  | Escape.place kind => Node.place kind

/-- Reads the text of a part. -/
def scanPart (ignoring : Bool) : Text → Option (Part × Text)
  | [] => none
  | '(' :: rest => (readOpening ignoring rest).map fun read => (.opening read.1, read.2)
  | ')' :: rest => some (.closing, rest)
  | '|' :: rest => some (.bar, rest)
  | '[' :: rest =>
      (readBracket ignoring (2 * rest.length + 2) [] [] ('[' :: rest)).map fun read =>
        (.item (.oneOf read.1), read.2)
  | '?' :: rest => some (.repetition 0 (some 1), dropLazy rest)
  | '*' :: rest => some (.repetition 0 none, dropLazy rest)
  | '+' :: rest => some (.repetition 1 none, dropLazy rest)
  | '\x7b' :: rest =>
      (readRepetition ignoring rest).map fun read => (.repetition read.1 read.2.1, read.2.2)
  | '\\' :: rest => (readEscape ignoring rest).map fun read => (.item read.1.node, read.2)
  | '.' :: rest => some (.item .anyChar, rest)
  | '^' :: rest => some (.item (.place .lineStart), rest)
  | '$' :: rest => some (.item (.place .lineEnd), rest)
  | c :: rest => some (.item (.literal ⟨c, false⟩), rest)

/-- Adds a part to what has been read. -/
def ReaderState.add? (state : ReaderState) : Part → Option ReaderState
  | .item node => some (state.push node)
  | .opening (.settings changes) =>
      some { state.push (.settings changes) with
        ignoring := (changes.state? .ignoreBlanks).getD state.ignoring }
  | .opening (.group captures changes) => some (state.openGroup captures changes)
  | .opening (.named name) =>
      if state.names.contains name then
        none
      else
        some { state.openGroup true [] with names := name :: state.names }
  | .closing => state.closeGroup?
  | .bar =>
      some { state with
        branches := Node.ofItems state.items.reverse :: state.branches
        items := [] }
  | .repetition least most => state.repeatLast? least most

/-- Reading a part is reading its text and adding it. -/
theorem readPart_eq (state : ReaderState) (text : Text) :
    readPart state text =
      (scanPart state.ignoring text).bind fun read =>
        (state.add? read.1).map fun next => (next, read.2) := by
  unfold readPart
  split
  case h_2 rest =>
    simp only [scanPart]
    cases readOpening state.ignoring rest with
    | none => rfl
    | some read =>
        obtain ⟨opening, after⟩ := read
        cases opening with
        | settings changes => rfl
        | group captures changes => rfl
        | named name =>
            simp only [Option.map_some, Option.bind_some, ReaderState.add?]
            split_ifs <;> rfl
  case h_5 rest =>
    simp only [scanPart]
    cases readBracket state.ignoring (2 * rest.length + 2) [] [] ('[' :: rest) <;> rfl
  case h_9 rest =>
    simp only [scanPart]
    cases readRepetition state.ignoring rest <;> rfl
  case h_10 rest =>
    simp only [scanPart]
    cases readEscape state.ignoring rest with
    | none => rfl
    | some read =>
        obtain ⟨escape, after⟩ := read
        cases escape <;> rfl
  case h_14 => simp_all [scanPart, ReaderState.add?]
  all_goals rfl

theorem readPart_eq_some_iff
    {state next : ReaderState} :
    readPart state text = some (next, after) ↔
      ∃ part, scanPart state.ignoring text = some (part, after) ∧
        state.add? part = some next := by
  rw [readPart_eq, Option.bind_eq_some_iff]
  constructor
  · rintro ⟨⟨part, rest⟩, scanned, more⟩
    obtain ⟨added, adds, same⟩ := Option.map_eq_some_iff.1 more
    cases same
    exact ⟨part, scanned, adds⟩
  · rintro ⟨part, scanned, adds⟩
    exact ⟨(part, after), scanned, by simp [adds]⟩

theorem dropLazy_append (text : Text) :
    dropLazy (text ++ closing) = dropLazy text ++ closing := by
  cases text with
  | nil => rfl
  | cons c rest =>
      by_cases lazy : c = '?'
      · subst lazy
        rfl
      · simp [dropLazy, lazy]

/-- A part is the same in front of the end of a group, unless it starts a group and nothing is
left behind it. -/
theorem scanPart_append
    {part : Part}
    (found : scanPart ignoring text = some (part, after))
    (inside : after = [] → part.startsGroup = false) :
    scanPart ignoring (text ++ closing) = some (part, after ++ closing) := by
  unfold scanPart at found
  split at found
  case h_1 => cases found
  case h_2 rest =>
    obtain ⟨read, opened, same⟩ := Option.map_eq_some_iff.1 found
    cases same
    simp only [List.cons_append, scanPart, readOpening_append opened inside]
    rfl
  case h_5 rest =>
    have enough : 2 * rest.length + 2 ≤ 2 * (rest ++ closing).length + 2 := by
      rw [List.length_append]
      omega
    exact (readBracket_continues enough [] [] ('[' :: rest)).map
      (fun members => Part.item (.oneOf members)) _ _ found
  case h_9 rest =>
    obtain ⟨read, repeats, same⟩ := Option.map_eq_some_iff.1 found
    cases same
    simp only [List.cons_append, scanPart, readRepetition_append repeats]
    rfl
  case h_10 rest =>
    exact (readEscape_continues rest).map (fun escape => Part.item escape.node) _ _ found
  case h_14 =>
    cases found
    simp_all [scanPart]
  all_goals
    cases found
    simp only [List.cons_append, scanPart, dropLazy_append]

/-! ## Reading part by part -/

section ReadParts

variable {fuel : Nat} {state : ReaderState} {text rest : Text} {c : Char} {cut : Bool}

theorem readParts_of_end (ends : layout state.ignoring text = ([], cut)) :
    readParts (fuel + 1) state text =
      if state.stack.isEmpty then some ⟨state.body, cut⟩ else none := by
  unfold layout at ends
  simp only [readParts, ends]

theorem readParts_of_part (left : layout state.ignoring text = (c :: rest, cut)) :
    readParts (fuel + 1) state text =
      (readPart state (c :: rest)).bind fun read => readParts fuel read.1 read.2 := by
  unfold layout at left
  simp only [readParts, left]
  cases readPart state (c :: rest) <;> rfl

end ReadParts

end Pattern
end PageCheck
