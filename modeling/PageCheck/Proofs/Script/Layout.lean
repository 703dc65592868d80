import PageCheck.Proofs.Script.Relocation

/-!
# Layout of test files

A line acts through its first word and the trimmed rest behind it, and a blank line does
nothing.  The blanks of a line apart from those inside its rest can thus be chosen freely,
lines can end in either way, and blank lines can be put between them: only the numbers of
the lines, which are the places in the result, are moved by them.
-/

namespace PageCheck

/-! ## Lines with other blanks -/

/-- A line in another layout: its first word and the trimmed rest behind it with any blanks
in front of, between and behind them.  There are blanks between them exactly if there is a
rest. -/
inductive Text.Respaced (line other : Text) : Prop
  | intro
      {front between behind : Text}
      (blankFront : ∀ c ∈ front, isBlank c = true)
      (blankBetween : ∀ c ∈ between, isBlank c = true)
      (blankBehind : ∀ c ∈ behind, isBlank c = true)
      (apart : between = [] ↔ trim (afterFirstWord (trim line)) = [])
      (shape : other = front ++ firstWord (trim line) ++ between ++
        trim (afterFirstWord (trim line)) ++ behind)

namespace Text

theorem firstWord_visible (text : Text) :
    ∀ c ∈ firstWord text, isBlank c = false := by
  intro c inside
  simpa using List.mem_takeWhile_imp inside

/-- A text that starts visibly has a first word. -/
theorem firstWord_ne_nil
    {text : Text}
    (trimmed : IsTrimmed text)
    (filled : text ≠ []) :
    firstWord text ≠ [] := by
  obtain ⟨c, rest, rfl⟩ := List.exists_cons_of_ne_nil filled
  have visible := trimmed.1 c rfl
  simp [firstWord, visible]

variable {word between rest : Text}

/-- A word and a trimmed rest with blanks between them make a trimmed text. -/
theorem isTrimmed_word_rest
    (visible : ∀ c ∈ word, isBlank c = false)
    (filled : word ≠ [])
    (apart : between = [] ↔ rest = [])
    (trimmed : IsTrimmed rest) :
    IsTrimmed (word ++ between ++ rest) := by
  obtain ⟨c, more, rfl⟩ := List.exists_cons_of_ne_nil filled
  by_cases bare : rest = []
  · rw [apart.2 bare, bare, List.append_nil, List.append_nil]
    exact isTrimmed_of_visible visible
  · refine ⟨?_, ?_⟩
    · rintro d ⟨⟩
      exact visible c List.mem_cons_self
    · rw [List.getLast?_append_of_ne_nil _ bare]
      exact trimmed.2

/-- A word and a trimmed rest with blanks between them are split into the two again. -/
theorem splitKeyword_word_rest
    (visible : ∀ c ∈ word, isBlank c = false)
    (blank : ∀ c ∈ between, isBlank c = true)
    (apart : between = [] ↔ rest = [])
    (trimmed : IsTrimmed rest) :
    Reader.splitKeyword (word ++ between ++ rest) = (word, rest) := by
  rw [Reader.splitKeyword]
  cases between with
  | nil =>
      rw [apart.1 rfl, List.append_nil, List.append_nil, firstWord_eq_self visible,
        afterFirstWord_eq_nil visible, trim_nil]
  | cons c more =>
      have gone := trim_append_append_of_blank blank (List.forall_mem_nil _) rest
      rw [List.append_nil, List.cons_append, trimmed.trim_eq] at gone
      rw [List.append_assoc, List.cons_append]
      rw [List.forall_mem_cons] at blank
      rw [firstWord_append_cons visible blank.1, afterFirstWord_append_cons visible blank.1, gone]

/-- In another layout, a line is as blank as before and has the same first word and the same
rest. -/
theorem Respaced.splitKeyword_eq
    {line other : Text}
    (respaced : Respaced line other) :
    (trim other = [] ↔ trim line = []) ∧
      Reader.splitKeyword (trim other) = Reader.splitKeyword (trim line) := by
  obtain @⟨front, between, behind, blankFront, blankBetween, blankBehind, apart, shape⟩ :=
    respaced
  have inner : trim other = trim (firstWord (trim line) ++ between ++
      trim (afterFirstWord (trim line))) := by
    have gone := trim_append_append_of_blank blankFront blankBehind
      (firstWord (trim line) ++ between ++ trim (afterFirstWord (trim line)))
    rw [← gone, shape]
    simp only [List.append_assoc]
  have trimmed := isTrimmed_trim (afterFirstWord (trim line))
  by_cases hollow : trim line = []
  · rw [hollow] at inner apart ⊢
    rw [apart.2 rfl] at inner
    rw [inner]
    exact ⟨Iff.rfl, rfl⟩
  · have visible := firstWord_visible (trim line)
    have filled := firstWord_ne_nil (isTrimmed_trim line) hollow
    rw [(isTrimmed_word_rest visible filled apart trimmed).trim_eq] at inner
    rw [inner]
    constructor
    · simp [filled, hollow]
    · exact splitKeyword_word_rest visible blankBetween apart trimmed

/-- Every line is in a layout of its own. -/
theorem Respaced.refl (line : Text) : Respaced line line := by
  obtain ⟨front, behind, outer, blankFront, blankBehind⟩ := exists_blanks_trim line
  obtain ⟨between, tail, inner, blankBetween, blankTail⟩ :=
    exists_blanks_trim (afterFirstWord (trim line))
  have whole := firstWord_append_afterFirstWord (trim line)
  have trimmed := isTrimmed_trim line
  rw [← whole, inner, ← List.append_assoc] at trimmed
  cases trimmed.eq_nil_of_blank blankTail
  rw [List.append_nil] at inner
  refine .intro blankFront blankBetween blankBehind ?_ ?_
  · constructor
    · rintro rfl
      rw [List.nil_append] at inner
      cases after : afterFirstWord (trim line) with
      | nil => rfl
      | cons c rest =>
          have blank := head?_afterFirstWord_blank (trim line) c (by rw [after]; rfl)
          have visible := (isTrimmed_trim (afterFirstWord (trim line))).1 c
            (by rw [← inner, after]; rfl)
          rw [blank] at visible
          cases visible
    · intro bare
      rw [bare, List.append_nil, List.append_nil] at trimmed
      exact trimmed.eq_nil_of_blank blankBetween
  · rw [List.append_assoc front, List.append_assoc front, List.append_assoc (firstWord _),
      ← inner, whole]
    exact outer

end Text

/-! ## Reading lines with other blanks -/

namespace Reader

variable {files : FileSystem} {path : Text} {reader : Reader} {line other : Text}

/-- A step over a line in another layout leads to the same reader. -/
theorem step_respaced
    (number : Nat)
    (respaced : Text.Respaced line other) :
    reader.step files path (other, number) = reader.step files path (line, number) := by
  obtain ⟨hollow, same⟩ := respaced.splitKeyword_eq
  by_cases blank : Text.trim line = []
  · rw [step_of_blank (hollow.2 blank), step_of_blank blank]
  · apply step_congr (mt hollow.1 blank) blank
    · rw [isRequestLine, isRequestLine, same]
    · simp only [accept, lineEffect, same]

/-- Reading lines in another layout leads to the same reader. -/
theorem readFrom_respaced
    {lines others : List Text}
    (number : Nat)
    (respaced : List.Forall₂ Text.Respaced lines others) :
    reader.readFrom files path number others = reader.readFrom files path number lines := by
  induction respaced generalizing reader number with
  | nil => rfl
  | cons first later hypothesis =>
      rw [readFrom_cons, readFrom_cons, step_respaced number first, hypothesis]

end Reader

namespace Script

variable {files : FileSystem} {path : Text} {scope : Variables}

/-- Reading a text is reading its lines, whatever their ends. -/
theorem ofContent_of_hasLines
    {content : Text}
    {lines : List Text}
    (shows : Text.HasLines content lines) :
    ofContent files path scope content = ofLines files path scope lines := by
  obtain ⟨hollow, shown, empty⟩ := shows.map_trim_lines
  have blank : ∀ line ∈ hollow, Text.trim line = [] := by
    intro line inside
    rw [empty line inside, Text.trim_nil]
  have kept : hollow.map Text.trim = hollow := by
    rw [List.map_congr_left fun line inside => (blank line inside).trans (empty line inside).symm,
      List.map_id']
  rw [← kept, ← List.map_append] at shown
  have same := Reader.readFrom_congr_trim files path { scope } 1 shown
  rw [Reader.readFrom_append, Reader.readFrom_of_blank _ blank] at same
  simp only [ofContent, ofLines, Reader.readLines_eq_readFrom, same]

/-- The layout of a file does not matter.  With other blanks around and behind the first words
of its lines and with other line ends, the result is the same, and a blank line that is
inserted anywhere only pushes down the places behind it. -/
theorem ofContent_layout
    (files : FileSystem)
    (path : Text)
    (scope : Variables) :
    (∀ {content other : Text} {lines others : List Text},
      Text.HasLines content lines →
      Text.HasLines other others →
      List.Forall₂ Text.Respaced lines others →
      ofContent files path scope other = ofContent files path scope content) ∧
    ∀ {content other hollow : Text} {front back : List Text},
      Text.HasLines content (front ++ back) →
      Text.HasLines other (front ++ hollow :: back) →
      (∀ c ∈ hollow, Text.isBlank c = true) →
      ofContent files path scope other =
        (ofContent files path scope content).relocate (Location.pushPast front.length) := by
  constructor
  · intro content other lines others shows showsOther respaced
    rw [ofContent_of_hasLines shows, ofContent_of_hasLines showsOther, ofLines, ofLines,
      Reader.readLines_eq_readFrom, Reader.readLines_eq_readFrom,
      Reader.readFrom_respaced 1 respaced]
  · intro content other hollow front back shows showsOther blank
    rw [ofContent_of_hasLines shows, ofContent_of_hasLines showsOther]
    exact ofLines_insert files path scope front back (Text.trim_eq_nil_iff.2 blank)

/-- Other blanks and line ends, and a blank line in front of a line with an error. -/
theorem ofContent_layout_blanks_and_line_ends :
    let files := FileNode.emptyDirectory.toFileSystem []
    let request : Text := "get http://localhost/"
    let spaced : Text := "\tget\u2003http://localhost/ "
    let hollow : Text := ['\u3000']
    let broken : Text := "set broken"
    let plain : Text := request ++ '\n' :: (broken ++ '\n' :: [])
    ofContent files "t" {} (spaced ++ '\r' :: '\n' :: broken) = ofContent files "t" {} plain ∧
    ofContent files "t" {} (request ++ '\n' :: (hollow ++ '\n' :: broken)) =
      (ofContent files "t" {} plain).relocate (Location.pushPast 1) := by
  intro files request spaced hollow broken plain
  have wholeRequest : '\n' ∉ request := by decide +kernel
  have wholeSpaced : '\n' ∉ spaced := by decide +kernel
  have wholeHollow : '\n' ∉ hollow := by decide +kernel
  have wholeBroken : '\n' ∉ broken := by decide +kernel
  have shows : Text.HasLines plain ([request] ++ [broken]) :=
    .lineFeed wholeRequest (.lineFeed wholeBroken .nil)
  have blankFront : ∀ c ∈ ['\t'], Text.isBlank c = true := List.forall_mem_singleton.2 rfl
  have blankBetween : ∀ c ∈ ['\u2003'], Text.isBlank c = true := List.forall_mem_singleton.2 rfl
  have blankBehind : ∀ c ∈ [' '], Text.isBlank c = true := List.forall_mem_singleton.2 rfl
  have first : Text.Respaced request spaced :=
    .intro blankFront blankBetween blankBehind (by decide +kernel) (by decide +kernel)
  obtain ⟨respaced, inserted⟩ := ofContent_layout files "t" {}
  constructor
  · exact respaced shows (.carriageReturn wholeSpaced (.last wholeBroken))
      (.cons first (.cons (.refl broken) .nil))
  · exact inserted shows (.lineFeed wholeRequest (.lineFeed wholeHollow (.last wholeBroken)))
      (List.forall_mem_singleton.2 rfl)

end Script
end PageCheck
