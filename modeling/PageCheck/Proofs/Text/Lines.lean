import PageCheck.Proofs.Text.Trim
import PageCheck.Text.Lines

/-!
# Lines that are written and read back

Lines that are closed by a line feed each are found again in the written text.
The only thing that can get lost is a carriage return at the end of a line, and
that does not show in the trimmed line.  The same holds of lines that are closed by
a carriage return and a line feed, and of a last line without a line end.
-/

namespace PageCheck
namespace Text

theorem unlines_append
    (front back : List Text) :
    unlines (front ++ back) = unlines front ++ unlines back :=
  List.flatMap_append

theorem unlines_cons
    (line : Text)
    (rest : List Text) :
    unlines (line :: rest) = unlines [line] ++ unlines rest :=
  unlines_append [line] rest

/-- Closed lines end with a line feed, if there are any. -/
theorem getLast?_unlines
    (written : List Text) :
    unlines written = [] ∨ (unlines written).getLast? = some '\n' := by
  obtain rfl | ⟨front, line, rfl⟩ := written.eq_nil_or_concat
  · exact Or.inl rfl
  · right
    simp [unlines]

/-- The line in front of a line feed, up to a carriage return at its end. -/
theorem lines_append_lineFeed
    {line : Text}
    (whole : '\n' ∉ line)
    (rest : Text) :
    ∃ shown, lines (line ++ '\n' :: rest) = shown :: lines rest ∧
      (line = shown ∨ line = shown ++ ['\r']) := by
  induction line with
  | nil => exact ⟨[], by simp [lines], Or.inl rfl⟩
  | cons c tail hypothesis =>
      rw [List.mem_cons, not_or] at whole
      obtain ⟨shown, split, shape⟩ := hypothesis whole.2
      by_cases returned : c = '\r' ∧ tail = []
      · obtain ⟨rfl, rfl⟩ := returned
        exact ⟨[], by simp [lines], Or.inr rfl⟩
      · have step : lines (c :: (tail ++ '\n' :: rest)) = (c :: shown) :: lines rest := by
          rw [lines]
          · rw [split]
          · exact Ne.symm whole.1
          · intro further isReturn
            cases tail with
            | nil => exact absurd ⟨isReturn, rfl⟩ returned
            | cons d more =>
                intro equal
                injection equal with first _
                exact whole.2 (by simp [first])
        refine ⟨c :: shown, step, ?_⟩
        rcases shape with same | same
        · exact Or.inl (by rw [same])
        · exact Or.inr (by rw [same]; rfl)

/-- The line in front of a line feed is found again, apart from blanks at its ends. -/
theorem map_trim_lines_append_lineFeed
    {line : Text}
    (whole : '\n' ∉ line)
    (rest : Text) :
    (lines (line ++ '\n' :: rest)).map trim = trim line :: (lines rest).map trim := by
  obtain ⟨shown, split, shape⟩ := lines_append_lineFeed whole rest
  have same : trim shown = trim line := by
    rcases shape with rfl | rfl
    · rfl
    · exact (trim_append_of_isBlank (by decide) shown).symm
  rw [split, List.map_cons, same]

/-- Written lines are found again in front of any text, apart from blanks at their ends. -/
theorem map_trim_lines_unlines_append
    {written : List Text}
    (whole : ∀ line ∈ written, '\n' ∉ line)
    (rest : Text) :
    (lines (unlines written ++ rest)).map trim = written.map trim ++ (lines rest).map trim := by
  induction written with
  | nil => rfl
  | cons line more hypothesis =>
      rw [List.forall_mem_cons] at whole
      have shape : unlines (line :: more) ++ rest = line ++ '\n' :: (unlines more ++ rest) := by
        simp [unlines]
      rw [shape, map_trim_lines_append_lineFeed whole.1, hypothesis whole.2, List.map_cons,
        List.cons_append]

/-! ## Line ends -/

/-- A text that has the given lines.  Each of them is closed by a line feed, or by a carriage
return and a line feed, except that the line end may be missing behind the last one. -/
inductive HasLines : Text → List Text → Prop
  | nil : HasLines [] []
  | last
      {line : Text}
      (whole : '\n' ∉ line) :
      HasLines line [line]
  | lineFeed
      {line content : Text} {later : List Text}
      (whole : '\n' ∉ line)
      (rest : HasLines content later) :
      HasLines (line ++ '\n' :: content) (line :: later)
  | carriageReturn
      {line content : Text} {later : List Text}
      (whole : '\n' ∉ line)
      (rest : HasLines content later) :
      HasLines (line ++ '\r' :: '\n' :: content) (line :: later)

/-- A text without a line feed is one line, if there is anything in it. -/
theorem lines_of_notMem
    {line : Text}
    (whole : '\n' ∉ line)
    (filled : line ≠ []) :
    lines line = [line] := by
  induction line with
  | nil => exact absurd rfl filled
  | cons c tail hypothesis =>
      rw [List.mem_cons, not_or] at whole
      have unended : ∀ further, c = '\r' → tail = '\n' :: further → False := by
        rintro further - rfl
        exact whole.2 List.mem_cons_self
      rw [lines.eq_4 c tail (Ne.symm whole.1) unended]
      cases tail with
      | nil => rfl
      | cons d more => rw [hypothesis whole.2 (List.cons_ne_nil d more)]

/-- The lines of a text are found in it, apart from blanks at their ends and from an empty
line at the end. -/
theorem HasLines.map_trim_lines
    {content : Text}
    {written : List Text}
    (shows : HasLines content written) :
    ∃ hollow, written.map trim = (lines content).map trim ++ hollow ∧
      ∀ line ∈ hollow, line = [] := by
  induction shows with
  | nil => exact ⟨[], rfl, List.forall_mem_nil _⟩
  | @last line whole =>
      by_cases filled : line = []
      · subst filled
        exact ⟨[[]], rfl, List.forall_mem_singleton.2 rfl⟩
      · refine ⟨[], ?_, List.forall_mem_nil _⟩
        rw [lines_of_notMem whole filled, List.append_nil]
  | @lineFeed line content later whole rest hypothesis =>
      obtain ⟨hollow, same, empty⟩ := hypothesis
      refine ⟨hollow, ?_, empty⟩
      rw [map_trim_lines_append_lineFeed whole, List.map_cons, same, List.cons_append]
  | @carriageReturn line content later whole rest hypothesis =>
      obtain ⟨hollow, same, empty⟩ := hypothesis
      refine ⟨hollow, ?_, empty⟩
      have returned : '\n' ∉ line ++ ['\r'] := by
        rw [List.mem_append, not_or]
        exact ⟨whole, by decide⟩
      have shape : line ++ '\r' :: '\n' :: content = line ++ ['\r'] ++ '\n' :: content := by simp
      rw [shape, map_trim_lines_append_lineFeed returned, trim_append_of_isBlank (by decide),
        List.map_cons, same, List.cons_append]

end Text
end PageCheck
