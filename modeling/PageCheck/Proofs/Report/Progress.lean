import PageCheck.Proofs.Text.Lines
import PageCheck.Report.Basic

/-!
# Lines of marks

Progress that is not verbose is a text of marks in lines.  A line is closed as soon as it
is full, and a shorter one only when progress is finished, so that no line is empty.  The
counter of a report always tells how many marks the open line has.
-/

namespace PageCheck

/-! ## Marks -/

namespace Outcome

/-- The mark of an outcome. -/
def mark (outcome : Outcome) : Char :=
  if outcome.isSuccess then '.' else 'F'

/-- The marks of outcomes, in order. -/
def marks (outcomes : List Outcome) : Text :=
  outcomes.map mark

@[simp] theorem marks_append
    (front back : List Outcome) :
    marks (front ++ back) = marks front ++ marks back :=
  List.map_append

theorem mark_ne_lineFeed (outcome : Outcome) : outcome.mark ≠ '\n' := by
  unfold mark
  split <;> decide

/-- Closing lines of marks adds line feeds only. -/
theorem filter_unlines_marks
    (lines : List (List Outcome))
    (last : List Outcome) :
    (Text.unlines (lines.map marks) ++ marks last).filter (fun c => c ≠ '\n') =
      marks (lines.flatten ++ last) := by
  have whole : ∀ outcomes : List Outcome,
      (marks outcomes).filter (fun c => c ≠ '\n') = marks outcomes := by
    intro outcomes
    rw [List.filter_eq_self]
    intro c inside
    obtain ⟨outcome, _, rfl⟩ := List.mem_map.1 inside
    exact decide_eq_true outcome.mark_ne_lineFeed
  rw [List.filter_append, whole, marks_append]
  congr 1
  induction lines with
  | nil => rfl
  | cons line rest hypothesis =>
      have shape : Text.unlines ((line :: rest).map marks) =
          marks line ++ ['\n'] ++ Text.unlines (rest.map marks) := rfl
      rw [shape, List.filter_append, List.filter_append, whole, hypothesis,
        List.flatten_cons, marks_append]
      simp

end Outcome

namespace Report

/-! ## Steps of progress -/

/-- What moves progress on: an outcome gets its mark, or progress is finished. -/
inductive Tick
  | mark (outcome : Outcome)
  | finish

/-- The outcome that is marked. -/
def Tick.outcome? : Tick → Option Outcome
  | .mark outcome => some outcome
  | .finish => none

/-- The report with one step of progress that is not verbose. -/
def tick (report : Report) : Tick → Report
  | .mark outcome => report.progress false outcome
  | .finish => report.finish

/-- A fresh report behind steps of progress. -/
def ofTicks (ticks : List Tick) : Report :=
  ticks.foldl tick {}

/-! ## Lines -/

/-- How steps of progress break into lines, of which the last one stays open. -/
inductive Wraps : List Tick → List (List Outcome) → List Outcome → Prop
  /-- Fewer marks than fill a line leave it open. -/
  | opened
      {line : List Outcome}
      (room : line.length < 80) :
      Wraps (line.map Tick.mark) [] line
  /-- The mark that fills a line closes it. -/
  | full
      {line last : List Outcome} {ticks : List Tick} {lines : List (List Outcome)}
      (filled : line.length = 80)
      (rest : Wraps ticks lines last) :
      Wraps (line.map Tick.mark ++ ticks) (line :: lines) last
  /-- A line that is not full is closed when progress is finished. -/
  | short
      {line last : List Outcome} {ticks : List Tick} {lines : List (List Outcome)}
      (started : 0 < line.length)
      (room : line.length < 80)
      (rest : Wraps ticks lines last) :
      Wraps (line.map Tick.mark ++ .finish :: ticks) (line :: lines) last
  /-- Without an open line there is nothing to close. -/
  | idle
      {last : List Outcome} {ticks : List Tick} {lines : List (List Outcome)}
      (rest : Wraps ticks lines last) :
      Wraps (.finish :: ticks) lines last

namespace Wraps

variable {ticks : List Tick} {lines : List (List Outcome)} {last : List Outcome}

/-- Steps break into lines, whatever is on the line that they find open. -/
theorem exists_of_open
    {line : List Outcome}
    (room : line.length < 80)
    (ticks : List Tick) :
    ∃ lines last, Wraps (line.map Tick.mark ++ ticks) lines last := by
  -- The open line is carried along: a step makes it longer, fills it or closes it.
  induction ticks generalizing line with
  | nil =>
      rw [List.append_nil]
      exact ⟨[], line, .opened room⟩
  | cons tick rest hypothesis =>
      cases tick with
      | mark outcome =>
          have shape : line.map Tick.mark ++ Tick.mark outcome :: rest =
              (line ++ [outcome]).map Tick.mark ++ rest := by simp
          rw [shape]
          have longer : (line ++ [outcome]).length = line.length + 1 := List.length_append
          by_cases filled : line.length + 1 = 80
          · obtain ⟨lines, last, wraps⟩ := @hypothesis [] (by decide)
            exact ⟨_, last, .full (longer.trans filled) wraps⟩
          · exact hypothesis (by omega)
      | finish =>
          obtain ⟨lines, last, wraps⟩ := @hypothesis [] (by decide)
          cases line with
          | nil => exact ⟨lines, last, .idle wraps⟩
          | cons first others => exact ⟨_, last, .short (Nat.succ_pos _) room wraps⟩

/-- Every sequence of steps breaks into lines. -/
theorem exists_of (ticks : List Tick) : ∃ lines last, Wraps ticks lines last :=
  @exists_of_open [] (by decide) ticks

/-- No closed line is empty or too long, and the open one can take a mark. -/
theorem length_bounds
    (wraps : Wraps ticks lines last) :
    last.length < 80 ∧ ∀ line ∈ lines, 1 ≤ line.length ∧ line.length ≤ 80 := by
  induction wraps with
  | opened room => exact ⟨room, List.forall_mem_nil _⟩
  | full filled _ hypothesis =>
      refine ⟨hypothesis.1, List.forall_mem_cons.2 ⟨?_, hypothesis.2⟩⟩
      omega
  | short started room _ hypothesis =>
      refine ⟨hypothesis.1, List.forall_mem_cons.2 ⟨?_, hypothesis.2⟩⟩
      omega
  | idle _ hypothesis => exact hypothesis

/-- The lines hold the outcomes of the steps, in order. -/
theorem flatten_append
    (wraps : Wraps ticks lines last) :
    lines.flatten ++ last = ticks.filterMap Tick.outcome? := by
  have marked : ∀ line : List Outcome,
      (line.map Tick.mark).filterMap Tick.outcome? = line := by
    intro line
    rw [List.filterMap_map]
    exact List.filterMap_some
  induction wraps with
  | opened room => rw [marked, List.flatten_nil, List.nil_append]
  | full _ _ hypothesis =>
      rw [List.filterMap_append, marked, List.flatten_cons, List.append_assoc, hypothesis]
  | short _ _ _ hypothesis =>
      rw [List.filterMap_append, marked, List.flatten_cons, List.append_assoc, hypothesis]
      rfl
  | idle _ hypothesis => exact hypothesis

/-- Finishing leaves no line open. -/
theorem exists_finish
    (wraps : Wraps ticks lines last) :
    ∃ closed, Wraps (ticks ++ [.finish]) closed [] := by
  have nothing : Wraps [] [] [] := @opened [] (by decide)
  induction wraps with
  | @opened line room =>
      cases line with
      | nil => exact ⟨[], .idle nothing⟩
      | cons first others => exact ⟨_, .short (Nat.succ_pos _) room nothing⟩
  | full filled _ hypothesis =>
      obtain ⟨closed, wraps⟩ := hypothesis
      rw [List.append_assoc]
      exact ⟨_, .full filled wraps⟩
  | short started room _ hypothesis =>
      obtain ⟨closed, wraps⟩ := hypothesis
      rw [List.append_assoc]
      exact ⟨_, .short started room wraps⟩
  | idle _ hypothesis =>
      obtain ⟨closed, wraps⟩ := hypothesis
      exact ⟨closed, .idle wraps⟩

end Wraps

/-! ## What a step writes -/

@[simp] theorem render_write
    (hasColor : Bool)
    (report : Report)
    (pieces : List Piece) :
    (report.write pieces).render hasColor =
      report.render hasColor ++ Piece.render hasColor pieces :=
  Piece.render_append hasColor report.pieces pieces

/-- On a plain terminal a mark is one character. -/
theorem plain_mark (outcome : Outcome) :
    Piece.render false (mark outcome "." "F") = [outcome.mark] := by
  unfold mark Outcome.mark
  split <;> rfl

/-- An outcome writes its mark, and the mark that fills the line also closes it. -/
theorem render_tick_mark
    (report : Report)
    (outcome : Outcome) :
    (report.tick (.mark outcome)).render false = report.render false ++
      outcome.mark :: if 80 ≤ report.marks + 1 then ['\n'] else [] := by
  have marked : (report.write (mark outcome "." "F")).render false =
      report.render false ++ [outcome.mark] := by
    rw [render_write, plain_mark]
  by_cases full : 80 ≤ report.marks + 1
  · have step : report.tick (.mark outcome) =
        { (report.write (mark outcome "." "F")).write [line []] with marks := 0 } :=
      if_pos full
    rw [step, if_pos full]
    change ((report.write (mark outcome "." "F")).write [line []]).render false = _
    rw [render_write, marked, List.append_assoc]
    rfl
  · have step : report.tick (.mark outcome) =
        { report.write (mark outcome "." "F") with marks := report.marks + 1 } :=
      if_neg full
    rw [step, if_neg full]
    exact marked

theorem marks_tick_mark
    (report : Report)
    (outcome : Outcome) :
    (report.tick (.mark outcome)).marks =
      if 80 ≤ report.marks + 1 then 0 else report.marks + 1 :=
  apply_ite Report.marks (80 ≤ report.marks + 1) _ _

/-- Finishing closes the line that is open, if there is one. -/
theorem render_finish (report : Report) :
    report.finish.render false =
      report.render false ++ if 0 < report.marks then ['\n'] else [] := by
  unfold finish
  split
  · change (report.write [line []]).render false = _
    rw [render_write]
    rfl
  · rw [List.append_nil]

theorem marks_finish (report : Report) : report.finish.marks = 0 := by
  unfold finish
  split
  · rfl
  · next closed => exact Nat.eq_zero_of_not_pos closed

/-! ## What a report shows -/

/-- A report shows closed lines and an open one, whose marks it counts. -/
structure Shows (report : Report) (lines : List (List Outcome)) (last : List Outcome) :
    Prop where
  text_eq : report.render false =
    Text.unlines (lines.map Outcome.marks) ++ Outcome.marks last
  marks_eq : report.marks = last.length

namespace Shows

variable {report : Report} {lines : List (List Outcome)} {last : List Outcome}

/-- Closing the open line turns it into the last one of the closed lines. -/
theorem text_close
    (lines : List (List Outcome))
    (last : List Outcome) :
    Text.unlines (lines.map Outcome.marks) ++ Outcome.marks last ++ ['\n'] =
      Text.unlines ((lines ++ [last]).map Outcome.marks) ++ Outcome.marks [] := by
  simp [Text.unlines, Outcome.marks]

/-- A mark goes to the open line, if there is room for more behind it. -/
theorem mark_of_lt
    (shows : Shows report lines last)
    (outcome : Outcome)
    (room : last.length + 1 < 80) :
    Shows (report.tick (.mark outcome)) lines (last ++ [outcome]) := by
  have fits : ¬ 80 ≤ report.marks + 1 := by
    rw [shows.marks_eq]
    omega
  constructor
  · rw [render_tick_mark, if_neg fits, shows.text_eq, Outcome.marks_append, List.append_assoc]
    rfl
  · rw [marks_tick_mark, if_neg fits, List.length_append, shows.marks_eq]
    rfl

/-- The mark that fills the open line closes it. -/
theorem mark_of_eq
    (shows : Shows report lines last)
    (outcome : Outcome)
    (filled : last.length + 1 = 80) :
    Shows (report.tick (.mark outcome)) (lines ++ [last ++ [outcome]]) [] := by
  have full : 80 ≤ report.marks + 1 := by
    rw [shows.marks_eq, filled]
  constructor
  · rw [render_tick_mark, if_pos full, shows.text_eq, ← text_close, Outcome.marks_append,
      List.append_cons, ← List.append_assoc]
    rfl
  · rw [marks_tick_mark, if_pos full]
    rfl

/-- Finishing closes a line that has marks. -/
theorem finish_of_ne_nil
    (shows : Shows report lines last)
    (started : last ≠ []) :
    Shows report.finish (lines ++ [last]) [] := by
  have opened : 0 < report.marks := by
    rw [shows.marks_eq]
    exact List.length_pos_iff.2 started
  constructor
  · rw [render_finish, if_pos opened, shows.text_eq, ← text_close]
  · exact marks_finish report

/-- Finishing leaves a report without an open line as it is. -/
theorem finish_of_nil
    (shows : Shows report lines []) :
    report.finish = report := by
  have closed : ¬ 0 < report.marks := by
    rw [shows.marks_eq]
    exact Nat.lt_irrefl 0
  rw [finish, if_neg closed]

/-- Marks go to the open line as long as they do not fill it. -/
theorem marks_of_lt
    (shows : Shows report lines last)
    (outcomes : List Outcome)
    (room : last.length + outcomes.length < 80) :
    Shows ((outcomes.map Tick.mark).foldl tick report) lines (last ++ outcomes) := by
  induction outcomes generalizing report last with
  | nil =>
      rw [List.append_nil]
      exact shows
  | cons outcome rest hypothesis =>
      rw [List.length_cons] at room
      have next := shows.mark_of_lt outcome (by omega)
      have longer : (last ++ [outcome]).length = last.length + 1 := List.length_append
      have later := hypothesis next (by omega)
      rw [List.append_assoc] at later
      exact later

/-- Eighty marks behind closed lines are one more of them. -/
theorem marks_of_eq
    (shows : Shows report lines [])
    (line : List Outcome)
    (filled : line.length = 80) :
    Shows ((line.map Tick.mark).foldl tick report) (lines ++ [line]) [] := by
  have started : line ≠ [] := by
    rintro rfl
    cases filled
  obtain none | ⟨front, outcome, shape⟩ := line.eq_nil_or_concat
  · exact absurd none started
  · rw [List.concat_eq_append] at shape
    subst shape
    rw [List.length_append, List.length_singleton] at filled
    have marked := shows.marks_of_lt front (by rw [List.length_nil]; omega)
    rw [List.nil_append] at marked
    rw [List.map_append, List.foldl_append]
    exact marked.mark_of_eq outcome filled

/-- Steps of progress add the lines into which they break. -/
theorem foldl_tick
    {ticks : List Tick}
    {later : List (List Outcome)}
    (wraps : Wraps ticks later last)
    (shows : Shows report lines []) :
    Shows (ticks.foldl tick report) (lines ++ later) last := by
  induction wraps generalizing report lines with
  | @opened line room =>
      rw [List.append_nil]
      exact shows.marks_of_lt line (by rw [List.length_nil]; omega)
  | @full line _ _ later filled _ hypothesis =>
      rw [List.foldl_append, List.append_cons]
      exact hypothesis (shows.marks_of_eq line filled)
  | @short line _ _ later started room _ hypothesis =>
      have marked := shows.marks_of_lt line (by rw [List.length_nil]; omega)
      have closed := marked.finish_of_ne_nil (List.length_pos_iff.1 started)
      rw [List.foldl_append, List.append_cons]
      exact hypothesis closed
  | idle _ hypothesis =>
      have same : report.tick .finish = report := shows.finish_of_nil
      rw [List.foldl_cons, same]
      exact hypothesis shows

end Shows

/-- A fresh report shows the lines into which the steps of progress break. -/
theorem shows_ofTicks
    {ticks : List Tick}
    {lines : List (List Outcome)}
    {last : List Outcome}
    (wraps : Wraps ticks lines last) :
    Shows (ofTicks ticks) lines last := by
  have fresh : Shows {} [] [] := ⟨rfl, rfl⟩
  exact fresh.foldl_tick wraps

/-- Steps of progress on a fresh report break into lines: a line is closed by its eightieth
mark, or earlier when progress is finished.  The plain text is the marks of the outcomes in
these lines, none of which is empty or longer than eighty marks, and the counter tells the
marks of the line that is open.  One more mark closes this line at once if it fills it, and
the end of progress closes it if there is one.  Then no line is open, and ending progress
once more changes nothing. -/
theorem ofTicks_wraps (ticks : List Tick) :
    let text := (ofTicks ticks).render false
    let finished := ofTicks (ticks ++ [.finish])
    ∃ (lines : List (List Outcome)) (last : List Outcome),
      Wraps ticks lines last ∧
      text = Text.unlines (lines.map Outcome.marks) ++ Outcome.marks last ∧
      text.filter (fun c => c ≠ '\n') = Outcome.marks (ticks.filterMap Tick.outcome?) ∧
      (∀ line ∈ lines, 1 ≤ line.length ∧ line.length ≤ 80) ∧
      (ofTicks ticks).marks = last.length ∧ last.length < 80 ∧
      (∀ outcome, (ofTicks (ticks ++ [.mark outcome])).render false =
        text ++ outcome.mark :: if last.length + 1 = 80 then ['\n'] else []) ∧
      finished.render false = text ++ (if last = [] then [] else ['\n']) ∧
      (finished.render false = [] ∨ (finished.render false).getLast? = some '\n') ∧
      finished.finish = finished := by
  intro text finished
  obtain ⟨lines, last, wraps⟩ := Wraps.exists_of ticks
  have shows := shows_ofTicks wraps
  obtain ⟨room, bounds⟩ := wraps.length_bounds
  obtain ⟨closed, wrapsFinished⟩ := wraps.exists_finish
  have showsFinished := shows_ofTicks wrapsFinished
  have finished_eq : finished = (ofTicks ticks).finish := List.foldl_append
  refine ⟨lines, last, wraps, shows.text_eq, ?_, bounds, shows.marks_eq, room, ?_, ?_, ?_,
    showsFinished.finish_of_nil⟩
  · change ((ofTicks ticks).render false).filter _ = _
    rw [shows.text_eq, Outcome.filter_unlines_marks, wraps.flatten_append]
  · intro outcome
    have marked : ofTicks (ticks ++ [.mark outcome]) = (ofTicks ticks).tick (.mark outcome) :=
      List.foldl_append
    have full : 80 ≤ (ofTicks ticks).marks + 1 ↔ last.length + 1 = 80 := by
      rw [shows.marks_eq]
      omega
    rw [marked, render_tick_mark, if_congr full rfl rfl]
  · have unopened : ¬ 0 < (ofTicks ticks).marks ↔ last = [] := by
      rw [shows.marks_eq, Nat.not_lt, Nat.le_zero, List.length_eq_zero_iff]
    rw [finished_eq, render_finish, ← ite_not, if_congr unopened rfl rfl]
  · rw [showsFinished.text_eq]
    change Text.unlines _ ++ [] = [] ∨ (Text.unlines _ ++ []).getLast? = _
    rw [List.append_nil]
    exact Text.getLast?_unlines _

end Report
end PageCheck
