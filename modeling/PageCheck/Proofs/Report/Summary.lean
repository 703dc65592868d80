import PageCheck.Proofs.Report.Progress
import PageCheck.Proofs.Suite.Execution
import PageCheck.Run

/-!
# Marks, failures and numbers of a report

The plain report of a suite shows the outcomes of its assertions three times: as marks, as a
list of failures and as numbers.  All three agree with what an observer of the run sees.
-/

namespace PageCheck

/-! ## Failing outcomes -/

namespace Outcome

/-- The outcomes that are failures, in order. -/
def failuresOf (outcomes : List Outcome) : List Outcome :=
  outcomes.filter fun outcome => !outcome.isSuccess

/-- What a list of failures says about an outcome. -/
def entry (outcome : Outcome) : Text :=
  outcome.assertion.location.toText ++ ": " ++ outcome.error

/-- There is one F for every failure. -/
theorem count_marks (outcomes : List Outcome) :
    (marks outcomes).count 'F' = (failuresOf outcomes).length := by
  rw [marks, List.count, List.countP_map, failuresOf, List.countP_eq_length_filter]
  congr 2
  funext outcome
  cases result : outcome.isSuccess <;> simp [mark, result]

/-- There is an F exactly if there are failures. -/
theorem mem_marks_iff
    {outcomes : List Outcome} :
    'F' ∈ marks outcomes ↔ failuresOf outcomes ≠ [] := by
  rw [← List.count_pos_iff, count_marks, List.length_pos_iff]

/-- The outcomes whose mark is an F are the failures. -/
theorem filter_zip_marks (outcomes : List Outcome) :
    (((marks outcomes).zip outcomes).filter fun pair => pair.1 = 'F').map Prod.snd =
      failuresOf outcomes := by
  induction outcomes with
  | nil => rfl
  | cons outcome rest hypothesis =>
      have step : (marks (outcome :: rest)).zip (outcome :: rest) =
          (outcome.mark, outcome) :: (marks rest).zip rest := rfl
      rw [step, List.filter_cons]
      cases result : outcome.isSuccess with
      | true => simpa [mark, failuresOf, result] using hypothesis
      | false => simpa [mark, failuresOf, result] using hypothesis

end Outcome

/-! ## Results -/

namespace SuiteResult

/-- The failed results hold these failures, one each and in order. -/
def Holds (result : SuiteResult) (failures : List Outcome) : Prop :=
  failures.map some = result.failures.map CaseResult.failed

namespace Holds

variable {result : SuiteResult} {failures : List Outcome}

/-- The failures are listed one by one. -/
theorem filterMap_failed
    (holds : result.Holds failures) :
    result.failures.filterMap CaseResult.failed = failures := by
  have same := congrArg (List.filterMap id) holds
  rw [List.filterMap_map, List.filterMap_map] at same
  exact same.symm.trans List.filterMap_some

/-- One test case has failed for each of them. -/
theorem failed_eq
    (holds : result.Holds failures) :
    result.failed = failures.length := by
  have same := congrArg List.length holds
  rw [List.length_map, List.length_map] at same
  exact same.symm

theorem failures_eq_nil_iff
    (holds : result.Holds failures) :
    result.failures = [] ↔ failures = [] := by
  rw [← List.length_eq_zero_iff, ← List.length_eq_zero_iff, ← holds.failed_eq]
  rfl

end Holds
end SuiteResult

namespace Report

/-! ## Plain texts -/

theorem plain_lines (contents : List Text) :
    Piece.render false (contents.map line) = Text.unlines contents := by
  induction contents with
  | nil => rfl
  | cons content rest hypothesis =>
      have step : Piece.render false ((content :: rest).map line) =
          content ++ ['\n'] ++ Piece.render false (rest.map line) := rfl
      rw [step, hypothesis]
      rfl

theorem plain_line (content : Text) :
    Piece.render false [line content] = Text.unlines [content] :=
  plain_lines [content]

theorem plain_headline (content : Text) :
    Piece.render false (headline content) = Text.unlines [content] :=
  plain_lines [content]

/-- A text in a colour and the rest of its line are one line. -/
theorem plain_painted_line
    (color : Color)
    (bold : Bool)
    (front back : Text) :
    Piece.render false (Piece.painted color bold front ++ [line back]) =
      Text.unlines [front ++ back] := by
  simp [Piece.render, Piece.painted, Piece.plain, line, Text.unlines]

/-! ## Endings -/

/-- A line that ends with the elapsed time. -/
def timed (content : Text) (nanoseconds : Nat) : Text :=
  content ++ (" in " ++ Seconds.toText nanoseconds ++ "s")

/-- The lines that a report ends with if nothing has failed. -/
def passedLines (cases nanoseconds : Nat) : List Text :=
  [[], timed ("All " ++ Text.ofNat cases ++ " test case(s) passed") nanoseconds]

/-- The lines that a report ends with if something has failed. -/
def failedLines (entries : List Text) (cases failed successful nanoseconds : Nat) :
    List Text :=
  [[], "Failures:"] ++ entries ++
    [[], timed
      ("Summary:" ++ " " ++ Text.ofNat cases ++ " test case(s), " ++ Text.ofNat failed ++
        " failed, " ++ Text.ofNat successful ++ " successful") nanoseconds]

/-- The two endings differ. -/
theorem unlines_failedLines_ne
    (entries : List Text)
    (cases failed successful nanoseconds : Nat) :
    Text.unlines (failedLines entries cases failed successful nanoseconds) ≠
      Text.unlines (passedLines cases nanoseconds) := by
  intro same
  rw [failedLines, List.append_assoc, List.cons_append, Text.unlines_cons, passedLines,
    Text.unlines_cons [] [_]] at same
  have behind := congrArg List.head? (List.append_cancel_left same)
  have first : ("Failures:" : Text).head? = some 'F' := by decide
  have other : ("All " : Text).head? = some 'A' := by decide
  simp only [List.cons_append, timed, Text.unlines, List.flatMap_cons, List.append_assoc,
    List.head?_append, first, other] at behind
  cases behind

/-- What the results of a run without failures add to a plain text. -/
theorem render_resultsAfter_of_success
    {result : SuiteResult}
    (none : result.failures = [])
    (report : Report)
    (nanoseconds : Nat) :
    (report.resultsAfter result nanoseconds).render false =
      report.render false ++ Text.unlines (passedLines result.total nanoseconds) := by
  have passed : result.isSuccess = true := by
    rw [SuiteResult.isSuccess, SuiteResult.failed, none]
    rfl
  have unlisted : failureList result = [] := by
    rw [failureList, none]
    rfl
  rw [resultsAfter, render_write, unlisted, List.nil_append, Piece.render_append, plain_line,
    summary, if_pos passed, plain_painted_line]
  have shape : passedLines result.total nanoseconds =
      [[]] ++ [timed ("All " ++ Text.ofNat result.total ++ " test case(s) passed")
        nanoseconds] := rfl
  rw [shape, Text.unlines_append, timed]

/-- What the results of a run with failures add to a plain text. -/
theorem render_resultsAfter_of_failures
    {result : SuiteResult}
    (some : result.failures ≠ [])
    (report : Report)
    (nanoseconds : Nat) :
    (report.resultsAfter result nanoseconds).render false = report.render false ++
      Text.unlines (failedLines
        ((result.failures.filterMap CaseResult.failed).map Outcome.entry)
        result.total result.failed result.successful nanoseconds) := by
  have failed : ¬ result.isSuccess = true := by
    rw [SuiteResult.isSuccess, SuiteResult.failed, beq_iff_eq, List.length_eq_zero_iff]
    exact some
  have listed : ¬ result.failures.isEmpty = true := by
    rw [List.isEmpty_iff]
    exact some
  have entries := plain_lines
    ((result.failures.filterMap CaseResult.failed).map Outcome.entry)
  rw [List.map_map] at entries
  change Piece.render false
    ((result.failures.filterMap CaseResult.failed).map failureLine) = _ at entries
  rw [resultsAfter, render_write, failureList, if_neg listed, summary, if_neg failed,
    Piece.render_append, plain_painted_line, failedLines, Text.unlines_append, Text.unlines_append,
    Text.unlines_cons [] [_], Text.unlines_cons [] [_]]
  simp only [Piece.render_append, plain_line, plain_headline, entries, timed, List.append_assoc]

/-- A report ends with the list of failures exactly if there are any, and otherwise with the
line that says so. -/
theorem render_resultsAfter_iff
    {result : SuiteResult}
    {failures : List Outcome}
    (holds : result.Holds failures)
    (report : Report)
    (nanoseconds : Nat) :
    let text := (report.resultsAfter result nanoseconds).render false
    (¬ failures ≠ [] ↔ text = report.render false ++
      Text.unlines (passedLines result.total nanoseconds)) ∧
    (failures ≠ [] ↔ text = report.render false ++
      Text.unlines (failedLines (failures.map Outcome.entry)
        result.total result.failed result.successful nanoseconds)) := by
  intro text
  have differ := unlines_failedLines_ne (failures.map Outcome.entry)
    result.total result.failed result.successful nanoseconds
  by_cases none : failures = []
  · have passed := render_resultsAfter_of_success (holds.failures_eq_nil_iff.2 none)
      report nanoseconds
    refine ⟨iff_of_true (not_not_intro none) passed, iff_of_false (not_not_intro none) ?_⟩
    intro failed
    exact differ (List.append_cancel_left (failed.symm.trans passed))
  · have failed := render_resultsAfter_of_failures (mt holds.failures_eq_nil_iff.1 none)
      report nanoseconds
    rw [holds.filterMap_failed] at failed
    refine ⟨iff_of_false (not_not_intro none) ?_, iff_of_true none failed⟩
    intro passed
    exact differ (List.append_cancel_left (failed.symm.trans passed))

/-! ## Progress that is finished -/

/-- The progress that outcomes make, once it is finished, is their marks in closed lines. -/
theorem exists_render_finish (outcomes : List Outcome) :
    ∃ lines : List (List Outcome),
      (outcomes.foldl (progress false) {}).finish.render false =
        Text.unlines (lines.map Outcome.marks) ∧
      (Text.unlines (lines.map Outcome.marks)).filter (fun c => c ≠ '\n') =
        Outcome.marks outcomes ∧
      ∀ line ∈ lines, 1 ≤ line.length ∧ line.length ≤ 80 := by
  have same : (outcomes.foldl (progress false) {}).finish =
      ofTicks (outcomes.map Tick.mark ++ [.finish]) := by
    rw [ofTicks, List.foldl_append, List.foldl_map]
    rfl
  obtain ⟨_, _, wraps⟩ := Wraps.exists_of (outcomes.map Tick.mark)
  obtain ⟨lines, finished⟩ := wraps.exists_finish
  have content : lines.flatten ++ [] = outcomes := by
    rw [finished.flatten_append, List.filterMap_append, List.filterMap_map]
    exact (List.append_nil _).trans List.filterMap_some
  have text_eq := (shows_ofTicks finished).text_eq
  have marks_eq := Outcome.filter_unlines_marks lines []
  have nothing : Outcome.marks [] = [] := rfl
  rw [nothing, List.append_nil] at text_eq marks_eq
  rw [content] at marks_eq
  exact ⟨lines, same ▸ text_eq, marks_eq, finished.length_bounds.2⟩

end Report

/-! ## Suites -/

namespace Suite

/-- The number of test cases of which some assertion does not hold on their pages. -/
def countFailing (suite : Suite) (pages : List Page) : Nat :=
  (suite.zip pages).countP fun pair =>
    !pair.1.assertions.all fun assertion => assertion.holds pair.2

/-- These are the test cases whose results are failures. -/
theorem countFailing_eq
    (suite : Suite)
    (pages : List Page) :
    suite.countFailing pages =
      (SuiteResult.mk (List.zipWith TestCase.resultOn suite pages)).failed := by
  rw [countFailing, SuiteResult.failed, SuiteResult.failures, ← List.countP_eq_length_filter,
    ← List.map_uncurry_zip_eq_zipWith, List.countP_map]
  congr 1
  funext pair
  have alike : (pair.1.resultOn pair.2).isSuccess =
      pair.1.assertions.all fun assertion => assertion.holds pair.2 := by
    rw [Bool.eq_iff_iff, TestCase.isSuccess_resultOn_iff, List.all_eq_true]
  exact congrArg (fun passed => !passed) alike.symm

variable {σ : Type}

/-- The plain report of a suite, with progress that is not verbose, says the same in three
ways.  Its marks are those of the outcomes that an observer sees.  There are as many F among
them as test cases with an assertion that does not hold, as failures in the list and as the
numbers say.  The entries of the list are about the outcomes whose marks are the F, in
order.  Without an F the report says instead that all test cases have passed. -/
theorem report_tells
    (fetch : Fetch σ)
    (state : σ)
    (suite : Suite)
    (nanoseconds : Nat) :
    let run := suite.runWith fetch (Report.progress false) state {}
    let text := (run.2.2.finish.resultsAfter run.1 nanoseconds).render false
    let pages := (fetch.serve state (suite.map TestCase.request)).1
    let events := (suite.runWith fetch collect state []).2.2
    (∀ clock : σ → Nat, (Run.ofSuite fetch clock state false suite).report =
      run.2.2.finish.resultsAfter run.1 (clock run.2.1 - clock state)) ∧
    ∃ (lines : List (List Outcome)) (failures : List Outcome) (failed successful : Nat),
      let progress := Text.unlines (lines.map Outcome.marks)
      let marks := progress.filter fun c => c ≠ '\n'
      marks = Outcome.marks events ∧
      (∀ line ∈ lines, 1 ≤ line.length ∧ line.length ≤ 80) ∧
      failures = ((marks.zip events).filter fun pair => pair.1 = 'F').map Prod.snd ∧
      failed = marks.count 'F' ∧ failed = failures.length ∧
      failed = suite.countFailing pages ∧ failed = run.1.failed ∧
      failed + successful = suite.length ∧ run.1.total = suite.length ∧
      ('F' ∉ marks ↔ text =
        progress ++ Text.unlines (Report.passedLines suite.length nanoseconds)) ∧
      ('F' ∈ marks ↔ text =
        progress ++ Text.unlines (Report.failedLines (failures.map Outcome.entry)
          suite.length failed successful nanoseconds)) := by
  intro run text pages events
  have events_eq : events = suite.events pages := by
    change (suite.runWith fetch collect state []).2.2 = _
    rw [runWith_eq]
    exact foldl_collect _
  -- The pages are the same for everyone who watches, and so are the outcomes on them.
  have run_eq := suite.runWith_eq fetch (Report.progress false) state {}
  have result_eq : run.1 = ⟨List.zipWith TestCase.resultOn suite pages⟩ :=
    congrArg Prod.fst run_eq
  have shown_eq : run.2.2 = events.foldl (Report.progress false) {} := by
    rw [events_eq]
    exact congrArg (fun all => all.2.2) run_eq
  have holds : run.1.Holds (Outcome.failuresOf events) := by
    rw [events_eq, result_eq]
    exact suite.filter_events pages
  have total_eq : run.1.total = suite.length := by
    rw [result_eq, SuiteResult.total, List.length_zipWith, Fetch.length_serve, List.length_map,
      Nat.min_self]
  have successful_eq : run.1.failed + run.1.successful = run.1.total :=
    Nat.add_sub_of_le (List.length_filter_le _ _)
  obtain ⟨lines, front_eq, marks_eq, bounds⟩ := Report.exists_render_finish events
  have endings := Report.render_resultsAfter_iff holds run.2.2.finish nanoseconds
  rw [shown_eq, front_eq, total_eq, ← shown_eq, ← Outcome.mem_marks_iff, ← marks_eq] at endings
  refine ⟨fun _ => rfl, lines, Outcome.failuresOf events, run.1.failed, run.1.successful,
    marks_eq, bounds, ?_, ?_, holds.failed_eq, ?_, rfl, successful_eq.trans total_eq, total_eq,
    endings⟩
  · rw [marks_eq, Outcome.filter_zip_marks]
  · rw [marks_eq, Outcome.count_marks, holds.failed_eq]
  · rw [countFailing_eq, result_eq]

end Suite
end PageCheck
