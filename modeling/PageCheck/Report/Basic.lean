import PageCheck.Report.Piece
import PageCheck.Report.Seconds
import PageCheck.Script.LineError
import PageCheck.Suite

/-!
# Reports

A report shows the progress of a run and then its results, or else the errors of
a test file.  Progress is one mark for every assertion that is tested; a line
ends at its eightieth mark.  In a verbose report every assertion has a line of
its own instead.
-/

namespace PageCheck

/-- What has been written, and the number of marks on the line that is open. -/
structure Report where
  pieces : List Piece := []
  marks : Nat := 0
deriving DecidableEq, Repr

namespace Report

/-- The text of a report on a plain or a colouring terminal. -/
def render (hasColor : Bool) (report : Report) : Text :=
  Piece.render hasColor report.pieces

/-- The report with more pieces. -/
def write (report : Report) (pieces : List Piece) : Report :=
  { report with pieces := report.pieces ++ pieces }

/-- The piece that is a line with its end. -/
def line (content : Text) : Piece :=
  .text (content ++ ['\n'])

/-! ## Progress -/

/-- The number of marks on a full line. -/
def marksPerLine : Nat := 80

/-- The mark of an outcome: one of two texts in the colour that goes with it. -/
def mark (outcome : Outcome) (passed failed : Text) : List Piece :=
  if outcome.isSuccess then
    Piece.painted .green false passed
  else
    Piece.painted .red false failed

/-- What a verbose report says about an assertion. -/
def describe (assertion : Assertion) : Text :=
  " " ++ assertion.location.toText ++ " " ++ assertion.command ++ assertion.modifiers.suffix

/-- The report with a line about an outcome. -/
def addLine (report : Report) (outcome : Outcome) : Report :=
  report.write (mark outcome "✓" "✗" ++ [line (describe outcome.assertion)])

/-- The report with a mark for an outcome. -/
def addMark (report : Report) (outcome : Outcome) : Report :=
  let marked := report.write (mark outcome "." "F")
  if marksPerLine ≤ report.marks + 1 then
    { marked.write [line []] with marks := 0 }
  else
    { marked with marks := report.marks + 1 }

/-- The report with the progress that an outcome makes. -/
def progress (verbose : Bool) (report : Report) (outcome : Outcome) : Report :=
  if verbose then report.addLine outcome else report.addMark outcome

/-- The report with the open line of marks closed. -/
def finish (report : Report) : Report :=
  if 0 < report.marks then { report.write [line []] with marks := 0 } else report

/-! ## Errors -/

/-- The pieces of a headline in red. -/
def headline (content : Text) : List Piece :=
  [.color .red true, line content, .reset]

/-- The report with the errors of a test file. -/
def parseErrors (report : Report) (errors : List ParseError) : Report :=
  report.write <|
    headline "Parse errors:" ++
      errors.map (fun error => line error.toText) ++
      [ line [],
        line (Text.ofNat errors.length ++ " parse error(s), no test was run.") ]

/-! ## Results -/

/-- The line of a list of failures about an outcome. -/
def failureLine (outcome : Outcome) : Piece :=
  line (outcome.assertion.location.toText ++ ": " ++ outcome.error)

/-- The list of failures, if there are any. -/
def failureList (result : SuiteResult) : List Piece :=
  if result.failures.isEmpty then
    []
  else
    [line []] ++ headline "Failures:" ++
      (result.failures.filterMap CaseResult.failed).map failureLine

/-- The summary of a run that took some time. -/
def summary (result : SuiteResult) (nanoseconds : Nat) : List Piece :=
  let time : Text := " in " ++ Seconds.toText nanoseconds ++ "s"
  if result.isSuccess then
    Piece.painted .green true ("All " ++ Text.ofNat result.total ++ " test case(s) passed") ++
      [line time]
  else
    Piece.painted .red true "Summary:" ++
      [ line
          (" " ++ Text.ofNat result.total ++ " test case(s), " ++
            Text.ofNat result.failed ++ " failed, " ++
            Text.ofNat result.successful ++ " successful" ++ time) ]

/-- The report with the results of a run that took some nanoseconds. -/
def resultsAfter (report : Report) (result : SuiteResult) (nanoseconds : Nat) : Report :=
  report.write (failureList result ++ [line []] ++ summary result nanoseconds)

/-- The report with the results of a run that took whole milliseconds. -/
def results (report : Report) (result : SuiteResult) (milliseconds : Nat) : Report :=
  report.resultsAfter result (milliseconds * 1000000)

end Report
end PageCheck
