import PageCheck.CommandLine.Basic
import PageCheck.Report.Basic
import PageCheck.Script.Reader

/-!
# Runs

A run reads a test file, fetches the pages of its test cases and reports what it
found.  Nothing is fetched unless the whole file is free of errors.
-/

namespace PageCheck

/-- How a run ended. -/
inductive Status
  | success
  | noTestCases
  | usage
  | unreadableFile
  | parseErrors
  | testFailures
deriving DecidableEq, Repr

/-- The exit code of a status. -/
def Status.code : Status → Nat
  | .success => 0
  | .noTestCases => 1
  | .usage => 2
  | .unreadableFile => 3
  | .parseErrors => 4
  | .testFailures => 5

/-- The status of a command line that names no run. -/
def CommandLine.Error.status (error : CommandLine.Error) : Status :=
  if error.isFailure then .usage else .success

/-- What a run leaves behind: how it ended, its report, what it said about a file
that it cannot run, and the state of the fetcher. -/
structure Run (σ : Type) where
  status : Status
  report : Report
  complaint : Text
  state : σ

namespace Run

/-- The run of a file that cannot be read. -/
def unreadable {σ : Type} (state : σ) (path : Text) (error : FileError) : Run σ :=
  { status := .unreadableFile
    report := {}
    complaint := "Cannot read test file " ++ path ++ ": " ++ error.message ++ ['\n']
    state }

/-- The run of a file without test cases. -/
def withoutCases {σ : Type} (state : σ) (path : Text) : Run σ :=
  { status := .noTestCases
    report := {}
    complaint := "No test cases found in " ++ path ++ ['\n']
    state }

/-- The run of a file with errors. -/
def withErrors {σ : Type} (state : σ) (errors : List ParseError) : Run σ :=
  { status := .parseErrors
    report := Report.parseErrors {} errors
    complaint := []
    state }

/-- The run of a suite.  The clock tells the nanoseconds that have passed in a
state of the fetcher. -/
def ofSuite {σ : Type} (fetch : Fetch σ) (clock : σ → Nat) (state : σ) (verbose : Bool)
    (suite : Suite) : Run σ :=
  let (result, lastState, shown) := suite.runWith fetch (Report.progress verbose) state {}
  { status := if result.isSuccess then .success else .testFailures
    report := shown.finish.resultsAfter result (clock lastState - clock state)
    complaint := []
    state := lastState }

/-- The run of a test file that has been read. -/
def ofScript {σ : Type} (fetch : Fetch σ) (clock : σ → Nat) (state : σ) (options : Options)
    (script : Script) : Run σ :=
  if !script.isValid then
    withErrors state script.errors
  else if script.suite.isEmpty then
    withoutCases state options.testFile
  else
    ofSuite fetch clock state options.verbose script.suite

/-- The run that a command line asks for. -/
def ofOptions {σ : Type} (files : FileSystem) (fetch : Fetch σ) (clock : σ → Nat) (state : σ)
    (options : Options) : Run σ :=
  match Script.ofFile files options.testFile (Variables.ofList options.assignments) with
  | .error error => unreadable state options.testFile error
  | .ok script => ofScript fetch clock state options script

end Run
end PageCheck
