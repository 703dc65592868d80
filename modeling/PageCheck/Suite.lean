import PageCheck.TestCase

/-!
# Suites

A suite is the list of test cases of a file.  All of them are run in order,
whether or not some fail.
-/

namespace PageCheck

/-- The test cases of a file. -/
abbrev Suite := List TestCase

/-- The results of a suite, in order. -/
structure SuiteResult where
  results : List CaseResult
deriving Repr

namespace SuiteResult

/-- The results of the test cases that failed. -/
def failures (result : SuiteResult) : List CaseResult :=
  result.results.filter fun result => !result.isSuccess

/-- The number of test cases. -/
def total (result : SuiteResult) : Nat := result.results.length

/-- The number of test cases that failed. -/
def failed (result : SuiteResult) : Nat := result.failures.length

/-- The number of test cases that passed. -/
def successful (result : SuiteResult) : Nat := result.total - result.failed

/-- Whether no test case failed. -/
def isSuccess (result : SuiteResult) : Bool := result.failed == 0

end SuiteResult

namespace Suite

/-- Runs test cases in order, handing on the states of the fetcher and of the
observer. -/
def runCases {σ ω : Type} (fetch : Fetch σ) (observe : ω → Outcome → ω) (state : σ)
    (seen : ω) : Suite → List CaseResult × σ × ω
  | [] => ([], state, seen)
  | testCase :: rest =>
      let (result, nextState, nextSeen) := testCase.run fetch observe state seen
      let (results, lastState, lastSeen) := runCases fetch observe nextState nextSeen rest
      (result :: results, lastState, lastSeen)

/-- Runs a suite with an observer. -/
def runWith {σ ω : Type} (fetch : Fetch σ) (observe : ω → Outcome → ω) (state : σ)
    (seen : ω) (suite : Suite) : SuiteResult × σ × ω :=
  let (results, lastState, lastSeen) := suite.runCases fetch observe state seen
  (⟨results⟩, lastState, lastSeen)

/-- Runs a suite that nobody observes. -/
def run {σ : Type} (fetch : Fetch σ) (state : σ) (suite : Suite) : SuiteResult × σ :=
  let (result, lastState, _) := suite.runWith fetch (fun seen _ => seen) state ()
  (result, lastState)

/-- The observer that collects the outcomes it sees. -/
def collect (seen : List Outcome) (outcome : Outcome) : List Outcome :=
  seen ++ [outcome]

end Suite
end PageCheck
