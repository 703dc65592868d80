import PageCheck.Suite

/-!
# Runs of a suite

Running a suite asks the fetcher for one page per test case, in order and whatever
the pages hold.  Everything else follows from these pages: the result of each test
case is the one that it has on its own page, the observer sees the outcomes of one
test case after those of the other, and the failing outcomes are those that the
results hold.
-/

namespace PageCheck

variable {σ ω : Type}

/-! ## Fetchers -/

namespace Fetch

/-- The pages with which a fetcher answers requests, one after the other, and its state
behind the last one. -/
def serve (fetch : Fetch σ) (state : σ) : List Request → List Page × σ
  | [] => ([], state)
  | request :: rest =>
      let (page, nextState) := fetch state request
      let (pages, lastState) := serve fetch nextState rest
      (page :: pages, lastState)

@[simp] theorem serve_nil
    (fetch : Fetch σ)
    (state : σ) :
    fetch.serve state [] = ([], state) := rfl

@[simp] theorem serve_cons
    (fetch : Fetch σ)
    (state : σ)
    (request : Request)
    (rest : List Request) :
    fetch.serve state (request :: rest) =
      let served := fetch.serve (fetch state request).2 rest
      ((fetch state request).1 :: served.1, served.2) := rfl

/-- Every request is answered with one page. -/
@[simp] theorem length_serve
    (fetch : Fetch σ)
    (state : σ)
    (requests : List Request) :
    (fetch.serve state requests).1.length = requests.length := by
  induction requests generalizing state with
  | nil => rfl
  | cons request rest hypothesis => simp [hypothesis]

/-- A fetcher that also keeps a log of the requests that it is handed. -/
def logged (fetch : Fetch σ) : Fetch (σ × List Request) :=
  fun state request =>
    ((fetch state.1 request).1, (fetch state.1 request).2, state.2 ++ [request])

/-- A log does not change the pages, and it grows by the requests that are answered. -/
theorem serve_logged
    (fetch : Fetch σ)
    (state : σ)
    (log requests : List Request) :
    fetch.logged.serve (state, log) requests =
      ((fetch.serve state requests).1, (fetch.serve state requests).2, log ++ requests) := by
  induction requests generalizing state log with
  | nil => simp
  | cons request rest hypothesis => simp [logged, hypothesis]

/-- The fetcher that answers every request with the same page. -/
def always (page : Page) : Fetch Unit :=
  fun state _ => (page, state)

end Fetch

/-! ## Test cases -/

namespace TestCase

/-- The observer sees the outcomes up to the first failure, and this failure is the
first one that there is. -/
theorem observeAll_eq
    (observe : ω → Outcome → ω)
    (page : Page)
    (seen : ω)
    (assertions : List Assertion) :
    observeAll observe page seen assertions =
      ((assertions.map fun assertion => assertion.test page).find? fun outcome =>
          !outcome.isSuccess,
        (outcomes page assertions).foldl observe seen) := by
  induction assertions generalizing seen with
  | nil => rfl
  | cons assertion rest hypothesis =>
      cases passed : (assertion.test page).isSuccess with
      | true => simp [observeAll, outcomes, passed, hypothesis]
      | false => simp [observeAll, outcomes, passed]

/-- A test case fetches the page of its request, and the rest depends on this page. -/
theorem run_eq
    (fetch : Fetch σ)
    (observe : ω → Outcome → ω)
    (state : σ)
    (seen : ω)
    (testCase : TestCase) :
    testCase.run fetch observe state seen =
      let fetched := fetch state testCase.request
      (testCase.resultOn fetched.1, fetched.2,
        (outcomes fetched.1 testCase.assertions).foldl observe seen) := by
  simp only [run, observeAll_eq, resultOn]

/-- Up to the first failure, the only outcome that can fail is the one that the result
holds. -/
theorem filter_outcomes
    (testCase : TestCase)
    (page : Page) :
    (outcomes page testCase.assertions).filter (fun outcome => !outcome.isSuccess) =
      (testCase.resultOn page).failed.toList := by
  simp only [resultOn]
  induction testCase.assertions with
  | nil => rfl
  | cons assertion rest hypothesis =>
      cases passed : (assertion.test page).isSuccess with
      | true => simpa [outcomes, passed] using hypothesis
      | false => simp [outcomes, passed]

/-- A test case passes on a page exactly if all of its assertions hold there. -/
theorem isSuccess_resultOn_iff
    {testCase : TestCase}
    {page : Page} :
    (testCase.resultOn page).isSuccess = true ↔
      ∀ assertion ∈ testCase.assertions, assertion.holds page = true := by
  rw [CaseResult.isSuccess, Option.isNone_iff_eq_none, resultOn, List.find?_eq_none]
  simp [Assertion.test, Outcome.isSuccess]

end TestCase

/-! ## Suites -/

namespace Suite

/-- The outcomes of the test cases of a suite, each on its own page. -/
def events (suite : Suite) (pages : List Page) : List Outcome :=
  (suite.zip pages).flatMap fun pair => TestCase.outcomes pair.2 pair.1.assertions

/-- A suite fetches the pages of its requests, and the rest depends on these pages. -/
theorem runCases_eq
    (fetch : Fetch σ)
    (observe : ω → Outcome → ω)
    (state : σ)
    (seen : ω)
    (suite : Suite) :
    suite.runCases fetch observe state seen =
      let served := fetch.serve state (suite.map TestCase.request)
      (List.zipWith TestCase.resultOn suite served.1, served.2,
        (suite.events served.1).foldl observe seen) := by
  induction suite generalizing state seen with
  | nil => rfl
  | cons testCase rest hypothesis =>
      simp only [runCases, TestCase.run_eq, hypothesis, List.map_cons, Fetch.serve_cons,
        List.zipWith_cons_cons, events, List.zip_cons_cons, List.flatMap_cons,
        List.foldl_append]

/-- The same for a suite that is run with an observer. -/
theorem runWith_eq
    (fetch : Fetch σ)
    (observe : ω → Outcome → ω)
    (state : σ)
    (seen : ω)
    (suite : Suite) :
    suite.runWith fetch observe state seen =
      let served := fetch.serve state (suite.map TestCase.request)
      (⟨List.zipWith TestCase.resultOn suite served.1⟩, served.2,
        (suite.events served.1).foldl observe seen) := by
  simp only [runWith, runCases_eq]

/-- The outcomes that fail are those that the results of failed test cases hold, one for
each of them. -/
theorem filter_events
    (suite : Suite)
    (pages : List Page) :
    ((suite.events pages).filter fun event => !event.isSuccess).map some =
      ((List.zipWith TestCase.resultOn suite pages).filter fun result =>
        !result.isSuccess).map CaseResult.failed := by
  induction suite generalizing pages with
  | nil => rfl
  | cons testCase rest hypothesis =>
      cases pages with
      | nil => rfl
      | cons page pages =>
          have step : (events (testCase :: rest) (page :: pages)) =
              TestCase.outcomes page testCase.assertions ++ events rest pages := rfl
          rw [step, List.filter_append, List.map_append, hypothesis,
            TestCase.filter_outcomes, List.zipWith_cons_cons, List.filter_cons]
          cases failed : (testCase.resultOn page).failed with
          | none => simp [CaseResult.isSuccess, failed]
          | some outcome => simp [CaseResult.isSuccess, failed]

end Suite

/-! ## Results of a suite -/

/-- What a result says about a suite whose test cases were answered with some pages. -/
structure SuiteResult.Reports (suite : Suite) (pages : List Page) (result : SuiteResult) :
    Prop where
  /-- There is one result for each test case, in order. -/
  testCases_eq : result.results.map CaseResult.testCase = suite
  /-- Each of them is the one of its test case on its own page, with nobody watching. -/
  results_eq : result.results = List.zipWith
    (fun testCase page =>
      (testCase.run (Fetch.always page) (fun seen _ => seen) () ()).1) suite pages
  /-- The events of the suite are what an observer sees of each test case on its own. -/
  events_eq : suite.events pages = (suite.zip pages).flatMap fun pair =>
    (pair.1.run (Fetch.always pair.2) Suite.collect () []).2.2
  /-- The failing outcomes are those that the failed test cases hold, one for each. -/
  failures_eq : ((suite.events pages).filter fun event => !event.isSuccess).map some =
    result.failures.map CaseResult.failed
  total_eq : result.total = suite.length
  failed_le : result.failed ≤ result.total
  failed_add_successful : result.failed + result.successful = result.total
  isSuccess_iff : result.isSuccess = true ↔
    ∀ event ∈ suite.events pages, event.isSuccess = true

namespace Suite

/-- An observer that collects outcomes has collected all that it saw. -/
theorem foldl_collect (seen : List Outcome) : seen.foldl collect [] = seen := by
  change seen.foldl (fun before outcome => before ++ [outcome]) [] = seen
  rw [List.foldl_append_eq_append, ← List.flatMap_def, List.flatMap_singleton',
    List.nil_append]

/-- As many test cases fail as there are failing outcomes. -/
theorem isSuccess_iff_events
    {suite : Suite}
    {pages : List Page}
    {result : SuiteResult}
    (failures : ((suite.events pages).filter fun event => !event.isSuccess).map some =
      result.failures.map CaseResult.failed) :
    result.isSuccess = true ↔ ∀ event ∈ suite.events pages, event.isSuccess = true := by
  have count := congrArg List.length failures
  rw [List.length_map, List.length_map] at count
  rw [SuiteResult.isSuccess, SuiteResult.failed, ← count, beq_iff_eq,
    List.length_eq_zero_iff, List.filter_eq_nil_iff]
  simp

/-- The results on as many pages as there are test cases report on the suite. -/
theorem reports_zipWith
    {suite : Suite}
    {pages : List Page}
    (answered : pages.length = suite.length) :
    SuiteResult.Reports suite pages ⟨List.zipWith TestCase.resultOn suite pages⟩ where
  testCases_eq := by
    have same : List.zipWith (fun testCase page =>
        (TestCase.resultOn testCase page).testCase) suite pages =
          (suite.zip pages).map Prod.fst := by
      rw [List.zip, List.map_zipWith]
      rfl
    rw [List.map_zipWith, same, List.map_fst_zip (Nat.le_of_eq answered.symm)]
  results_eq := by simp only [TestCase.run_eq, Fetch.always]
  events_eq := by simp only [TestCase.run_eq, Fetch.always, foldl_collect, events]
  failures_eq := filter_events suite pages
  total_eq := by simp [SuiteResult.total, answered]
  failed_le := List.length_filter_le _ _
  failed_add_successful := Nat.add_sub_of_le (List.length_filter_le _ _)
  isSuccess_iff := isSuccess_iff_events (filter_events suite pages)

/-- A suite hands the fetcher one request per test case, in order, and nothing else.  The
result reports on the suite with the pages of these requests, the observer sees the
outcomes of one test case after those of the other, and without an observer the result
is the same. -/
theorem runWith_reports
    (fetch : Fetch σ)
    (observe : ω → Outcome → ω)
    (state : σ)
    (seen : ω)
    (suite : Suite) :
    let requests := suite.map TestCase.request
    let served := fetch.serve state requests
    let result := (suite.runWith fetch observe state seen).1
    let lastSeen := (suite.events served.1).foldl observe seen
    suite.runWith fetch observe state seen = (result, served.2, lastSeen) ∧
    suite.runWith fetch.logged observe (state, []) seen =
      (result, (served.2, requests), lastSeen) ∧
    result.Reports suite served.1 ∧
    suite.run fetch state = (result, served.2) := by
  intro requests served result lastSeen
  have run := suite.runWith_eq fetch observe state seen
  have result_eq : result = ⟨List.zipWith TestCase.resultOn suite served.1⟩ :=
    congrArg Prod.fst run
  refine ⟨?_, ?_, ?_, ?_⟩
  · rw [result_eq]
    exact run
  · rw [runWith_eq, Fetch.serve_logged, result_eq]
    rfl
  · rw [result_eq]
    exact reports_zipWith (by simp [served, requests])
  · rw [result_eq, Suite.run, runWith_eq]

end Suite
end PageCheck
