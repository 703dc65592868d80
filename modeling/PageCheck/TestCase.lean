import PageCheck.Assertion
import PageCheck.RequestModifier

/-!
# Test cases

A test case is one request with the assertions on its page.  The page is fetched
once, and the assertions are tested in order up to the first one that fails.
-/

namespace PageCheck

/-- One request and the assertions on its page. -/
structure TestCase where
  location : Location
  method : Method
  url : Url
  assertions : List Assertion := []
  modifiers : List RequestModifier := []
deriving Repr

/-- How pages are fetched: a request takes a state to a page and a new state. -/
abbrev Fetch (σ : Type) := σ → Request → Page × σ

namespace TestCase

/-! ## Building -/

/-- The test case with one more assertion.  An explicit status code takes the
place of the assertion of success. -/
def addAssertion (testCase : TestCase) (assertion : Assertion) : TestCase :=
  let kept :=
    if assertion.isStatusCode then
      testCase.assertions.filter fun other => !other.isDefault
    else
      testCase.assertions
  { testCase with assertions := kept ++ [assertion] }

/-- The test case with one more request modifier, if the method and the modifiers
that are already attached admit it. -/
def addModifier (testCase : TestCase) (modifier : RequestModifier) :
    Except BuildError TestCase :=
  if modifier.isAllowedFor testCase.method then
    match testCase.modifiers.find? fun other => !modifier.isCompatibleWith other with
    | some other => .error (.incompatible modifier.command other.command)
    | none => .ok { testCase with modifiers := testCase.modifiers ++ [modifier] }
  else
    .error (.methodNotAllowed modifier.command testCase.method)

/-- The request of a test case. -/
def request (testCase : TestCase) : Request :=
  testCase.modifiers.foldl RequestModifier.apply { method := testCase.method, url := testCase.url }

end TestCase

/-- The result of a test case: the outcome of the assertion that failed, if one
did. -/
structure CaseResult where
  testCase : TestCase
  failed : Option Outcome
deriving Repr

namespace CaseResult

/-- The place of the test case that a result is about. -/
def location (result : CaseResult) : Location := result.testCase.location

/-- Whether a test case passed. -/
def isSuccess (result : CaseResult) : Bool := result.failed.isNone

end CaseResult

namespace TestCase

/-! ## Running -/

/-- The outcomes of assertions on a page, up to the first failure. -/
def outcomes (page : Page) : List Assertion → List Outcome
  | [] => []
  | assertion :: rest =>
      let outcome := assertion.test page
      outcome :: if outcome.isSuccess then outcomes page rest else []

/-- Shows the outcomes of assertions to an observer, up to the first failure,
which is given back. -/
def observeAll {ω : Type} (observe : ω → Outcome → ω) (page : Page) (seen : ω) :
    List Assertion → Option Outcome × ω
  | [] => (none, seen)
  | assertion :: rest =>
      let outcome := assertion.test page
      let next := observe seen outcome
      if outcome.isSuccess then
        observeAll observe page next rest
      else
        (some outcome, next)

/-- The result of a test case on a page. -/
def resultOn (testCase : TestCase) (page : Page) : CaseResult :=
  ⟨testCase, (testCase.assertions.map fun assertion => assertion.test page).find? fun
    outcome => !outcome.isSuccess⟩

/-- Fetches the page of a test case and tests its assertions. -/
def run {σ ω : Type} (fetch : Fetch σ) (observe : ω → Outcome → ω) (state : σ) (seen : ω)
    (testCase : TestCase) : CaseResult × σ × ω :=
  let (page, nextState) := fetch state testCase.request
  let (failed, nextSeen) := observeAll observe page seen testCase.assertions
  (⟨testCase, failed⟩, nextState, nextSeen)

end TestCase
end PageCheck
