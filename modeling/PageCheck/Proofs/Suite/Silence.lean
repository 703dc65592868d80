import PageCheck.Proofs.Suite.Execution
import PageCheck.Proofs.Suite.StatusCheck
import PageCheck.Proofs.Suite.WellFormed

/-!
# Servers that do not answer

A request that could not be sent is answered with a page of its own, which has the status
zero.  A test case that was read from a file does not pass on this page unless its lines
say so: every status code that it asserts has to be negated, and there has to be one, as
the assertion of success fails.
-/

namespace PageCheck

/-- Whether an assertion demands an answer: that of success does, and so does that of a
status code, unless it is negated. -/
def Assertion.demandsAnswer (assertion : Assertion) : Bool :=
  assertion.isDefault || (assertion.isStatusCode && !assertion.modifiers.negated)

/-- What the result of a test case is like whose request could not be sent. -/
structure TestCase.NoticesSilence (testCase : TestCase) (result : CaseResult) : Prop where
  of_success : result.isSuccess = true → ∀ assertion ∈ testCase.assertions,
    assertion.isDefault = false ∧
    (assertion.isStatusCode = true → assertion.modifiers.negated = true)
  without_status : (∀ assertion ∈ testCase.assertions, assertion.isStatusCode = false) →
    result.isSuccess = false
  with_status : (∃ assertion ∈ testCase.assertions,
      assertion.isStatusCode = true ∧ assertion.modifiers.negated = false) →
    result.isSuccess = false

/-! ## Assertions on the page of a failure -/

/-- An assertion that demands an answer fails without one.  The assertion of success is
never negated, and no status code that can be asserted is zero. -/
theorem Assertion.WellFormed.holds_unreachable
    {assertion : Assertion}
    (wellFormed : assertion.WellFormed)
    (demands : assertion.demandsAnswer = true) :
    assertion.holds .unreachable = false := by
  obtain ⟨location, modifiers, check⟩ := assertion
  cases check with
  | success =>
      have positive : modifiers.negated = false := by
        cases negated : modifiers.negated with
        | false => rfl
        | true => cases wellFormed.allowed .negated negated
      simp [holds, Check.holds, Page.unreachable, positive]
  | statusCode code =>
      have positive : modifiers.negated = false := by
        simpa [demandsAnswer, isDefault, isStatusCode] using demands
      have nonzero : 0 ≠ code := by
        have low : 100 ≤ code := wellFormed.check.1
        omega
      simp [holds, Check.holds, Page.unreachable, positive, nonzero]
  | contains | containsNot | equals | empty | header =>
      simp [demandsAnswer, isDefault, isStatusCode] at demands

/-- An assertion that demands no answer is not that of success, and asserts a status code
only in the negative. -/
theorem Assertion.demandsAnswer_eq_false_iff
    {assertion : Assertion} :
    assertion.demandsAnswer = false ↔
      assertion.isDefault = false ∧
        (assertion.isStatusCode = true → assertion.modifiers.negated = true) := by
  simp [demandsAnswer]

/-! ## Test cases on the page of a failure -/

namespace TestCase

variable {testCase : TestCase}

/-- A test case with an assertion that demands an answer fails without one. -/
theorem isSuccess_resultOn_unreachable
    (wellFormed : ∀ assertion ∈ testCase.assertions, assertion.WellFormed)
    (demands : ∃ assertion ∈ testCase.assertions, assertion.demandsAnswer = true) :
    (testCase.resultOn .unreachable).isSuccess = false := by
  obtain ⟨assertion, inside, demanding⟩ := demands
  rw [← Bool.not_eq_true, isSuccess_resultOn_iff]
  intro passes
  have holds := passes assertion inside
  rw [(wellFormed assertion inside).holds_unreachable demanding] at holds
  cases holds

/-- Without the assertion of a status code there is that of success. -/
theorem ChecksStatus.exists_default
    (checks : testCase.ChecksStatus)
    (none : ∀ assertion ∈ testCase.assertions, assertion.isStatusCode = false) :
    ∃ assertion ∈ testCase.assertions, assertion.isDefault = true := by
  rcases checks with ⟨explicit, shape, _⟩ | ⟨_, assertion, inside, status⟩
  · rw [shape]
    exact ⟨_, List.mem_cons_self, rfl⟩
  · rw [none assertion inside] at status
    cases status

/-- A test case that checks the status notices that there is no answer. -/
theorem ChecksStatus.noticesSilence
    (checks : testCase.ChecksStatus)
    (wellFormed : ∀ assertion ∈ testCase.assertions, assertion.WellFormed) :
    testCase.NoticesSilence (testCase.resultOn .unreachable) where
  of_success := by
    intro passes assertion inside
    rw [← Assertion.demandsAnswer_eq_false_iff, ← Bool.not_eq_true]
    intro demands
    rw [isSuccess_resultOn_unreachable wellFormed ⟨assertion, inside, demands⟩] at passes
    cases passes
  without_status := by
    intro none
    obtain ⟨assertion, inside, default⟩ := checks.exists_default none
    exact isSuccess_resultOn_unreachable wellFormed
      ⟨assertion, inside, by simp [Assertion.demandsAnswer, default]⟩
  with_status := by
    rintro ⟨assertion, inside, status, positive⟩
    exact isSuccess_resultOn_unreachable wellFormed
      ⟨assertion, inside, by simp [Assertion.demandsAnswer, status, positive]⟩

/-- Every line keeps that the status is checked, by assertions that are well formed. -/
theorem kept_checksStatus_and_wellFormed
    (files : FileSystem)
    (path : Text)
    (numbered : List (Text × Nat)) :
    Kept files path numbered fun testCase =>
      testCase.ChecksStatus ∧ ∀ assertion ∈ testCase.assertions, assertion.WellFormed where
  opened method url _ _ :=
    ⟨.opened _ method url, (WellFormed.opened files _ method url).assertions⟩
  asserted := by
    rintro _ _ testCase _ _ assertion _ ⟨checks, wellFormed⟩ built
    have builds := Expectation.build_eq_ok_iff.1 built
    refine ⟨checks.addAssertion builds.isDefault_eq_false, ?_⟩
    intro other inside
    rcases mem_of_mem_addAssertion inside with before | rfl
    · exact wellFormed other before
    · exact Assertion.wellFormed_of_builds builds
  modified := by
    rintro testCase extended _ _ holds _ attached
    obtain ⟨-, -, rfl⟩ := addModifier_eq_ok_iff.1 attached
    exact holds

end TestCase

/-- In a file with any content, every test case notices that its request could not be sent,
whatever else it asserts. -/
theorem Script.ofContent_noticesSilence
    {σ ω : Type}
    {testCase : TestCase}
    (files : FileSystem)
    (path : Text)
    (scope : Variables)
    (content : Text)
    (member : testCase ∈ (ofContent files path scope content).suite)
    (fetch : Fetch σ)
    (observe : ω → Outcome → ω)
    (state : σ)
    (seen : ω)
    (silent : (fetch state testCase.request).1 = .unreachable) :
    testCase.NoticesSilence (testCase.run fetch observe state seen).1 := by
  have kept := TestCase.kept_checksStatus_and_wellFormed files path
    ((Text.lines content).zipIdx 1)
  obtain ⟨checks, wellFormed⟩ := forall_suite_ofLines kept scope testCase member
  have result_eq : (testCase.run fetch observe state seen).1 = testCase.resultOn .unreachable := by
    rw [TestCase.run_eq, ← silent]
  rw [result_eq]
  exact checks.noticesSilence wellFormed

/-- Of three test cases, only the one passes without an answer whose only status code is
negated.  The first one has a status code on a line that is rejected. -/
theorem Script.ofContent_noticesSilence_statusCodes :
    let files := (FileNode.directory []).toFileSystem []
    let content : Text := Text.unlines ["get a:", "assert-status-code 0 !", "assert-empty",
      "get b:", "assert-status-code 500 !", "assert-status-code 200",
      "get c:", "assert-status-code 500 !"]
    let suite := (ofContent files "t" {} content).suite
    let result (testCase : TestCase) : CaseResult :=
      (testCase.run (Fetch.always .unreachable) Suite.collect () []).1
    suite.map (fun testCase => (result testCase).isSuccess) = [false, false, true] ∧
    ∀ testCase ∈ suite, testCase.NoticesSilence (result testCase) := by
  intro files content suite result
  refine ⟨by decide +kernel, ?_⟩
  intro testCase member
  exact ofContent_noticesSilence files "t" {} content member (Fetch.always .unreachable)
    Suite.collect () [] rfl

end PageCheck
