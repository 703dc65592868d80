import PageCheck.Proofs.Script.Runs
import PageCheck.Proofs.Suite.Building

/-!
# Every test case checks the status

A test case that was read from a file checks the status of its page: either by the
assertion of success that its request line has put first, or by assertions of status
codes, which have taken the place of that one.
-/

namespace PageCheck

/-- A test case checks the status in exactly one of two ways.  Either it starts with the
assertion of success at its own line, and has neither a second one nor an assertion of a
status code; or it has no assertion of success, but one of a status code. -/
def TestCase.ChecksStatus (testCase : TestCase) : Prop :=
  (∃ explicit, testCase.assertions = Assertion.success testCase.location :: explicit ∧
    ∀ assertion ∈ explicit,
      assertion.isDefault = false ∧ assertion.isStatusCode = false) ∨
  ((∀ assertion ∈ testCase.assertions, assertion.isDefault = false) ∧
    ∃ assertion ∈ testCase.assertions, assertion.isStatusCode = true)

namespace TestCase

theorem ChecksStatus.opened
    (location : Location)
    (method : Method)
    (url : Url) :
    (opened location method url).ChecksStatus :=
  Or.inl ⟨[], rfl, by simp⟩

/-- A test case that checks the status has an assertion. -/
theorem ChecksStatus.assertions_ne_nil
    {testCase : TestCase}
    (checks : testCase.ChecksStatus) :
    testCase.assertions ≠ [] := by
  rcases checks with ⟨explicit, shape, _⟩ | ⟨_, assertion, member, _⟩
  · rw [shape]
    exact List.cons_ne_nil _ _
  · exact List.ne_nil_of_mem member

/-- Every further assertion leaves the status checked. -/
theorem ChecksStatus.addAssertion
    {testCase : TestCase}
    {assertion : Assertion}
    (checks : testCase.ChecksStatus)
    (explicit : assertion.isDefault = false) :
    (testCase.addAssertion assertion).ChecksStatus := by
  cases status : assertion.isStatusCode with
  | true =>
      right
      simp only [TestCase.addAssertion, status, if_true]
      refine ⟨?_, assertion, by simp, status⟩
      intro other member
      rcases List.mem_append.1 member with kept | added
      · simpa using (List.mem_filter.1 kept).2
      · rw [List.mem_singleton.1 added]
        exact explicit
  | false =>
      simp only [ChecksStatus, TestCase.addAssertion, status, Bool.false_eq_true, if_false]
      rcases checks with ⟨rest, shape, others⟩ | ⟨noDefault, code, member, isCode⟩
      · left
        refine ⟨rest ++ [assertion], by rw [shape]; rfl, ?_⟩
        intro other member
        rcases List.mem_append.1 member with kept | added
        · exact others other kept
        · rw [List.mem_singleton.1 added]
          exact ⟨explicit, status⟩
      · right
        refine ⟨?_, code, List.mem_append_left _ member, isCode⟩
        intro other member
        rcases List.mem_append.1 member with kept | added
        · exact noDefault other kept
        · rw [List.mem_singleton.1 added]
          exact explicit

end TestCase

/-- In a file with any content, every test case checks the status, and it has the place
of a request line.  A line that adds an error leaves all test cases as they are, so
that a rejected assertion does not take the place of the assertion of success. -/
theorem Script.ofContent_checksStatus
    (files : FileSystem)
    (path : Text)
    (scope : Variables)
    (content : Text) :
    (∀ testCase ∈ (ofContent files path scope content).suite,
      testCase.ChecksStatus ∧ testCase.assertions ≠ [] ∧
      ∃ line number, (line, number) ∈ (Text.lines content).zipIdx 1 ∧
        Reader.isRequestLine (Text.trim line) = true ∧
        testCase.location = ⟨path, number⟩) ∧
    ∀ lines line,
      (ofLines files path scope (lines ++ [line])).errors ≠
          (ofLines files path scope lines).errors →
      (ofLines files path scope (lines ++ [line])).suite =
        (ofLines files path scope lines).suite := by
  constructor
  · have kept : TestCase.Kept files path ((Text.lines content).zipIdx 1) fun testCase =>
        testCase.ChecksStatus ∧
        ∃ line number, (line, number) ∈ (Text.lines content).zipIdx 1 ∧
          Reader.isRequestLine (Text.trim line) = true ∧
          testCase.location = ⟨path, number⟩ :=
      { opened := fun method url inside request =>
          ⟨.opened _ method url, _, _, inside, request, rfl⟩
        asserted := by
          rintro _ _ testCase _ _ _ _ ⟨checks, place⟩ built
          have explicit := (Expectation.build_eq_ok_iff.1 built).isDefault_eq_false
          exact ⟨checks.addAssertion explicit, place⟩
        modified := by
          rintro testCase extended _ _ ⟨checks, place⟩ _ attached
          rw [(TestCase.addModifier_eq_ok_iff.1 attached).2.2]
          exact ⟨checks, place⟩ }
    intro testCase member
    obtain ⟨checks, place⟩ := forall_suite_ofLines kept scope testCase member
    exact ⟨checks, checks.assertions_ne_nil, place⟩
  · intro lines line added
    simp only [ofLines, Reader.readLines_eq_readFrom, Reader.readFrom_append,
      Reader.readFrom_cons, Reader.readFrom_nil] at added ⊢
    exact Reader.suite_step_of_errors_ne added

end PageCheck
