import Mathlib.Data.List.TakeWhile
import PageCheck.Proofs.Suite.Execution

/-!
# How far a test case is tested

A test case fetches its page once.  Its assertions are tested in order, all of them if they
hold and otherwise those up to the first one that does not, whose outcome is the result.
Who watches the tests does not matter for any of this.
-/

namespace PageCheck

/-! ## Single assertions -/

namespace Assertion

variable {assertion : Assertion} {page : Page}

/-- The outcome of an assertion that holds has no message. -/
theorem test_of_holds
    (holds : assertion.holds page = true) :
    assertion.test page = ⟨assertion, none⟩ := by
  rw [test, if_pos holds]

/-- The outcome of an assertion that does not hold has the message of that assertion. -/
theorem test_of_not_holds
    (fails : assertion.holds page = false) :
    assertion.test page = ⟨assertion, some (assertion.failure page)⟩ := by
  rw [test, fails]
  rfl

theorem isSuccess_test
    (assertion : Assertion)
    (page : Page) :
    (assertion.test page).isSuccess = assertion.holds page := by
  cases holds : assertion.holds page with
  | true => rw [test_of_holds holds]; rfl
  | false => rw [test_of_not_holds holds]; rfl

end Assertion

/-! ## Outcomes up to the first failure -/

/-- Which outcomes are seen of those that there are, and which of them is the failure: all
and none if all are successful, and otherwise those up to the first failure, which is the
last one that is seen. -/
inductive Outcome.ShortCircuits : List Outcome → List Outcome → Option Outcome → Prop
  | passed
      {outcomes : List Outcome}
      (successful : ∀ outcome ∈ outcomes, outcome.isSuccess = true) :
      ShortCircuits outcomes outcomes none
  | failed
      {front back : List Outcome} {failure : Outcome}
      (successful : ∀ outcome ∈ front, outcome.isSuccess = true)
      (fails : failure.isSuccess = false) :
      ShortCircuits (front ++ failure :: back) (front ++ [failure]) (some failure)

namespace Outcome.ShortCircuits

variable {outcomes seen : List Outcome} {failed : Option Outcome}

/-- Behind a success everything goes on as without it. -/
theorem cons
    {first : Outcome}
    (successful : first.isSuccess = true)
    (rest : ShortCircuits outcomes seen failed) :
    ShortCircuits (first :: outcomes) (first :: seen) failed := by
  cases rest with
  | passed others => exact .passed (List.forall_mem_cons.2 ⟨successful, others⟩)
  | failed others fails =>
      rw [← List.cons_append, ← List.cons_append]
      exact .failed (List.forall_mem_cons.2 ⟨successful, others⟩) fails

/-- What is seen is the successes in front and the first failure. -/
theorem eq_takeWhile_append
    (shortCircuits : ShortCircuits outcomes seen failed) :
    seen = outcomes.takeWhile isSuccess ++ failed.toList ∧
      failed = outcomes.find? fun outcome => !outcome.isSuccess := by
  cases shortCircuits with
  | passed successful =>
      have none : outcomes.find? (fun outcome => !outcome.isSuccess) = none := by
        simpa using successful
      rw [List.takeWhile_eq_self_iff.2 successful, none]
      simp
  | @failed front back failure successful fails =>
      rw [List.takeWhile_append_of_pos successful]
      have none : front.find? (fun outcome => !outcome.isSuccess) = none := by
        simpa using successful
      simp [fails, none]

/-- There is one way only. -/
theorem unique
    {others : List Outcome}
    {other : Option Outcome}
    (shortCircuits : ShortCircuits outcomes seen failed)
    (again : ShortCircuits outcomes others other) :
    others = seen ∧ other = failed := by
  obtain ⟨seenShape, failedShape⟩ := shortCircuits.eq_takeWhile_append
  obtain ⟨othersShape, otherShape⟩ := again.eq_takeWhile_append
  have same : other = failed := otherShape.trans failedShape.symm
  exact ⟨by rw [othersShape, seenShape, same], same⟩

/-- The failure that is found is one of the outcomes. -/
theorem mem_of_mem_failed
    {failure : Outcome}
    (shortCircuits : ShortCircuits outcomes seen failed)
    (found : failure ∈ failed) :
    failure ∈ outcomes ∧ failure.isSuccess = false := by
  cases shortCircuits with
  | passed _ => cases found
  | failed _ fails =>
      cases found
      exact ⟨List.mem_append_cons_self, fails⟩

end Outcome.ShortCircuits

/-! ## Test cases -/

namespace TestCase

variable {σ : Type}

/-- The outcomes that an observer sees and the one that the result holds are those up to
the first failure. -/
theorem shortCircuits_outcomes
    (testCase : TestCase)
    (page : Page) :
    Outcome.ShortCircuits (testCase.assertions.map fun assertion => assertion.test page)
      (outcomes page testCase.assertions) (testCase.resultOn page).failed := by
  rw [resultOn]
  induction testCase.assertions with
  | nil => exact .passed (List.forall_mem_nil _)
  | cons assertion rest hypothesis =>
      cases result : (assertion.test page).isSuccess with
      | true => simpa [outcomes, result] using hypothesis.cons result
      | false =>
          have first : Outcome.ShortCircuits
              ([] ++ assertion.test page :: rest.map fun other => other.test page)
              ([] ++ [assertion.test page]) (some (assertion.test page)) :=
            .failed (List.forall_mem_nil _) result
          simpa [outcomes, result] using first

/-- A test case asks for one page, that of its request, and also does so if it has no
assertions.  Whoever watches sees the outcomes of the assertions in order, all of them if
all hold on the page and otherwise those up to the first that does not.  The result holds
that one, with its message, and does not depend on who watches. -/
theorem run_shortCircuits
    (fetch : Fetch σ)
    (state : σ)
    (testCase : TestCase) :
    let fetched := fetch state testCase.request
    let outcomes := testCase.assertions.map fun assertion => assertion.test fetched.1
    ∃ (seen : List Outcome) (result : CaseResult),
      Outcome.ShortCircuits outcomes seen result.failed ∧
      (∀ others other, Outcome.ShortCircuits outcomes others other →
        others = seen ∧ other = result.failed) ∧
      (result.isSuccess = true ↔
        ∀ assertion ∈ testCase.assertions, assertion.holds fetched.1 = true) ∧
      (∀ failure ∈ result.failed, failure.assertion ∈ testCase.assertions ∧
        failure.assertion.holds fetched.1 = false ∧
        failure.error = failure.assertion.failure fetched.1) ∧
      result.testCase = testCase ∧
      ∀ {ω : Type} (observe : ω → Outcome → ω) (before : ω),
        testCase.run fetch observe state before =
          (result, fetched.2, seen.foldl observe before) ∧
        testCase.run fetch.logged observe (state, []) before =
          (result, (fetched.2, [testCase.request]), seen.foldl observe before) := by
  intro fetched outcomes
  have shortCircuits := testCase.shortCircuits_outcomes fetched.1
  refine ⟨_, testCase.resultOn fetched.1, shortCircuits,
    fun _ _ again => shortCircuits.unique again, isSuccess_resultOn_iff, ?_, rfl, ?_⟩
  · intro failure found
    obtain ⟨member, fails⟩ := shortCircuits.mem_of_mem_failed found
    obtain ⟨assertion, inside, rfl⟩ := List.mem_map.1 member
    rw [Assertion.isSuccess_test] at fails
    rw [Assertion.test_of_not_holds fails]
    exact ⟨inside, fails, rfl⟩
  · intro ω observe before
    exact ⟨run_eq fetch observe state before testCase,
      run_eq fetch.logged observe (state, []) before testCase⟩

end TestCase
end PageCheck
