import PageCheck.Proofs.Matcher.Pattern
import PageCheck.Proofs.Suite.ShortCircuit

/-!
# Negated assertions

The negation is a modifier like the others, but no rule of what is built depends on it.  An
assertion is therefore built with it exactly when it is built without it, and of the two
exactly one holds on a page.  The assertion that a body does not contain a text has its
negation built in; it cannot be told from the negated assertion that the body contains it.
-/

namespace PageCheck

open Results

/-! ## The negation among modifiers -/

namespace Modifiers

variable {modifiers allowed : Modifiers}

/-- The negation is never among the modifiers that are too many, where it is allowed. -/
theorem without_insert_negated (admitted : allowed.negated = true) :
    (modifiers.insert .negated).without allowed = modifiers.without allowed := by
  apply ext_has
  intro modifier
  have admits : allowed.has .negated = true := admitted
  cases modifier <;> simp [insert, admits]

/-- Messages do not name the negation behind their wording. -/
@[simp] theorem suffix_insert_negated :
    (modifiers.insert .negated).suffix = modifiers.suffix := by
  have same : (modifiers.insert .negated).without (only .negated) =
      modifiers.without (only .negated) := without_insert_negated rfl
  rw [suffix, suffix, display, display, same]

end Modifiers

/-- Matchers take no notice of the negation. -/
@[simp] theorem Matcher.build_insert_negated
    (expected : Text)
    (mode : MatchMode)
    (modifiers : Modifiers) :
    build expected mode (modifiers.insert .negated) = build expected mode modifiers := by
  simp [build, Modifiers.insert, Modifiers.union, Modifiers.only]

namespace Assertion

/-! ## Building negated assertions -/

/-- An assertion with the negation among its modifiers. -/
def negate (assertion : Assertion) : Assertion :=
  { assertion with modifiers := assertion.modifiers.insert .negated }

/-- The negation of an assertion of a check that can be negated is built, or refused, like
the assertion itself. -/
theorem build_insert_negated
    {check : Check}
    (admitted : check.allowed.negated = true)
    (location : Location)
    (modifiers : Modifiers) :
    build location check (modifiers.insert .negated) =
      (build location check modifiers).map negate := by
  rw [build, build, checkModifiers, checkModifiers, Modifiers.without_insert_negated admitted]
  split <;> rfl

end Assertion

/-- Whether the assertion that an expectation asks for can be negated: all can but the one
that has its negation built in. -/
def Expectation.admitsNegation : Expectation → Bool
  | .containsNot _ => false
  | _ => true

/-- With the negation, an expectation becomes the negated assertion. -/
theorem Expectation.build_insert_negated
    {expectation : Expectation}
    (admits : expectation.admitsNegation = true)
    (location : Location)
    (modifiers : Modifiers) :
    expectation.build location (modifiers.insert .negated) =
      (expectation.build location modifiers).map Assertion.negate := by
  cases expectation with
  | statusCode code =>
      simp only [build, Assertion.statusCode]
      split
      · exact Assertion.build_insert_negated rfl location modifiers
      · rfl
  | contains text =>
      simp only [build, Assertion.contains_eq, Matcher.build_insert_negated]
      cases Matcher.build text .substring modifiers <;> rfl
  | containsNot text => cases admits
  | equals text =>
      simp only [build, Assertion.equals_eq, Matcher.build_insert_negated]
      cases Matcher.build text .exact modifiers <;> rfl
  | empty => exact Assertion.build_insert_negated rfl location modifiers
  | header argument =>
      simp only [build, Assertion.header, Matcher.build_insert_negated]
      split
      · rfl
      · exact Assertion.build_insert_negated rfl location modifiers
      · next name value _ _ =>
          cases Matcher.build value .exact modifiers with
          | error cause => rfl
          | ok matcher => exact Assertion.build_insert_negated rfl location modifiers

namespace Assertion

variable {assertion : Assertion} {location : Location} {modifiers : Modifiers}

/-! ## Testing negated assertions -/

/-- Where an assertion is not negated, its negation holds exactly if it does not. -/
theorem holds_negate
    (positive : assertion.modifiers.negated = false)
    (page : Page) :
    assertion.negate.holds page = !assertion.holds page := by
  simp [holds, negate, Modifiers.insert, Modifiers.union, Modifiers.only, positive]

/-- The message of a failed assertion is never empty. -/
theorem failure_ne_nil
    (assertion : Assertion)
    (page : Page) :
    assertion.failure page ≠ [] := by
  have start : ("Failed asserting that " : Text) ≠ [] := by decide
  apply List.append_ne_nil_of_left_ne_nil
  exact List.append_ne_nil_of_left_ne_nil start _

/-- The error of an assertion that did not hold is its message. -/
theorem error_test
    (assertion : Assertion)
    (page : Page) :
    (assertion.test page).error =
      if assertion.holds page = true then [] else assertion.failure page := by
  cases holds : assertion.holds page with
  | true => rw [test_of_holds holds]; rfl
  | false => rw [test_of_not_holds holds]; rfl

/-- The error of an assertion is empty exactly if it held. -/
theorem error_test_eq_nil_iff
    {page : Page} :
    (assertion.test page).error = [] ↔ (assertion.test page).isSuccess = true := by
  rw [error_test, isSuccess_test]
  split
  · next holds => simp [holds]
  · next fails => simp [fails, assertion.failure_ne_nil page]

/-- The error of an assertion that did not hold ends with what tells its modifiers. -/
theorem suffix_error_test
    {page : Page}
    (fails : (assertion.test page).isSuccess = false) :
    assertion.modifiers.suffix <:+ (assertion.test page).error := by
  rw [isSuccess_test] at fails
  rw [error_test, fails]
  exact List.suffix_append _ _

/-- An expectation that admits the negation becomes an assertion with it exactly if it does
without it, and fails with the same error otherwise.  On every page exactly one of the two
assertions holds.  Of whatever assertion, the error is empty exactly if it held; if it did not,
the error ends with what tells its modifiers. -/
theorem test_negated (location : Location) :
    (∀ (expectation : Expectation) (modifiers : Modifiers),
      expectation.admitsNegation = true → modifiers.negated = false →
      Corresponds
        (fun assertion negation => ∀ page,
          (negation.test page).isSuccess = !(assertion.test page).isSuccess)
        (expectation.build location modifiers)
        (expectation.build location (modifiers.insert .negated))) ∧
    ∀ (assertion : Assertion) (page : Page),
      ((assertion.test page).error = [] ↔ (assertion.test page).isSuccess = true) ∧
      ((assertion.test page).isSuccess = false →
        assertion.modifiers.suffix <:+ (assertion.test page).error) := by
  refine ⟨?_, fun _ _ => ⟨error_test_eq_nil_iff, suffix_error_test⟩⟩
  intro expectation modifiers admits positive
  rw [Expectation.build_insert_negated admits]
  cases built : expectation.build location modifiers with
  | error cause => exact .error cause
  | ok assertion =>
      refine .ok fun page => ?_
      have same : assertion.modifiers = modifiers :=
        (Expectation.build_eq_ok_iff.1 built).modifiers_eq
      rw [isSuccess_test, isSuccess_test, holds_negate (by rw [same, positive])]

/-- A body that matches a pattern, with the message of the negated assertion. -/
theorem test_negated_pattern :
    let page : Page := ⟨200, [], "b"⟩
    let expectation : Expectation := .equals "a|b"
    let modifiers : Modifiers := .only .regexp
    expectation.admitsNegation = true ∧ modifiers.negated = false ∧
    ∃ assertion negation,
      expectation.build ⟨"t", 1⟩ modifiers = .ok assertion ∧
      expectation.build ⟨"t", 1⟩ (modifiers.insert .negated) = .ok negation ∧
      (assertion.test page).isSuccess = true ∧ (negation.test page).isSuccess = false ∧
      (" (regexp)" : Text) <:+ (negation.test page).error := by
  intro page expectation modifiers
  have built : ∃ assertion, expectation.build ⟨"t", 1⟩ modifiers = .ok assertion ∧
      (assertion.test page).isSuccess = true := ⟨_, rfl, by decide⟩
  obtain ⟨assertion, built, passes⟩ := built
  have corresponds := (test_negated ⟨"t", 1⟩).1 expectation modifiers rfl rfl
  rw [built] at corresponds
  obtain ⟨negation, negated, opposite⟩ := corresponds.exists_of_ok
  have fails := opposite page
  rw [passes] at fails
  refine ⟨rfl, rfl, assertion, negation, built, negated, passes, fails, ?_⟩
  have ending := ((test_negated ⟨"t", 1⟩).2 negation page).2 fails
  rwa [(Expectation.build_eq_ok_iff.1 negated).modifiers_eq] at ending

/-! ## Bodies that do not contain a text -/

/-- Without the negation, the assertion that a body does not contain a text is built as soon as
the text can be looked for. -/
theorem containsNot_eq
    (positive : modifiers.negated = false)
    (location : Location)
    (expected : Text) :
    containsNot location expected modifiers =
      (Matcher.build expected .substring modifiers).map fun matcher =>
        ⟨location, modifiers, .containsNot matcher⟩ := by
  have allowed : ∀ modifier, modifiers.has modifier = true →
      Check.unnegatable.has modifier = true := by
    intro modifier given
    cases modifier with
    | negated =>
        rw [Modifiers.has, positive] at given
        cases given
    | caseInsensitive | regexp => rfl
  rw [containsNot, checkModifiers_eq_ok_iff.2 allowed, ok_do]
  cases Matcher.build expected .substring modifiers with
  | error cause => rfl
  | ok matcher => exact build_eq_ok_iff.2 ⟨allowed, rfl⟩

/-- The assertion that a body does not contain a text holds where the negated assertion that
the body contains it does. -/
theorem holds_containsNot
    (positive : modifiers.negated = false)
    (matcher : Matcher)
    (page : Page) :
    holds ⟨location, modifiers, .containsNot matcher⟩ page =
      holds ⟨location, modifiers.insert .negated, .contains matcher⟩ page := by
  simp [holds, Check.holds, Modifiers.insert, Modifiers.union, Modifiers.only, positive]

/-- Both fail with the same message. -/
theorem failure_containsNot
    (matcher : Matcher)
    (page : Page) :
    failure ⟨location, modifiers, .containsNot matcher⟩ page =
      failure ⟨location, modifiers.insert .negated, .contains matcher⟩ page := by
  have negated : (modifiers.insert .negated).negated = true := Bool.or_true _
  have wording : Check.failure modifiers.negated page (.containsNot matcher) =
      Check.failure true page (.contains matcher) := rfl
  rw [failure, failure, Modifiers.suffix_insert_negated, negated, wording]

/-- With modifiers other than the negation, the assertion that a body does not contain a text is
built exactly if the negated assertion that the body contains it is, and both fail by calling the
text an invalid pattern otherwise.  On every page the two agree in their success and in their
error. -/
theorem containsNot_corresponds
    (positive : modifiers.negated = false)
    (location : Location)
    (expected : Text) :
    Corresponds
      (fun absent denied => ∀ page,
        (absent.test page).isSuccess = (denied.test page).isSuccess ∧
        (absent.test page).error = (denied.test page).error)
      (containsNot location expected modifiers)
      (contains location expected (modifiers.insert .negated)) ∧
    FailsWith (· = .invalidPattern expected) (containsNot location expected modifiers) := by
  rw [containsNot_eq positive, contains_eq, Matcher.build_insert_negated]
  refine ⟨?_, Matcher.build_failsWith.map _⟩
  apply corresponds_map
  intro matcher _ page
  have holds_eq := @holds_containsNot location modifiers positive matcher page
  have failure_eq := @failure_containsNot location modifiers matcher page
  simp only [isSuccess_test, error_test, holds_eq, failure_eq, and_self]

/-- A body that contains a text in other letters, and the message of either assertion about
it. -/
theorem containsNot_corresponds_ignoring_case :
    let page : Page := ⟨200, [], "xÉÉ"⟩
    let modifiers : Modifiers := .only .caseInsensitive
    modifiers.negated = false ∧
    ∃ absent denied,
      containsNot ⟨"t", 1⟩ "éé" modifiers = .ok absent ∧
      contains ⟨"t", 1⟩ "éé" (modifiers.insert .negated) = .ok denied ∧
      (absent.test page).isSuccess = false ∧ (denied.test page).isSuccess = false ∧
      (denied.test page).error = "Failed asserting that response body does not contain " ++
        "\"éé\" (case insensitive)" := by
  intro page modifiers
  have built : ∃ absent, containsNot ⟨"t", 1⟩ "éé" modifiers = .ok absent ∧
      (absent.test page).isSuccess = false ∧
      (absent.test page).error = "Failed asserting that response body does not contain " ++
        "\"éé\" (case insensitive)" := ⟨_, rfl, by decide, by decide +kernel⟩
  obtain ⟨absent, built, fails, message⟩ := built
  have corresponds := (@containsNot_corresponds modifiers rfl ⟨"t", 1⟩ "éé").1
  rw [built] at corresponds
  obtain ⟨denied, alike, agree⟩ := corresponds.exists_of_ok
  rw [(agree page).1] at fails
  rw [(agree page).2] at message
  exact ⟨rfl, absent, denied, built, alike, by rw [(agree page).1, fails], fails, message⟩

end Assertion
end PageCheck
