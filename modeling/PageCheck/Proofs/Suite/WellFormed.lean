import PageCheck.Proofs.Script.Runs
import PageCheck.Proofs.Suite.Building

/-!
# Well-formed test cases

Every rule under which assertions and request modifiers are built, and under which
request modifiers are attached, holds of every test case that was read from a file,
whether or not the file has errors.
-/

namespace PageCheck

/-! ## Assertions -/

/-- A matcher of a mode that does what the modifiers of its assertion ask for: it ignores
case, and it has a pattern, exactly if they say so.  The pattern is that of the
expected text. -/
structure Matcher.Fits (mode : MatchMode) (modifiers : Modifiers) (matcher : Matcher) :
    Prop where
  mode_eq : matcher.mode = mode
  ignoresCase_iff : matcher.ignoresCase = true ↔ modifiers.has .caseInsensitive = true
  isSome_pattern_iff : matcher.pattern.isSome = true ↔ modifiers.has .regexp = true
  pattern_eq : ∀ pattern ∈ matcher.pattern,
    Matcher.compile? mode matcher.ignoresCase matcher.expected = some pattern

/-- A matcher that was built fits. -/
theorem Matcher.fits_of_build
    {expected : Text}
    {mode : MatchMode}
    {modifiers : Modifiers}
    {matcher : Matcher}
    (built : Matcher.build expected mode modifiers = .ok matcher) :
    matcher.Fits mode modifiers := by
  rw [Matcher.build] at built
  split at built
  · next regexp =>
      split at built
      · next pattern _ compiled =>
          cases built
          refine ⟨rfl, Iff.rfl, ?_, ?_⟩
          · simpa [Modifiers.has] using regexp
          · intro other same
            cases same
            exact compiled
      · cases built
  · next literal =>
      cases built
      refine ⟨rfl, Iff.rfl, ?_, ?_⟩
      · simpa [Modifiers.has] using literal
      · intro pattern none
        cases none

/-- The rules that a check keeps with the modifiers of its assertion. -/
def Check.WellFormed (modifiers : Modifiers) : Check → Prop
  | .success => True
  | .statusCode code => 100 ≤ code ∧ code ≤ 599
  | .contains matcher => matcher.Fits .substring modifiers
  | .containsNot matcher => matcher.Fits .substring modifiers
  | .equals matcher => matcher.Fits .exact modifiers
  | .empty => True
  | .header name value =>
      name ≠ [] ∧ Text.IsTrimmed name ∧ ':' ∉ name ∧
      ∀ matcher ∈ value, matcher.Fits .exact modifiers ∧
        matcher.expected ≠ [] ∧ Text.IsTrimmed matcher.expected

/-- An assertion has allowed modifiers only, and its check keeps the rules. -/
structure Assertion.WellFormed (assertion : Assertion) : Prop where
  allowed : assertion.check.Allows assertion.modifiers
  check : assertion.check.WellFormed assertion.modifiers

namespace Assertion

theorem wellFormed_success (location : Location) : (success location).WellFormed :=
  ⟨fun _ inside => inside, trivial⟩

/-- Whatever an expectation becomes is well formed. -/
theorem wellFormed_of_builds
    {location : Location}
    {modifiers : Modifiers}
    {expectation : Expectation}
    {assertion : Assertion}
    (builds : expectation.Builds location modifiers assertion) :
    assertion.WellFormed := by
  cases builds with
  | statusCode low high allowed => exact ⟨allowed, low, high⟩
  | contains matched allowed => exact ⟨allowed, Matcher.fits_of_build matched⟩
  | containsNot matched allowed => exact ⟨allowed, Matcher.fits_of_build matched⟩
  | equals matched allowed => exact ⟨allowed, Matcher.fits_of_build matched⟩
  | empty allowed => exact ⟨allowed, trivial⟩
  | header parts named allowed =>
      obtain ⟨trimmed, absent, _⟩ := headerParts_spec parts
      refine ⟨allowed, named, trimmed, absent, ?_⟩
      intro matcher none
      cases none
  | headerValue parts named matched allowed =>
      obtain ⟨trimmed, absent, values⟩ := headerParts_spec parts
      refine ⟨allowed, named, trimmed, absent, ?_⟩
      intro matcher same
      cases same
      rw [Matcher.expected_of_build matched]
      exact ⟨Matcher.fits_of_build matched, values _ rfl⟩

end Assertion

/-! ## Request modifiers -/

/-- The rules that a request modifier keeps. -/
def RequestModifier.WellFormed (files : FileSystem) : RequestModifier → Prop
  | .header name value =>
      name ≠ [] ∧ (∀ c ∈ name, Text.isBlank c = false) ∧ ':' ∉ name ∧
      Text.IsTrimmed value
  | .parameter name _ => name ≠ []
  | .file name path =>
      name ≠ [] ∧ isAbsolutePath path = true ∧ files.isRegular path = true
  | .raw _ => True

/-- Whatever a change becomes is well formed. -/
theorem RequestModifier.wellFormed_of_builds
    {files : FileSystem}
    {wanted : Change}
    {modifier : RequestModifier}
    (builds : wanted.Builds files modifier) :
    modifier.WellFormed files := by
  cases builds with
  | header split named visible =>
      have absent := (Text.splitFirst?_eq_some_iff.1 split).2
      exact ⟨named, visible, fun inside => absent (Text.mem_of_mem_trim inside),
        Text.isTrimmed_trim _⟩
  | parameter named => exact named
  | file named absolute regular => exact ⟨named, absolute, regular⟩
  | raw => trivial

/-! ## Test cases -/

/-- A test case whose assertions and request modifiers keep their rules; the request
modifiers are allowed for the method, and any two of them are compatible. -/
structure TestCase.WellFormed (files : FileSystem) (testCase : TestCase) : Prop where
  assertions : ∀ assertion ∈ testCase.assertions, assertion.WellFormed
  modifiers : ∀ modifier ∈ testCase.modifiers, modifier.WellFormed files
  allowed : ∀ modifier ∈ testCase.modifiers,
    modifier.isAllowedFor testCase.method = true
  compatible : ∀ left ∈ testCase.modifiers, ∀ right ∈ testCase.modifiers,
    left.isCompatibleWith right = true

namespace TestCase

theorem WellFormed.opened
    (files : FileSystem)
    (location : Location)
    (method : Method)
    (url : Url) :
    (opened location method url).WellFormed files where
  assertions := by
    intro assertion member
    rw [List.mem_singleton.1 member]
    exact Assertion.wellFormed_success location
  modifiers := by simp [TestCase.opened]
  allowed := by simp [TestCase.opened]
  compatible := by simp [TestCase.opened]

/-- A well-formed assertion leaves a test case well formed, whatever it replaces. -/
theorem WellFormed.addAssertion
    {files : FileSystem}
    {testCase : TestCase}
    {assertion : Assertion}
    (wellFormed : testCase.WellFormed files)
    (added : assertion.WellFormed) :
    (testCase.addAssertion assertion).WellFormed files where
  assertions := by
    intro other member
    rcases mem_of_mem_addAssertion member with before | rfl
    · exact wellFormed.assertions other before
    · exact added
  modifiers := wellFormed.modifiers
  allowed := wellFormed.allowed
  compatible := wellFormed.compatible

/-- A well-formed request modifier that can be attached leaves a test case well formed.
It is compared with the modifiers before it only, which is enough because
compatibility does not depend on the order. -/
theorem WellFormed.addModifier
    {files : FileSystem}
    {testCase extended : TestCase}
    {modifier : RequestModifier}
    (wellFormed : testCase.WellFormed files)
    (added : modifier.WellFormed files)
    (attached : testCase.addModifier modifier = .ok extended) :
    extended.WellFormed files := by
  obtain ⟨allowed, compatible, rfl⟩ := addModifier_eq_ok_iff.1 attached
  refine ⟨wellFormed.assertions, ?_, ?_, ?_⟩
  · rw [List.forall_mem_append, List.forall_mem_singleton]
    exact ⟨wellFormed.modifiers, added⟩
  · rw [List.forall_mem_append, List.forall_mem_singleton]
    exact ⟨wellFormed.allowed, allowed⟩
  · intro left leftMember right rightMember
    rcases List.mem_append.1 leftMember with leftOld | leftNew <;>
      rcases List.mem_append.1 rightMember with rightOld | rightNew
    · exact wellFormed.compatible left leftOld right rightOld
    · rw [List.mem_singleton.1 rightNew, RequestModifier.isCompatibleWith_comm]
      exact compatible left leftOld
    · rw [List.mem_singleton.1 leftNew]
      exact compatible right rightOld
    · rw [List.mem_singleton.1 leftNew, List.mem_singleton.1 rightNew]
      exact modifier.isCompatibleWith_self

end TestCase

/-- Every test case of a file with any content is well formed. -/
theorem Script.ofContent_wellFormed
    {testCase : TestCase}
    (files : FileSystem)
    (path : Text)
    (scope : Variables)
    (content : Text)
    (member : testCase ∈ (ofContent files path scope content).suite) :
    testCase.WellFormed files := by
  have kept : TestCase.Kept files path ((Text.lines content).zipIdx 1)
      (TestCase.WellFormed files) :=
    { opened := fun method url _ _ => .opened files _ method url
      asserted := fun _ wellFormed built => wellFormed.addAssertion
        (Assertion.wellFormed_of_builds (Expectation.build_eq_ok_iff.1 built))
      modified := fun wellFormed built attached => wellFormed.addModifier
        (RequestModifier.wellFormed_of_builds (Change.build_eq_ok_iff.1 built)) attached }
  exact forall_suite_ofLines kept scope testCase member

/-- A test case with a file and a header, read behind a line that is rejected. -/
theorem Script.ofContent_wellFormed_file_and_header :
    let files := (FileNode.directory [("f", .regular [])]).toFileSystem []
    let content : Text :=
      "get\npost a:\nwith-post-file upload /f\nassert-header \"A: b\" ~\nassert-empty !"
    ∃ testCase ∈ (ofContent files "t" {} content).suite,
      testCase.location.line = 2 ∧ testCase.modifiers = [.file "upload" "/f"] ∧
      testCase.assertions.length = 3 ∧ testCase.WellFormed files := by
  intro files content
  have shown : (ofContent files "t" {} content).suite.map (fun testCase =>
      (testCase.location.line, testCase.modifiers, testCase.assertions.length)) =
        [(2, [.file "upload" "/f"], 3)] := by
    decide +kernel
  obtain ⟨testCase, suite_eq, same⟩ := List.map_eq_singleton_iff.1 shown
  simp only [Prod.mk.injEq] at same
  have member : testCase ∈ (ofContent files "t" {} content).suite := by
    rw [suite_eq]
    exact List.mem_singleton_self testCase
  exact ⟨testCase, member, same.1, same.2.1, same.2.2,
    ofContent_wellFormed files "t" {} content member⟩

end PageCheck
