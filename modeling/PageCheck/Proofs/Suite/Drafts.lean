import PageCheck.Proofs.Script.WrittenLines
import PageCheck.Proofs.Suite.Building

/-!
# Drafts of test cases

A draft holds what a test case is made of: a method, an address, request modifiers and
assertions.  It is written line by line, and each of its lines is the line of a statement
that builds the request modifier or the assertion again.
-/

namespace PageCheck

open Results

/-! ## Written request modifiers -/

namespace RequestModifier

/-- The texts of a request modifier. -/
def texts : RequestModifier → List Text
  | .header name value => [name, value]
  | .parameter name value => [name, value]
  | .file name path => [name, path]
  | .raw content => [content]

/-- The arguments that a request modifier is written with: the name and the value of a
header are one argument. -/
def arguments : RequestModifier → List Text
  | .header name value => [name ++ ": " ++ value]
  | other => other.texts

/-- The line of a request modifier. -/
def write (modifier : RequestModifier) : Text :=
  Text.joinWith [' '] (modifier.command :: modifier.arguments.map Quoted.write)

end RequestModifier

/-- A name and a value make a plain header argument. -/
theorem Text.IsPlain.headerArgument
    {name value : Text}
    (namePlain : name.IsPlain)
    (valuePlain : value.IsPlain) :
    IsPlain (name ++ ": " ++ value) := by
  have shape : name ++ (": " : Text) ++ value = name ++ ':' :: ([] ++ ' ' :: value) := by
    simp
  rw [shape]
  refine ⟨?_, ?_⟩
  · simp [namePlain.whole, valuePlain.whole]
  · have nothing : ¬ Value.HasReference [] := Value.not_hasReference_of_notMem (by simp)
    have behind := Value.not_hasReference_append_cons nothing valuePlain.literal
      (c := ' ') (by decide) (by decide)
    exact Value.not_hasReference_append_cons namePlain.literal behind (by decide) (by decide)

/-- The line of a request modifier that was built is the line of a change that builds it
again. -/
theorem Change.Builds.exists_renderedBy
    {files : FileSystem}
    {wanted : Change}
    {modifier : RequestModifier}
    (builds : wanted.Builds files modifier)
    (plain : ∀ text ∈ modifier.texts, text.IsPlain) :
    ∃ (written : Change) (tokens : List Token), written.Builds files modifier ∧
      (Statement.change written).RenderedBy tokens ∧
      modifier.write = (Statement.change written).lineOf tokens := by
  cases builds with
  | @header line front back split named visible =>
      have absent : ':' ∉ Text.trim front := fun inside =>
        (Text.splitFirst?_eq_some_iff.1 split).2 (Text.mem_of_mem_trim inside)
      have splitAgain : Text.splitFirst? ':' (Text.trim front ++ ": " ++ Text.trim back) =
          some (Text.trim front, ' ' :: Text.trim back) :=
        Text.splitFirst?_eq_some_iff.2 ⟨by simp, absent⟩
      have trimmed : Text.trim (' ' :: Text.trim back) = Text.trim back := by
        rw [Text.trim_cons_of_isBlank (by decide), Text.trim_trim]
      have rebuilt := @Change.Builds.header files _ _ _ splitAgain
      rw [Text.trim_trim, trimmed] at rebuilt
      refine ⟨_, _, rebuilt named visible, Statement.renderedBy_change ?_, rfl⟩
      rw [Change.arguments, List.forall_mem_singleton]
      exact (plain _ List.mem_cons_self).headerArgument
        (plain _ (List.mem_cons_of_mem _ List.mem_cons_self))
  | parameter named =>
      exact ⟨_, _, .parameter named, Statement.renderedBy_change plain, rfl⟩
  | file named absolute regular =>
      exact ⟨_, _, .file named absolute regular, Statement.renderedBy_change plain, rfl⟩
  | raw => exact ⟨_, _, .raw, Statement.renderedBy_change plain, rfl⟩

/-! ## Written assertions -/

namespace Check

/-- The texts of a check. -/
def texts : Check → List Text
  | .contains matcher => [matcher.expected]
  | .containsNot matcher => [matcher.expected]
  | .equals matcher => [matcher.expected]
  | .header name value => name :: (value.map Matcher.expected).toList
  | _ => []

/-- The arguments that a check is written with: a status code in decimal digits, and the
name and the value of a header as one argument. -/
def arguments : Check → List Text
  | .statusCode code => [Text.ofNat code]
  | .header name (some matcher) => [name ++ ": " ++ matcher.expected]
  | other => other.texts

end Check

/-- The line of an assertion with signs in some order. -/
def Assertion.write (assertion : Assertion) (signs : List Modifier) : Text :=
  Text.joinWith [' '] (assertion.command ::
    (assertion.check.arguments.map Quoted.write ++ signs.map Modifier.sign))

/-- The line of an expectation with signs is that of its texts and its signs as tokens. -/
theorem Statement.lineOf_expect
    (expectation : Expectation)
    (modifiers : Modifiers)
    (signs : List Modifier) :
    (Statement.expect expectation modifiers).lineOf
        (expectation.arguments.map Token.ofText ++ signs.map Token.ofSign) =
      expectation.write signs := by
  rw [Statement.lineOf, List.map_append, List.map_map, List.map_map]
  rfl

/-- Decimal digits are plain. -/
theorem Text.isPlain_ofNat (number : Nat) : IsPlain (ofNat number) := by
  apply isPlain_of_notMem
  constructor
  · intro inside
    exact absurd (isDigit_of_mem_ofNat inside) (by decide)
  · intro inside
    exact absurd (isDigit_of_mem_ofNat inside) (by decide)

/-- An assertion that was built is built again, at any place, from one argument for each
of those that it is written with. -/
theorem Expectation.Builds.exists_arguments
    {location : Location}
    {modifiers : Modifiers}
    {expectation : Expectation}
    {assertion : Assertion}
    (builds : expectation.Builds location modifiers assertion)
    (plain : ∀ text ∈ assertion.check.texts, text.IsPlain) :
    ∃ written : Expectation,
      (∀ place, written.Builds place modifiers { assertion with location := place }) ∧
      (∀ text ∈ written.arguments, text.IsPlain) ∧
      written.command.keyword = assertion.command ∧
      written.arguments = assertion.check.arguments := by
  cases builds with
  | @statusCode code low high allowed =>
      refine ⟨.statusCode code, fun place => .statusCode low high allowed, ?_, rfl, rfl⟩
      rw [Expectation.arguments, List.forall_mem_singleton]
      exact Text.isPlain_ofNat code
  | contains matched allowed =>
      have same := Matcher.expected_of_build matched
      subst same
      exact ⟨.contains _, fun place => .contains matched allowed, plain, rfl, rfl⟩
  | containsNot matched allowed =>
      have same := Matcher.expected_of_build matched
      subst same
      exact ⟨.containsNot _, fun place => .containsNot matched allowed, plain, rfl, rfl⟩
  | equals matched allowed =>
      have same := Matcher.expected_of_build matched
      subst same
      exact ⟨.equals _, fun place => .equals matched allowed, plain, rfl, rfl⟩
  | empty allowed => exact ⟨.empty, fun place => .empty allowed, plain, rfl, rfl⟩
  | @header argument name parts named allowed =>
      obtain ⟨trimmed, absent, _⟩ := Assertion.headerParts_spec parts
      have again := Assertion.headerParts_name trimmed absent
      exact ⟨.header name, fun place => .header again named allowed, plain, rfl, rfl⟩
  | @headerValue argument name value matcher parts named matched allowed =>
      obtain ⟨trimmed, absent, valued⟩ := Assertion.headerParts_spec parts
      obtain ⟨filled, valueTrimmed⟩ := valued value rfl
      have again := Assertion.headerParts_name_value trimmed absent filled valueTrimmed
      have same := Matcher.expected_of_build matched
      subst same
      refine ⟨.header (name ++ ": " ++ matcher.expected),
        fun place => .headerValue again named matched allowed, ?_, rfl, rfl⟩
      rw [Expectation.arguments, List.forall_mem_singleton]
      exact (plain _ List.mem_cons_self).headerArgument
        (plain _ (List.mem_cons_of_mem _ List.mem_cons_self))

/-- A status code that an assertion is built from is within the limit for reading it. -/
theorem Expectation.Builds.le_statusCodeLimit
    {location : Location}
    {modifiers : Modifiers}
    {assertion : Assertion}
    {code : Nat}
    (builds : (Expectation.statusCode code).Builds location modifiers assertion) :
    code ≤ Statement.statusCodeLimit := by
  cases builds with
  | statusCode low high allowed => exact Nat.le_trans high (by decide)

/-- The line of an assertion that was built renders an expectation that builds it again
at any place. -/
theorem Expectation.Builds.exists_renderedBy
    {location : Location}
    {modifiers : Modifiers}
    {signs : List Modifier}
    {expectation : Expectation}
    {assertion : Assertion}
    (builds : expectation.Builds location modifiers assertion)
    (plain : ∀ text ∈ assertion.check.texts, text.IsPlain)
    (signed : modifiers.SignedBy signs) :
    ∃ (written : Expectation) (tokens : List Token),
      (∀ place, written.Builds place modifiers { assertion with location := place }) ∧
      (Statement.expect written modifiers).RenderedBy tokens ∧
      assertion.write signs = (Statement.expect written modifiers).lineOf tokens := by
  obtain ⟨written, again, argumentsPlain, keyword, arguments⟩ := builds.exists_arguments plain
  refine ⟨written, _, again, Statement.renderedBy_expect argumentsPlain ?_ signed, ?_⟩
  · rintro code rfl
    exact (again location).le_statusCodeLimit
  · rw [Statement.lineOf_expect, Assertion.write, ← keyword, ← arguments]
    rfl

/-! ## Drafts -/

/-- An assertion with the signs of its modifiers in the order in which they are written. -/
structure SignedAssertion where
  assertion : Assertion
  signs : List Modifier
deriving Repr

/-- What a test case is made of. -/
structure CaseDraft where
  method : Method
  address : Text
  url : Url
  modifiers : List RequestModifier
  assertions : List SignedAssertion
deriving Repr

/-- The line of a signed assertion. -/
def SignedAssertion.write (signed : SignedAssertion) : Text :=
  signed.assertion.write signed.signs

/-- Signed assertions can be written when they were built under the rules, when their
signs are those of their modifiers and when their texts are plain. -/
structure SignedAssertion.IsWritable (signed : SignedAssertion) : Prop where
  built : ∃ (expectation : Expectation) (location : Location) (modifiers : Modifiers),
    expectation.build location modifiers = .ok signed.assertion
  signs : signed.assertion.modifiers.SignedBy signed.signs
  plain : ∀ text ∈ signed.assertion.check.texts, text.IsPlain

/-- The line of a signed assertion that can be written renders an expectation that builds
the assertion at any place. -/
theorem SignedAssertion.IsWritable.exists_renderedBy
    {signed : SignedAssertion}
    (writable : signed.IsWritable) :
    ∃ (written : Expectation) (tokens : List Token),
      (∀ place, written.Builds place signed.assertion.modifiers
        { signed.assertion with location := place }) ∧
      (Statement.expect written signed.assertion.modifiers).RenderedBy tokens ∧
      signed.write = (Statement.expect written signed.assertion.modifiers).lineOf tokens := by
  obtain ⟨expectation, location, modifiers, built⟩ := writable.built
  have builds := Expectation.build_eq_ok_iff.1 built
  rw [← builds.modifiers_eq] at builds
  exact builds.exists_renderedBy writable.plain writable.signs

namespace CaseDraft

/-- The lines of a draft: its request, its request modifiers and its assertions. -/
def lines (draft : CaseDraft) : List Text :=
  (Command.request draft.method).write [Quoted.write draft.address] ::
    (draft.modifiers.map RequestModifier.write ++ draft.assertions.map SignedAssertion.write)

/-- Drafts can be written when their address is read as their URL, when their request
modifiers were built under the rules and can be attached in order, when their assertions
can be written and when all texts are plain. -/
structure IsWritable (files : FileSystem) (draft : CaseDraft) : Prop where
  read : Url.read draft.address = .ok draft.url
  plain : draft.address.IsPlain
  built : ∀ modifier ∈ draft.modifiers, ∃ wanted : Change, wanted.build files = .ok modifier
  modifiersPlain : ∀ modifier ∈ draft.modifiers, ∀ text ∈ modifier.texts, text.IsPlain
  attachable : ∃ bare attached : TestCase, bare.method = draft.method ∧ bare.modifiers = [] ∧
    draft.modifiers.foldlM TestCase.addModifier bare = .ok attached
  assertions : ∀ signed ∈ draft.assertions, signed.IsWritable

/-- Assertions with a place each, on lines that follow each other. -/
def place (path : Text) (number : Nat) (assertions : List SignedAssertion) :
    List Assertion :=
  (assertions.zipIdx number).map fun numbered =>
    { numbered.1.assertion with location := ⟨path, numbered.2⟩ }

/-- No assertion that can be written is the one that every request starts with. -/
theorem isDefault_eq_false_of_mem_place
    {path : Text}
    {number : Nat}
    {assertions : List SignedAssertion}
    (writable : ∀ signed ∈ assertions, signed.IsWritable) :
    ∀ assertion ∈ place path number assertions, assertion.isDefault = false := by
  intro assertion member
  obtain ⟨numbered, inside, rfl⟩ := List.mem_map.1 member
  obtain ⟨expectation, location, modifiers, built⟩ :=
    (writable numbered.1 (List.fst_mem_of_mem_zipIdx inside)).built
  exact (Expectation.build_eq_ok_iff.1 built).isDefault_eq_false

/-- The test case of a draft that is written from a line on.  The assertion of success
stands in front unless some assertion is about the status code. -/
def testCase (path : Text) (number : Nat) (draft : CaseDraft) : TestCase :=
  let given := place path (number + 1 + draft.modifiers.length) draft.assertions
  let success := [Assertion.success ⟨path, number⟩]
  { location := ⟨path, number⟩
    method := draft.method
    url := draft.url
    assertions := (if given.any Assertion.isStatusCode then [] else success) ++ given
    modifiers := draft.modifiers }

/-- The test cases of drafts that are written one after the other from a line on. -/
def suite (path : Text) : Nat → List CaseDraft → Suite
  | _, [] => []
  | number, draft :: drafts =>
      draft.testCase path number :: suite path (number + draft.lines.length) drafts

end CaseDraft
end PageCheck
