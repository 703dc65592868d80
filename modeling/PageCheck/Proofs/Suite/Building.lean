import PageCheck.Proofs.Results
import PageCheck.Proofs.Text.Trim
import PageCheck.Script.Effect

/-!
# What can be built

Assertions and request modifiers are built under rules.  Here the rules are stated one
by one, and building is shown to follow exactly these rules; what holds of everything
that was built is then seen rule by rule.
-/

namespace PageCheck

open Results

/-! ## Names and values of lines -/

namespace Header

/-- A line is split at its first colon. -/
theorem split_append_cons
    {front : Text}
    (absent : ':' ∉ front)
    (back : Text) :
    split (front ++ ':' :: back) = (Text.trim front, Text.trim back) := by
  rw [split, Text.splitFirst?_eq_some_iff.2 ⟨rfl, absent⟩]

/-- A line without a colon is a name. -/
theorem split_of_notMem
    {line : Text}
    (absent : ':' ∉ line) :
    split line = (Text.trim line, []) := by
  rw [split, Text.splitFirst?_eq_none_iff.2 absent]

/-- A name and a value with a colon and a blank between them are split into the two again. -/
theorem split_write
    {name value : Text}
    (nameTrimmed : Text.IsTrimmed name)
    (absent : ':' ∉ name)
    (valueTrimmed : Text.IsTrimmed value) :
    split (name ++ ": " ++ value) = (name, value) := by
  have shape : name ++ (": " : Text) ++ value = name ++ ':' :: ' ' :: value := by simp
  have blank : Text.isBlank ' ' = true := by decide
  rw [shape, split_append_cons absent, Text.trim_cons_of_isBlank blank, nameTrimmed.trim_eq,
    valueTrimmed.trim_eq]

/-- The parts of a line are trimmed, and there is no colon in its name. -/
theorem split_spec (line : Text) :
    Text.IsTrimmed (split line).1 ∧ ':' ∉ (split line).1 ∧ Text.IsTrimmed (split line).2 := by
  by_cases colon : ':' ∈ line
  · obtain ⟨front, back, rfl, absent⟩ := List.eq_append_cons_of_mem colon
    rw [split_append_cons absent]
    exact ⟨Text.isTrimmed_trim front, fun inside => absent (Text.mem_of_mem_trim inside),
      Text.isTrimmed_trim back⟩
  · rw [split_of_notMem colon]
    exact ⟨Text.isTrimmed_trim line, fun inside => colon (Text.mem_of_mem_trim inside),
      Text.isTrimmed_of_visible (List.forall_mem_nil _)⟩

end Header

/-! ## Header arguments -/

namespace Assertion

/-- An argument asks for the name and the value that it has as a line, but for no value where
that is empty. -/
theorem headerParts_eq (argument : Text) :
    headerParts argument =
      ((Header.split argument).1,
        if (Header.split argument).2.isEmpty then none else some (Header.split argument).2) := by
  rw [headerParts, Header.split]
  cases Text.splitFirst? ':' argument with
  | none => rfl
  | some parts => rfl

/-- The name in a header argument is trimmed and holds no colon; a value is trimmed and
not empty. -/
theorem headerParts_spec
    {argument name : Text}
    {value : Option Text}
    (parts : headerParts argument = (name, value)) :
    Text.IsTrimmed name ∧ ':' ∉ name ∧
      ∀ text ∈ value, text ≠ [] ∧ Text.IsTrimmed text := by
  obtain ⟨trimmed, absent, valueTrimmed⟩ := Header.split_spec argument
  rw [headerParts_eq] at parts
  obtain ⟨rfl, rfl⟩ := Prod.mk.inj parts
  refine ⟨trimmed, absent, ?_⟩
  intro text given
  split at given
  · cases given
  · next filled =>
      cases given
      exact ⟨by simpa using filled, valueTrimmed⟩

/-- A name on its own is a header argument without a value. -/
theorem headerParts_name
    {name : Text}
    (trimmed : Text.IsTrimmed name)
    (absent : ':' ∉ name) :
    headerParts name = (name, none) := by
  rw [headerParts_eq, Header.split_of_notMem absent, trimmed.trim_eq]
  rfl

/-- A name, a colon, a blank and a value are a header argument with that value. -/
theorem headerParts_name_value
    {name value : Text}
    (trimmed : Text.IsTrimmed name)
    (absent : ':' ∉ name)
    (filled : value ≠ [])
    (valueTrimmed : Text.IsTrimmed value) :
    headerParts (name ++ ": " ++ value) = (name, some value) := by
  rw [headerParts_eq, Header.split_write trimmed absent valueTrimmed]
  obtain ⟨c, rest, rfl⟩ := List.exists_cons_of_ne_nil filled
  rfl

end Assertion

/-! ## Assertions -/

/-- A matcher expects the text that it was built from. -/
theorem Matcher.expected_of_build
    {expected : Text}
    {mode : MatchMode}
    {modifiers : Modifiers}
    {matcher : Matcher}
    (built : Matcher.build expected mode modifiers = .ok matcher) :
    matcher.expected = expected := by
  rw [Matcher.build] at built
  split at built
  · split at built
    · cases built
      rfl
    · cases built
  · cases built
    rfl

/-- Whether every modifier of a set is among those that a check allows. -/
def Check.Allows (check : Check) (modifiers : Modifiers) : Prop :=
  ∀ modifier, modifiers.has modifier = true → check.allowed.has modifier = true

theorem Modifiers.isEmpty_without_iff
    {modifiers allowed : Modifiers} :
    (modifiers.without allowed).isEmpty = true ↔
      ∀ modifier, modifiers.has modifier = true → allowed.has modifier = true := by
  rw [Modifiers.isEmpty, decide_eq_true_eq]
  constructor
  · intro none modifier inside
    have gone := Modifiers.has_without modifiers allowed modifier
    rw [none, Modifiers.has_none, inside] at gone
    simpa using gone
  · intro inside
    apply Modifiers.ext_has
    intro modifier
    rw [Modifiers.has_without, Modifiers.has_none]
    cases given : modifiers.has modifier with
    | false => rfl
    | true => simp [inside modifier given]

theorem Assertion.checkModifiers_eq_ok_iff
    {command : Text}
    {allowed modifiers : Modifiers} :
    Assertion.checkModifiers command allowed modifiers = .ok () ↔
      ∀ modifier, modifiers.has modifier = true → allowed.has modifier = true := by
  rw [← Modifiers.isEmpty_without_iff, Assertion.checkModifiers]
  split
  · next empty => simp [empty]
  · next forbidden => simp [forbidden]

theorem Assertion.build_eq_ok_iff
    {location : Location}
    {check : Check}
    {modifiers : Modifiers}
    {assertion : Assertion} :
    Assertion.build location check modifiers = .ok assertion ↔
      check.Allows modifiers ∧ assertion = ⟨location, modifiers, check⟩ := by
  rw [Assertion.build, do_eq_ok_iff]
  constructor
  · rintro ⟨⟨⟩, allowed, same⟩
    cases same
    exact ⟨Assertion.checkModifiers_eq_ok_iff.1 allowed, rfl⟩
  · rintro ⟨allowed, rfl⟩
    exact ⟨(), Assertion.checkModifiers_eq_ok_iff.2 allowed, rfl⟩

/-- The assertions that an expectation can become, one rule for each form. -/
inductive Expectation.Builds (location : Location) (modifiers : Modifiers) :
    Expectation → Assertion → Prop
  | statusCode
      {code : Nat}
      (low : 100 ≤ code)
      (high : code ≤ 599)
      (allowed : (Check.statusCode code).Allows modifiers) :
      Builds location modifiers (.statusCode code)
        ⟨location, modifiers, .statusCode code⟩
  | contains
      {text : Text} {matcher : Matcher}
      (matched : Matcher.build text .substring modifiers = .ok matcher)
      (allowed : (Check.contains matcher).Allows modifiers) :
      Builds location modifiers (.contains text) ⟨location, modifiers, .contains matcher⟩
  | containsNot
      {text : Text} {matcher : Matcher}
      (matched : Matcher.build text .substring modifiers = .ok matcher)
      (allowed : (Check.containsNot matcher).Allows modifiers) :
      Builds location modifiers (.containsNot text)
        ⟨location, modifiers, .containsNot matcher⟩
  | equals
      {text : Text} {matcher : Matcher}
      (matched : Matcher.build text .exact modifiers = .ok matcher)
      (allowed : (Check.equals matcher).Allows modifiers) :
      Builds location modifiers (.equals text) ⟨location, modifiers, .equals matcher⟩
  | empty
      (allowed : Check.empty.Allows modifiers) :
      Builds location modifiers .empty ⟨location, modifiers, .empty⟩
  | header
      {argument name : Text}
      (parts : Assertion.headerParts argument = (name, none))
      (named : name ≠ [])
      (allowed : (Check.header name none).Allows modifiers) :
      Builds location modifiers (.header argument)
        ⟨location, modifiers, .header name none⟩
  | headerValue
      {argument name value : Text} {matcher : Matcher}
      (parts : Assertion.headerParts argument = (name, some value))
      (named : name ≠ [])
      (matched : Matcher.build value .exact modifiers = .ok matcher)
      (allowed : (Check.header name (some matcher)).Allows modifiers) :
      Builds location modifiers (.header argument)
        ⟨location, modifiers, .header name (some matcher)⟩

/-- Building an assertion follows these rules. -/
theorem Expectation.build_eq_ok_iff
    {location : Location}
    {modifiers : Modifiers}
    {expectation : Expectation}
    {assertion : Assertion} :
    expectation.build location modifiers = .ok assertion ↔
      expectation.Builds location modifiers assertion := by
  constructor
  · intro built
    cases expectation with
    | statusCode code =>
        simp only [Expectation.build, Assertion.statusCode] at built
        split at built
        · next range =>
            obtain ⟨allowed, rfl⟩ := Assertion.build_eq_ok_iff.1 built
            exact .statusCode range.1 range.2 allowed
        · cases built
    | contains text =>
        obtain ⟨matcher, matched, built⟩ := do_eq_ok_iff.1 built
        obtain ⟨allowed, rfl⟩ := Assertion.build_eq_ok_iff.1 built
        exact .contains matched allowed
    | containsNot text =>
        obtain ⟨_, _, built⟩ := do_eq_ok_iff.1 built
        obtain ⟨matcher, matched, built⟩ := do_eq_ok_iff.1 built
        obtain ⟨allowed, rfl⟩ := Assertion.build_eq_ok_iff.1 built
        exact .containsNot matched allowed
    | equals text =>
        obtain ⟨matcher, matched, built⟩ := do_eq_ok_iff.1 built
        obtain ⟨allowed, rfl⟩ := Assertion.build_eq_ok_iff.1 built
        exact .equals matched allowed
    | empty =>
        obtain ⟨allowed, rfl⟩ := Assertion.build_eq_ok_iff.1 built
        exact .empty allowed
    | header argument =>
        simp only [Expectation.build, Assertion.header] at built
        split at built
        · cases built
        · next name parts named =>
            obtain ⟨allowed, rfl⟩ := Assertion.build_eq_ok_iff.1 built
            exact .header named parts allowed
        · next name value parts named =>
            obtain ⟨matcher, matched, built⟩ := do_eq_ok_iff.1 built
            obtain ⟨allowed, rfl⟩ := Assertion.build_eq_ok_iff.1 built
            exact .headerValue named parts matched allowed
  · intro builds
    cases builds with
    | statusCode low high allowed =>
        simp only [Expectation.build, Assertion.statusCode, low, high, and_self, if_true]
        exact Assertion.build_eq_ok_iff.2 ⟨allowed, rfl⟩
    | contains matched allowed =>
        exact do_eq_ok_iff.2 ⟨_, matched, Assertion.build_eq_ok_iff.2 ⟨allowed, rfl⟩⟩
    | containsNot matched allowed =>
        refine do_eq_ok_iff.2 ⟨(), Assertion.checkModifiers_eq_ok_iff.2 allowed, ?_⟩
        exact do_eq_ok_iff.2 ⟨_, matched, Assertion.build_eq_ok_iff.2 ⟨allowed, rfl⟩⟩
    | equals matched allowed =>
        exact do_eq_ok_iff.2 ⟨_, matched, Assertion.build_eq_ok_iff.2 ⟨allowed, rfl⟩⟩
    | empty allowed =>
        exact Assertion.build_eq_ok_iff.2 ⟨allowed, rfl⟩
    | @header argument name parts named allowed =>
        simp only [Expectation.build, Assertion.header, parts]
        cases name with
        | nil => exact absurd rfl named
        | cons c rest => exact Assertion.build_eq_ok_iff.2 ⟨allowed, rfl⟩
    | @headerValue argument name value matcher parts named matched allowed =>
        simp only [Expectation.build, Assertion.header, parts]
        cases name with
        | nil => exact absurd rfl named
        | cons c rest =>
            exact do_eq_ok_iff.2 ⟨_, matched, Assertion.build_eq_ok_iff.2 ⟨allowed, rfl⟩⟩

/-- What an expectation becomes has the modifiers that it was built with. -/
theorem Expectation.Builds.modifiers_eq
    {location : Location}
    {modifiers : Modifiers}
    {expectation : Expectation}
    {assertion : Assertion}
    (builds : expectation.Builds location modifiers assertion) :
    assertion.modifiers = modifiers := by
  cases builds <;> rfl

/-- What an expectation becomes has the place that it was built for. -/
theorem Expectation.Builds.location_eq
    {location : Location}
    {modifiers : Modifiers}
    {expectation : Expectation}
    {assertion : Assertion}
    (builds : expectation.Builds location modifiers assertion) :
    assertion.location = location := by
  cases builds <;> rfl

/-- What an expectation becomes is not the assertion that every request starts with. -/
theorem Expectation.Builds.isDefault_eq_false
    {location : Location}
    {modifiers : Modifiers}
    {expectation : Expectation}
    {assertion : Assertion}
    (builds : expectation.Builds location modifiers assertion) :
    assertion.isDefault = false := by
  cases builds <;> rfl

/-- Adding an assertion adds no other one. -/
theorem TestCase.mem_of_mem_addAssertion
    {testCase : TestCase}
    {assertion other : Assertion}
    (inside : other ∈ (testCase.addAssertion assertion).assertions) :
    other ∈ testCase.assertions ∨ other = assertion := by
  rcases List.mem_append.1 inside with kept | added
  · left
    split at kept
    · exact (List.mem_filter.1 kept).1
    · exact kept
  · exact .inr (List.mem_singleton.1 added)

/-! ## Request modifiers -/

theorem RequestModifier.isCompatibleWith_self (modifier : RequestModifier) :
    modifier.isCompatibleWith modifier = true := by
  cases modifier <;> rfl

/-- A request modifier is attached behind those that are there, if the method and each
of these admits it, and nothing else changes. -/
theorem TestCase.addModifier_eq_ok_iff
    {testCase extended : TestCase}
    {modifier : RequestModifier} :
    testCase.addModifier modifier = .ok extended ↔
      modifier.isAllowedFor testCase.method = true ∧
      (∀ other ∈ testCase.modifiers, modifier.isCompatibleWith other = true) ∧
      extended = { testCase with modifiers := testCase.modifiers ++ [modifier] } := by
  rw [addModifier]
  split
  · next allowed =>
      cases found : testCase.modifiers.find? fun other =>
          !modifier.isCompatibleWith other with
      | some other =>
          have inside := List.mem_of_find?_eq_some found
          have clash := List.find?_some found
          simp only [reduceCtorEq, false_iff]
          rintro ⟨_, compatible, _⟩
          simp [compatible other inside] at clash
      | none =>
          have compatible := List.find?_eq_none.1 found
          simp only [Bool.not_eq_true', Bool.not_eq_false] at compatible
          constructor
          · intro attached
            cases attached
            exact ⟨allowed, compatible, rfl⟩
          · rintro ⟨_, _, rfl⟩
            rfl
  · next forbidden => simp [forbidden]

/-- Many request modifiers are attached one after the other exactly if each of them is allowed
and compatible with those that are there and with those before it. -/
theorem TestCase.foldlM_addModifier_eq_ok_iff
    {testCase built : TestCase}
    {modifiers : List RequestModifier} :
    modifiers.foldlM addModifier testCase = .ok built ↔
      (∀ modifier ∈ modifiers, modifier.isAllowedFor testCase.method = true) ∧
      (∀ modifier ∈ modifiers, ∀ other ∈ testCase.modifiers,
        modifier.isCompatibleWith other = true) ∧
      (modifiers.Pairwise fun earlier later => later.isCompatibleWith earlier = true) ∧
      built = { testCase with modifiers := testCase.modifiers ++ modifiers } := by
  induction modifiers generalizing testCase with
  | nil =>
      rw [List.append_nil]
      constructor
      · rintro ⟨⟩
        exact ⟨List.forall_mem_nil _, List.forall_mem_nil _, .nil, rfl⟩
      · rintro ⟨-, -, -, rfl⟩
        rfl
  | cons modifier later hypothesis =>
      rw [List.foldlM_cons, do_eq_ok_iff, List.forall_mem_cons, List.forall_mem_cons,
        List.pairwise_cons]
      constructor
      · rintro ⟨extended, first, rest⟩
        obtain ⟨allowed, compatible, rfl⟩ := addModifier_eq_ok_iff.1 first
        obtain ⟨allowedLater, compatibleLater, pairs, same⟩ := hypothesis.1 rest
        simp only [List.forall_mem_append, List.forall_mem_singleton] at compatibleLater
        rw [List.append_assoc] at same
        exact ⟨⟨allowed, allowedLater⟩,
          ⟨compatible, fun other inside => (compatibleLater other inside).1⟩,
          ⟨fun other inside => (compatibleLater other inside).2, pairs⟩, same⟩
      · rintro ⟨⟨allowed, allowedLater⟩, ⟨compatible, compatibleLater⟩, ⟨behind, pairs⟩, same⟩
        refine ⟨_, addModifier_eq_ok_iff.2 ⟨allowed, compatible, rfl⟩,
          hypothesis.2 ⟨allowedLater, ?_, pairs, ?_⟩⟩
        · intro other inside
          rw [List.forall_mem_append, List.forall_mem_singleton]
          exact ⟨compatibleLater other inside, behind other inside⟩
        · rw [same, List.append_assoc]
          rfl

/-- The request modifiers that a change can become, one rule for each form. -/
inductive Change.Builds (files : FileSystem) : Change → RequestModifier → Prop
  | header
      {line front back : Text}
      (split : Text.splitFirst? ':' line = some (front, back))
      (named : Text.trim front ≠ [])
      (visible : ∀ c ∈ Text.trim front, Text.isBlank c = false) :
      Builds files (.header line) (.header (Text.trim front) (Text.trim back))
  | parameter
      {name value : Text}
      (named : name ≠ []) :
      Builds files (.parameter name value) (.parameter name value)
  | file
      {name path : Text}
      (named : name ≠ [])
      (absolute : isAbsolutePath path = true)
      (regular : files.isRegular path = true) :
      Builds files (.file name path) (.file name path)
  | raw
      {content : Text} :
      Builds files (.raw content) (.raw content)

/-- Building a request modifier follows these rules. -/
theorem Change.build_eq_ok_iff
    {files : FileSystem}
    {wanted : Change}
    {modifier : RequestModifier} :
    wanted.build files = .ok modifier ↔ wanted.Builds files modifier := by
  constructor
  · intro built
    cases wanted with
    | header line =>
        simp only [Change.build, RequestModifier.ofHeaderLine] at built
        split at built
        · cases built
        · next front back split =>
            split at built
            · cases built
            · next fine =>
                cases built
                rw [Bool.not_eq_true, Bool.or_eq_false_iff] at fine
                exact .header split (by simpa using fine.1) (by simpa using fine.2)
    | parameter name value =>
        simp only [Change.build, RequestModifier.ofParameter] at built
        split at built
        · cases built
        · next named =>
            cases built
            exact .parameter (by simpa using named)
    | file name path =>
        simp only [Change.build, RequestModifier.ofFile] at built
        split at built
        · cases built
        · next named =>
            split at built
            · cases built
            · next absolute =>
                split at built
                · cases built
                · next regular =>
                    cases built
                    exact .file (by simpa using named) (by simpa using absolute)
                      (by simpa using regular)
    | raw content =>
        cases built
        exact .raw
  · intro builds
    cases builds with
    | header split named visible =>
        simp only [Change.build, RequestModifier.ofHeaderLine, split]
        rw [if_neg]
        simpa [named] using visible
    | parameter named =>
        simp [Change.build, RequestModifier.ofParameter, named]
    | file named absolute regular =>
        simp [Change.build, RequestModifier.ofFile, named, absolute, regular]
    | raw => rfl

end PageCheck
