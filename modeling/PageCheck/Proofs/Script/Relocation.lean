import PageCheck.Proofs.Script.Runs

/-!
# Places that are moved

Everything that is read carries the place that it was read from: a test case that of its
request line, an assertion and an error that of their own line.  A line is otherwise read
without regard to its number, so numbering the lines differently moves these places and
changes nothing else.
-/

namespace PageCheck

open Results

/-! ## Moving -/

/-- A location, one line further down if it is behind the given one. -/
def Location.pushPast (last : Nat) (location : Location) : Location :=
  if last < location.line then { location with line := location.line + 1 } else location

/-- An assertion at another place. -/
def Assertion.relocate (move : Location → Location) (assertion : Assertion) : Assertion :=
  { assertion with location := move assertion.location }

/-- A test case at another place, with its assertions. -/
def TestCase.relocate (move : Location → Location) (testCase : TestCase) : TestCase :=
  { testCase with
    location := move testCase.location
    assertions := testCase.assertions.map (Assertion.relocate move) }

/-- An error at another place. -/
def ParseError.relocate (move : Location → Location) (error : ParseError) : ParseError :=
  { error with location := move error.location }

/-- An effect of a line at another place. -/
def Effect.relocate (move : Location → Location) : Effect → Effect
  | .addAssertion assertion => .addAssertion (assertion.relocate move)
  | other => other

/-- The test case that is being read, at another place. -/
def Current.relocate (move : Location → Location) : Current → Current
  | .reading testCase => .reading (testCase.relocate move)
  | other => other

/-- What has been read, at other places. -/
def Reader.relocate (move : Location → Location) (reader : Reader) : Reader :=
  { reader with
    finished := reader.finished.map (TestCase.relocate move)
    current := reader.current.relocate move
    errors := reader.errors.map (ParseError.relocate move) }

/-- The result of reading, at other places. -/
def Script.relocate (move : Location → Location) (script : Script) : Script where
  suite := script.suite.map (TestCase.relocate move)
  errors := script.errors.map (ParseError.relocate move)

variable {files : FileSystem} {path : Text} {reader : Reader}
variable (move : Location → Location)

/-! ## Building at another place -/

/-- An assertion is built at every place in the same way. -/
theorem Assertion.build_relocate
    (location : Location)
    (check : Check)
    (modifiers : Modifiers) :
    build (move location) check modifiers =
      (build location check modifiers).map (relocate move) := by
  rw [build, build]
  cases checkModifiers check.command check.allowed modifiers <;> rfl

/-- Behind a matcher, too, an assertion is built at every place in the same way. -/
theorem Assertion.do_build_relocate
    (matched : Except BuildError Matcher)
    (location : Location)
    (check : Matcher → Check)
    (modifiers : Modifiers) :
    (matched >>= fun matcher => build (move location) (check matcher) modifiers) =
      (matched >>= fun matcher => build location (check matcher) modifiers).map
        (relocate move) := by
  cases matched with
  | error cause => rfl
  | ok matcher => exact build_relocate move location (check matcher) modifiers

/-- An expectation becomes the same assertion at every place. -/
theorem Expectation.build_relocate
    (location : Location)
    (modifiers : Modifiers)
    (expectation : Expectation) :
    expectation.build (move location) modifiers =
      (expectation.build location modifiers).map (Assertion.relocate move) := by
  cases expectation with
  | statusCode code =>
      simp only [build, Assertion.statusCode]
      split
      · exact Assertion.build_relocate move location _ modifiers
      · rfl
  | contains text => exact Assertion.do_build_relocate move _ location .contains modifiers
  | containsNot text =>
      simp only [build, Assertion.containsNot]
      cases Assertion.checkModifiers "assert-contains-not" Check.unnegatable modifiers with
      | error cause => rfl
      | ok _ => exact Assertion.do_build_relocate move _ location .containsNot modifiers
  | equals text => exact Assertion.do_build_relocate move _ location .equals modifiers
  | empty => exact Assertion.build_relocate move location _ modifiers
  | header argument =>
      simp only [build, Assertion.header]
      split
      · rfl
      · exact Assertion.build_relocate move location _ modifiers
      · exact Assertion.do_build_relocate move _ location _ modifiers

/-- A statement has the same effect at every place. -/
theorem Statement.effect_relocate
    (files : FileSystem)
    (location : Location)
    (statement : Statement) :
    statement.effect files (move location) =
      (statement.effect files location).map (Effect.relocate move) := by
  cases statement with
  | request method address =>
      simp only [effect]
      cases Url.read address <;> rfl
  | set name value => rfl
  | setDefault name value => rfl
  | expect expectation modifiers =>
      simp only [effect, Expectation.build_relocate move]
      cases expectation.build location modifiers <;> rfl
  | change wanted =>
      simp only [effect]
      cases wanted.build files <;> rfl

namespace TestCase

/-- Adding an assertion does not depend on places. -/
theorem addAssertion_relocate
    (testCase : TestCase)
    (assertion : Assertion) :
    (testCase.relocate move).addAssertion (assertion.relocate move) =
      (testCase.addAssertion assertion).relocate move := by
  have explicit : (assertion.relocate move).isStatusCode = assertion.isStatusCode := rfl
  simp only [addAssertion, relocate, explicit]
  split
  · rw [List.filter_map, List.map_append]
    rfl
  · rw [List.map_append]
    rfl

/-- Attaching a request modifier does not depend on places. -/
theorem addModifier_relocate
    (testCase : TestCase)
    (modifier : RequestModifier) :
    (testCase.relocate move).addModifier modifier =
      (testCase.addModifier modifier).map (relocate move) := by
  have method : (testCase.relocate move).method = testCase.method := rfl
  have modifiers : (testCase.relocate move).modifiers = testCase.modifiers := rfl
  rw [addModifier, addModifier, method, modifiers]
  split
  · split <;> rfl
  · rfl

end TestCase

/-! ## Reading at another place -/

namespace Reader

theorem suite_relocate (reader : Reader) :
    (reader.relocate move).suite = reader.suite.map (TestCase.relocate move) := by
  rw [suite, suite, List.map_append]
  cases current : reader.current <;>
    simp [relocate, current, Current.relocate, Current.testCase?]

theorem closeCase_relocate (reader : Reader) :
    (reader.relocate move).closeCase = reader.closeCase.relocate move := by
  rw [closeCase, suite_relocate]
  rfl

/-- A line has the same effect at every place. -/
theorem lineEffect_relocate
    (files : FileSystem)
    (reader : Reader)
    (location : Location)
    (line : Text) :
    (reader.relocate move).lineEffect files (move location) line =
      (reader.lineEffect files location line).map (Effect.relocate move) := by
  have missing : (reader.relocate move).current.isMissing = reader.current.isMissing := by
    cases current : reader.current <;>
      simp [relocate, current, Current.relocate, Current.isMissing]
  rw [@lineEffect_congr_reader _ reader (reader.relocate move) rfl fun _ => missing]
  simp only [lineEffect]
  cases Command.ofKeyword? (splitKeyword line).1 with
  | none => rfl
  | some command =>
      simp only
      split
      · rfl
      · cases Statement.read reader.scope command (splitKeyword line).2 with
        | error cause => rfl
        | ok statement => exact statement.effect_relocate move files location

/-- An effect makes the same of a reader at every place. -/
theorem apply_relocate
    (reader : Reader)
    (location : Location)
    (effect : Effect) :
    (reader.relocate move).apply (move location) (effect.relocate move) =
      (reader.apply location effect).map (relocate move) := by
  cases effect with
  | openCase method url =>
      simp only [Effect.relocate, apply, closeCase_relocate]
      rfl
  | set name value => rfl
  | setDefault name value => rfl
  | addAssertion assertion =>
      simp only [Effect.relocate, apply]
      cases current : reader.current with
      | missing | broken => simp [relocate, current, Current.relocate]
      | reading testCase =>
          simp [relocate, current, Current.relocate, TestCase.addAssertion_relocate]
  | addModifier modifier =>
      simp only [Effect.relocate, apply]
      cases current : reader.current with
      | missing | broken => simp [relocate, current, Current.relocate]
      | reading testCase =>
          simp only [relocate, current, Current.relocate, TestCase.addModifier_relocate]
          cases testCase.addModifier modifier <;> rfl

/-- A line is accepted at every place, or refused for the same cause. -/
theorem accept_relocate
    (files : FileSystem)
    (reader : Reader)
    (location : Location)
    (line : Text) :
    (reader.relocate move).accept files (move location) line =
      (reader.accept files location line).map (relocate move) := by
  rw [accept, accept, lineEffect_relocate]
  cases reader.lineEffect files location line with
  | error cause => rfl
  | ok effect => exact apply_relocate move reader location effect

theorem refuse_relocate
    (reader : Reader)
    (location : Location)
    (line : Text)
    (cause : LineError) :
    (reader.relocate move).refuse (move location) line cause =
      (reader.refuse location line cause).relocate move := by
  rw [refuse, refuse, closeCase_relocate]
  split <;> simp [relocate, closeCase, ParseError.relocate]

/-- A step over a line with another number leads to the same reader at other places. -/
theorem step_relocate
    {number other : Nat}
    (files : FileSystem)
    (reader : Reader)
    (line : Text)
    (moved : move ⟨path, number⟩ = ⟨path, other⟩) :
    (reader.relocate move).step files path (line, other) =
      (reader.step files path (line, number)).relocate move := by
  simp only [step, ← moved, accept_relocate]
  split
  · rfl
  · cases reader.accept files ⟨path, number⟩ (Text.trim line) with
    | ok next => rfl
    | error cause => exact refuse_relocate move reader ⟨path, number⟩ (Text.trim line) cause

/-- Reading lines with other numbers leads to the same reader at other places. -/
theorem readFrom_relocate
    {number other : Nat}
    (files : FileSystem)
    (reader : Reader)
    (lines : List Text)
    (moved : ∀ index < lines.length,
      move ⟨path, number + index⟩ = ⟨path, other + index⟩) :
    (reader.relocate move).readFrom files path other lines =
      (reader.readFrom files path number lines).relocate move := by
  induction lines generalizing reader number other with
  | nil => rfl
  | cons line later hypothesis =>
      rw [List.length_cons] at moved
      have first : move ⟨path, number⟩ = ⟨path, other⟩ := moved 0 (by omega)
      rw [readFrom_cons, readFrom_cons, step_relocate move files reader line first]
      apply hypothesis
      intro index inside
      have behind := moved (index + 1) (by omega)
      rwa [← Nat.add_assoc, Nat.add_right_comm, ← Nat.add_assoc,
        Nat.add_right_comm other] at behind

end Reader

/-! ## Lines that are inserted -/

/-- A blank line does nothing but push down what is read behind it. -/
theorem Script.ofLines_insert
    {hollow : Text}
    (files : FileSystem)
    (path : Text)
    (scope : Variables)
    (front back : List Text)
    (blank : Text.trim hollow = []) :
    ofLines files path scope (front ++ hollow :: back) =
      (ofLines files path scope (front ++ back)).relocate (Location.pushPast front.length) := by
  let move := Location.pushPast front.length
  let middle := Reader.readFrom files path { scope } 1 front
  -- In front of the blank line nothing moves, and behind it everything moves by one line.
  have kept : middle.relocate move = middle := by
    refine (Reader.readFrom_relocate move files { scope } front ?_).symm
    intro index inside
    refine if_neg ?_
    simp only
    omega
  have pushed : (middle.relocate move).readFrom files path (1 + front.length + 1) back =
      (middle.readFrom files path (1 + front.length) back).relocate move := by
    refine Reader.readFrom_relocate move files middle back ?_
    intro index inside
    have past : front.length < 1 + front.length + index := by omega
    have next : 1 + front.length + index + 1 = 1 + front.length + 1 + index := by omega
    simp only [move, Location.pushPast, past, if_true, next]
  rw [kept] at pushed
  have whole : Reader.readLines files path { scope } (front ++ hollow :: back) =
      (Reader.readLines files path { scope } (front ++ back)).relocate move := by
    rw [Reader.readLines_eq_readFrom, Reader.readLines_eq_readFrom, Reader.readFrom_append,
      Reader.readFrom_append, Reader.readFrom_cons, Reader.step_of_blank blank]
    exact pushed
  rw [ofLines, whole]
  exact congrArg (Script.mk · _) (Reader.suite_relocate move _)

end PageCheck
