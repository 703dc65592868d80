import PageCheck.Proofs.Script.Effects

/-!
# Steps of a reader

One step reads one line: a blank line does nothing, an accepted line has one of a
few effects, and a refused line leaves an error and the suite as it is.
-/

namespace PageCheck

open Results

/-- The test case that a request line opens. -/
def TestCase.opened (location : Location) (method : Method) (url : Url) : TestCase :=
  { location, method, url, assertions := [Assertion.success location] }

/-- Whether the last request line was refused. -/
def Current.isBroken : Current → Bool
  | .broken => true
  | _ => false

namespace Reader

/-- Whether a line has the keyword of an assertion or of a request modifier. -/
def isAttachmentLine (line : Text) : Bool :=
  (Command.ofKeyword? (splitKeyword line).1).any Command.needsRequest

/-- No line is both a request line and an attachment. -/
theorem isRequestLine_eq_false
    {line : Text}
    (attachment : isAttachmentLine line = true) :
    isRequestLine line = false := by
  unfold isAttachmentLine at attachment
  unfold isRequestLine
  cases known : Command.ofKeyword? (splitKeyword line).1 with
  | none => rfl
  | some command =>
      rw [known] at attachment
      cases command <;> simp_all [Command.needsRequest, Command.isRequest]

/-! ## Accepted lines -/

variable {files : FileSystem} {path : Text} {location : Location} {line : Text}
variable {reader next : Reader} {effect : Effect}

/-- A line has an effect if its keyword is known, a test case is there where one
is needed, and its arguments make a statement with that effect. -/
theorem lineEffect_eq_ok_iff :
    reader.lineEffect files location line = .ok effect ↔
      ∃ command statement,
        Command.ofKeyword? (splitKeyword line).1 = some command ∧
        (command.needsRequest && reader.current.isMissing) = false ∧
        Statement.read reader.scope command (splitKeyword line).2 = .ok statement ∧
        statement.Causes files location effect := by
  simp only [lineEffect]
  cases known : Command.ofKeyword? (splitKeyword line).1 with
  | none => simp
  | some command =>
      simp only [Option.some.injEq, exists_and_left, exists_eq_left']
      by_cases needed : (command.needsRequest && reader.current.isMissing) = true
      · simp [needed]
      · simp only [needed, if_false, bind_eq_ok_iff,
          Statement.effect_eq_ok_iff, true_and, Bool.false_eq_true]

/-- The keyword of a line belongs to a statement that has the effect of the line. -/
theorem exists_causes_of_lineEffect
    (found : reader.lineEffect files location line = .ok effect) :
    ∃ statement : Statement,
      Command.ofKeyword? (splitKeyword line).1 = some statement.command ∧
        statement.Causes files location effect := by
  obtain ⟨command, statement, known, -, read, caused⟩ := lineEffect_eq_ok_iff.1 found
  rw [← Statement.command_of_read read] at known
  exact ⟨statement, known, caused⟩

/-- The effect of a line depends on the variables and, for an attachment, on whether
a request line has been met, but on nothing else that has been read. -/
theorem lineEffect_congr_reader
    {other : Reader}
    (scope : other.scope = reader.scope)
    (missing : isAttachmentLine line = true →
      other.current.isMissing = reader.current.isMissing)
    (files : FileSystem)
    (location : Location) :
    other.lineEffect files location line = reader.lineEffect files location line := by
  simp only [lineEffect]
  cases known : Command.ofKeyword? (splitKeyword line).1 with
  | none => rfl
  | some command =>
      have guard : (command.needsRequest && other.current.isMissing) =
          (command.needsRequest && reader.current.isMissing) := by
        cases needed : command.needsRequest with
        | false => rfl
        | true =>
            have attachment : isAttachmentLine line = true := by
              rw [isAttachmentLine, known]
              exact needed
            rw [missing attachment]
      simp only [guard, scope]

/-- What an accepted line makes of a reader. -/
inductive Accepts (files : FileSystem) (location : Location) (line : Text)
    (reader : Reader) : Reader → Prop
  | opens
      {method : Method} {url : Url}
      (request : isRequestLine line = true)
      (attachment : isAttachmentLine line = false) :
      Accepts files location line reader
        { reader.closeCase with current := .reading (.opened location method url) }
  | sets
      {name value : Text}
      (request : isRequestLine line = false)
      (attachment : isAttachmentLine line = false) :
      Accepts files location line reader
        { reader with scope := reader.scope.set name value }
  | setsDefault
      {name value : Text}
      (request : isRequestLine line = false)
      (attachment : isAttachmentLine line = false) :
      Accepts files location line reader
        { reader with scope := reader.scope.setDefault name value }
  | asserts
      {testCase : TestCase} {expectation : Expectation} {modifiers : Modifiers}
      {assertion : Assertion}
      (attachment : isAttachmentLine line = true)
      (current : reader.current = .reading testCase)
      (built : expectation.build location modifiers = .ok assertion) :
      Accepts files location line reader
        { reader with current := .reading (testCase.addAssertion assertion) }
  | modifies
      {testCase extended : TestCase} {wanted : Change} {modifier : RequestModifier}
      (attachment : isAttachmentLine line = true)
      (current : reader.current = .reading testCase)
      (built : wanted.build files = .ok modifier)
      (attached : testCase.addModifier modifier = .ok extended) :
      Accepts files location line reader
        { reader with current := .reading extended }
  | idles
      (attachment : isAttachmentLine line = true)
      (broken : reader.current = .broken) :
      Accepts files location line reader reader

/-- Where a request is needed and lines are not refused for want of one, one has been
met. -/
theorem isMissing_eq_false
    {command : Command}
    (allowed : (command.needsRequest && reader.current.isMissing) = false)
    (needed : command.needsRequest = true) :
    reader.current.isMissing = false := by
  simpa [needed] using allowed

/-- Once a request line has been met, it was refused or its test case is open. -/
theorem broken_or_reading
    (met : reader.current.isMissing = false) :
    reader.current = .broken ∨ ∃ testCase, reader.current = .reading testCase := by
  cases current : reader.current with
  | missing =>
      rw [current] at met
      cases met
  | broken => exact Or.inl rfl
  | reading testCase => exact Or.inr ⟨testCase, rfl⟩

/-- An accepted line has one of these effects and no other. -/
theorem accepts_of_accept
    (accepted : reader.accept files location line = .ok next) :
    reader.Accepts files location line next := by
  obtain ⟨effect, found, applied⟩ := bind_eq_ok_iff.1 accepted
  obtain ⟨command, statement, known, allowed, read, caused⟩ :=
    lineEffect_eq_ok_iff.1 found
  have same := Statement.command_of_read read
  have request : isRequestLine line = statement.command.isRequest := by
    rw [isRequestLine, known, same]
    rfl
  have attachment : isAttachmentLine line = statement.command.needsRequest := by
    rw [isAttachmentLine, known, same]
    rfl
  cases caused with
  | request _ =>
      cases applied
      exact .opens request attachment
  | set =>
      cases applied
      exact .sets request attachment
  | setDefault =>
      cases applied
      exact .setsDefault request attachment
  | expect built =>
      have needed : command.needsRequest = true := by
        rw [← same]
        exact Statement.needsRequest_expect _ _
      rw [same, needed] at attachment
      rcases broken_or_reading (isMissing_eq_false allowed needed) with
        current | ⟨testCase, current⟩
      · simp only [apply, current] at applied
        cases applied
        exact .idles attachment current
      · simp only [apply, current] at applied
        cases applied
        exact .asserts attachment current built
  | change built =>
      have needed : command.needsRequest = true := by
        rw [← same]
        exact Statement.needsRequest_change _
      rw [same, needed] at attachment
      rcases broken_or_reading (isMissing_eq_false allowed needed) with
        current | ⟨testCase, current⟩
      · simp only [apply, current] at applied
        cases applied
        exact .idles attachment current
      · simp only [apply, current] at applied
        split at applied
        · next extended attached =>
            cases applied
            exact .modifies attachment current built attached
        · cases applied

/-! ## Suites and errors of the readers that a line leads to -/

@[simp] theorem suite_closeCase (reader : Reader) :
    reader.closeCase.suite = reader.suite := by
  simp [closeCase, suite, Current.testCase?]

theorem suite_eq_of_reading
    {testCase : TestCase}
    (current : reader.current = .reading testCase) :
    reader.suite = reader.finished ++ [testCase] := by
  simp [suite, current, Current.testCase?]

/-- A refused line leaves the suite as it is. -/
@[simp] theorem suite_refuse
    (reader : Reader)
    (location : Location)
    (line : Text)
    (cause : LineError) :
    (reader.refuse location line cause).suite = reader.suite := by
  cases request : isRequestLine line with
  | false => simp [refuse, request, suite]
  | true =>
      have closed := suite_closeCase reader
      simpa [refuse, request, suite] using closed

@[simp] theorem errors_refuse
    (reader : Reader)
    (location : Location)
    (line : Text)
    (cause : LineError) :
    (reader.refuse location line cause).errors = reader.errors ++ [⟨location, cause⟩] :=
  rfl

@[simp] theorem scope_refuse
    (reader : Reader)
    (location : Location)
    (line : Text)
    (cause : LineError) :
    (reader.refuse location line cause).scope = reader.scope := by
  cases request : isRequestLine line <;> simp [refuse, request, closeCase]

/-- A line with another keyword is refused without closing a test case. -/
theorem refuse_of_not_isRequestLine
    (other : isRequestLine line = false)
    (reader : Reader)
    (location : Location)
    (cause : LineError) :
    reader.refuse location line cause =
      { reader with errors := reader.errors ++ [⟨location, cause⟩] } := by
  simp [refuse, other]

/-- An accepted line leaves the errors as they are. -/
theorem Accepts.errors_eq
    (accepts : reader.Accepts files location line next) :
    next.errors = reader.errors := by
  cases accepts <;> rfl

/-- Behind an accepted line, the last request line is refused exactly if it was before
and the line is no request line. -/
theorem Accepts.isBroken_eq
    (accepts : reader.Accepts files location line next) :
    next.current.isBroken = (reader.current.isBroken && !isRequestLine line) := by
  cases accepts with
  | opens request _ => simp [request, Current.isBroken]
  | sets request _ => simp [request]
  | setsDefault request _ => simp [request]
  | asserts _ current _ => simp [current, Current.isBroken]
  | modifies _ current _ _ => simp [current, Current.isBroken]
  | idles attachment _ => simp [isRequestLine_eq_false attachment]

/-- An accepted attachment to a refused request line changes nothing. -/
theorem Accepts.eq_of_idle
    (accepts : reader.Accepts files location line next)
    (idle : (reader.current.isBroken && isAttachmentLine line) = true) :
    next = reader := by
  rw [Bool.and_eq_true] at idle
  cases accepts with
  | opens _ attachment => simp [attachment] at idle
  | sets _ attachment => simp [attachment] at idle
  | setsDefault _ attachment => simp [attachment] at idle
  | asserts _ current _ => simp [current, Current.isBroken] at idle
  | modifies _ current _ _ => simp [current, Current.isBroken] at idle
  | idles _ _ => rfl

/-- Behind a refused line, the last request line is refused if it was before or the
line is a request line. -/
theorem isBroken_refuse
    (reader : Reader)
    (location : Location)
    (line : Text)
    (cause : LineError) :
    (reader.refuse location line cause).current.isBroken =
      (reader.current.isBroken || isRequestLine line) := by
  cases request : isRequestLine line <;>
    simp [refuse, request, closeCase, Current.isBroken]

/-! ## Steps -/

/-- A step over a blank line does nothing. -/
theorem step_of_blank
    {numbered : Text × Nat}
    (hollow : Text.trim numbered.1 = []) :
    reader.step files path numbered = reader := by
  simp [step, hollow]

/-- A step over an accepted line leads to the reader behind it. -/
theorem step_of_accept
    {numbered : Text × Nat}
    (visible : Text.trim numbered.1 ≠ [])
    (accepted : reader.accept files ⟨path, numbered.2⟩ (Text.trim numbered.1) = .ok next) :
    reader.step files path numbered = next := by
  simp [step, visible, accepted]

/-- A step over a refused line leaves an error. -/
theorem step_of_refuse
    {numbered : Text × Nat}
    {cause : LineError}
    (visible : Text.trim numbered.1 ≠ [])
    (refused : reader.accept files ⟨path, numbered.2⟩ (Text.trim numbered.1) = .error cause) :
    reader.step files path numbered =
      reader.refuse ⟨path, numbered.2⟩ (Text.trim numbered.1) cause := by
  simp [step, visible, refused]

/-- A step over a line without an effect leaves an error. -/
theorem step_of_lineEffect_error
    {number : Nat}
    {cause : LineError}
    (visible : Text.trim line ≠ [])
    (found : reader.lineEffect files ⟨path, number⟩ (Text.trim line) = .error cause) :
    reader.step files path (line, number) =
      reader.refuse ⟨path, number⟩ (Text.trim line) cause := by
  apply step_of_refuse visible
  rw [accept, found]
  rfl

/-- A step over a line whose effect does not go through leaves an error. -/
theorem step_of_apply_error
    {number : Nat}
    {cause : LineError}
    (visible : Text.trim line ≠ [])
    (found : reader.lineEffect files ⟨path, number⟩ (Text.trim line) = .ok effect)
    (failed : reader.apply ⟨path, number⟩ effect = .error cause) :
    reader.step files path (line, number) =
      reader.refuse ⟨path, number⟩ (Text.trim line) cause := by
  apply step_of_refuse visible
  rw [accept, found]
  exact failed

/-- A step over any other line is its effect. -/
theorem step_of_apply
    {number : Nat}
    (visible : Text.trim line ≠ [])
    (found : reader.lineEffect files ⟨path, number⟩ (Text.trim line) = .ok effect)
    (applied : reader.apply ⟨path, number⟩ effect = .ok next) :
    reader.step files path (line, number) = next :=
  step_of_accept visible (bind_eq_ok_iff.2 ⟨effect, found, applied⟩)

/-- Two lines lead to the same reader if both are request lines or none is, and they are
accepted with the same result or refused for the same cause. -/
theorem step_congr
    {other : Text}
    {number : Nat}
    (visible : Text.trim line ≠ [])
    (visibleToo : Text.trim other ≠ [])
    (request : isRequestLine (Text.trim line) = isRequestLine (Text.trim other))
    (same : reader.accept files ⟨path, number⟩ (Text.trim line) =
      reader.accept files ⟨path, number⟩ (Text.trim other)) :
    reader.step files path (line, number) = reader.step files path (other, number) := by
  cases outcome : reader.accept files ⟨path, number⟩ (Text.trim line) with
  | ok next =>
      rw [step_of_accept visible outcome, step_of_accept visibleToo (same ▸ outcome)]
  | error cause =>
      rw [step_of_refuse visible outcome, step_of_refuse visibleToo (same ▸ outcome), refuse,
        refuse, request]

/-- Every step is over a blank, an accepted or a refused line. -/
theorem step_cases
    (files : FileSystem)
    (path : Text)
    (reader : Reader)
    (numbered : Text × Nat) :
    (Text.trim numbered.1 = [] ∧ reader.step files path numbered = reader) ∨
    (∃ next, Text.trim numbered.1 ≠ [] ∧
      reader.accept files ⟨path, numbered.2⟩ (Text.trim numbered.1) = .ok next ∧
      reader.step files path numbered = next) ∨
    (∃ cause, Text.trim numbered.1 ≠ [] ∧
      reader.accept files ⟨path, numbered.2⟩ (Text.trim numbered.1) = .error cause ∧
      reader.step files path numbered =
        reader.refuse ⟨path, numbered.2⟩ (Text.trim numbered.1) cause) := by
  by_cases hollow : Text.trim numbered.1 = []
  · exact Or.inl ⟨hollow, step_of_blank hollow⟩
  · cases outcome : reader.accept files ⟨path, numbered.2⟩ (Text.trim numbered.1) with
    | ok next =>
        exact Or.inr (Or.inl ⟨next, hollow, rfl, step_of_accept hollow outcome⟩)
    | error cause =>
        exact Or.inr (Or.inr ⟨cause, hollow, rfl, step_of_refuse hollow outcome⟩)

/-- A step that adds an error leaves the suite as it is. -/
theorem suite_step_of_errors_ne
    {numbered : Text × Nat}
    (added : (reader.step files path numbered).errors ≠ reader.errors) :
    (reader.step files path numbered).suite = reader.suite := by
  rcases step_cases files path reader numbered with
    ⟨_, same⟩ | ⟨next, _, accepted, same⟩ | ⟨cause, _, _, same⟩
  · rw [same]
  · rw [same] at added
    exact absurd (accepts_of_accept accepted).errors_eq added
  · rw [same, suite_refuse]

end Reader
end PageCheck
