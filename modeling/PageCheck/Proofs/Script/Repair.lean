import PageCheck.Proofs.Script.Isolation
import PageCheck.Proofs.Suite.Requests

/-!
# Repairing a request line

A request line that is refused hides little: the lines behind it are checked without its
test case.  Putting an accepted request line in its place adds this test case, and the only
errors that appear are those of request modifiers that the test case does not admit.

The two readers differ up to the next request line.  From there on they agree in all that
reading depends on, and one of them has one more test case behind it.
-/

namespace PageCheck

open Results

/-! ## What a repair may change -/

namespace Reader

/-- Whether a line has the keyword of a request modifier. -/
def isModifierLine (line : Text) : Bool :=
  (Command.ofKeyword? (splitKeyword line).1).any fun command =>
    command matches .modifier _

/-- An error is about a request modifier that the test case in front of some lines does not
admit.  The first of the lines has a number, and no request line stands between them and
the one with the error. -/
def IsClash (number : Nat) (lines : List Text) (error : ParseError) : Prop :=
  error.cause.kind = .invalidRequestModifier ∧
    ∃ between line rest, lines = between ++ line :: rest ∧
      error.location.line = number + between.length ∧
      isModifierLine (Text.trim line) = true ∧
      ∀ other ∈ between, isRequestLine (Text.trim other) = false

end Reader

/-- What a script has in common with the one that has a refused request line at a place, in
front of the lines at the back: all errors of other lines and all test cases.  There is one
test case more, and any other error is a clash with it. -/
structure Script.IsRepairOf (location : Location) (back : List Text)
    (repaired original : Script) : Prop where
  kept : (original.errors.filter fun error =>
    error.location.line ≠ location.line).Sublist repaired.errors
  added : ∀ error ∈ repaired.errors, error ∉ original.errors →
    Reader.IsClash (location.line + 1) back error
  suite : ∃ before inserted after, inserted.location = location ∧
    original.suite = before ++ after ∧ repaired.suite = before ++ inserted :: after

/-! ## Readers with something in front of them -/

namespace Reader

variable {files : FileSystem} {path : Text} {location : Location} {line : Text}
variable {reader : Reader}

/-- A reader that has finished some test cases and met some errors before. -/
def after (reader : Reader) (finished : List TestCase) (errors : List ParseError) : Reader :=
  { reader with
    finished := finished ++ reader.finished
    errors := errors ++ reader.errors }

section Frame

variable (reader : Reader) (finished : List TestCase) (errors : List ParseError)

@[simp] theorem suite_after : (reader.after finished errors).suite = finished ++ reader.suite := by
  simp [suite, after]

@[simp] theorem closeCase_after :
    (reader.after finished errors).closeCase = reader.closeCase.after finished errors := by
  simp [closeCase, after, suite]

/-- No effect depends on what is finished, nor on the errors. -/
theorem apply_after (location : Location) (effect : Effect) :
    (reader.after finished errors).apply location effect =
      (reader.apply location effect).map fun next => next.after finished errors := by
  cases effect with
  | openCase method url =>
      simp only [apply, closeCase_after]
      rfl
  | set | setDefault => rfl
  | addAssertion assertion =>
      obtain ⟨scope, done, current, met⟩ := reader
      cases current <;> rfl
  | addModifier modifier =>
      obtain ⟨scope, done, current, met⟩ := reader
      cases current with
      | missing | broken => rfl
      | reading testCase =>
          simp only [apply, after]
          cases testCase.addModifier modifier <;> rfl

theorem refuse_after (location : Location) (line : Text) (cause : LineError) :
    (reader.after finished errors).refuse location line cause =
      (reader.refuse location line cause).after finished errors := by
  cases request : isRequestLine line <;>
    simp [refuse, request, after, closeCase, suite]

theorem accept_after (files : FileSystem) (location : Location) (line : Text) :
    (reader.after finished errors).accept files location line =
      (reader.accept files location line).map fun next => next.after finished errors := by
  have same : (reader.after finished errors).lineEffect files location line =
      reader.lineEffect files location line :=
    lineEffect_congr_reader rfl (fun _ => rfl) files location
  rw [accept, accept, same]
  cases reader.lineEffect files location line with
  | error cause => rfl
  | ok effect => exact apply_after reader finished errors location effect

/-- A step is the same whatever is in front. -/
theorem step_after (files : FileSystem) (path : Text) (numbered : Text × Nat) :
    (reader.after finished errors).step files path numbered =
      (reader.step files path numbered).after finished errors := by
  simp only [step, accept_after]
  split
  · rfl
  · cases reader.accept files ⟨path, numbered.2⟩ (Text.trim numbered.1) with
    | ok next => rfl
    | error cause => exact refuse_after reader finished errors _ _ cause

/-- A run is the same whatever is in front. -/
theorem readFrom_after (files : FileSystem) (path : Text) (number : Nat) (lines : List Text) :
    (reader.after finished errors).readFrom files path number lines =
      (reader.readFrom files path number lines).after finished errors := by
  induction lines generalizing reader number with
  | nil => rfl
  | cons line lines hypothesis => rw [readFrom_cons, readFrom_cons, step_after, hypothesis]

end Frame

/-! ## Effects of lines -/

variable {next : Reader} {effect : Effect}

/-- Request lines are the lines that open test cases. -/
theorem isRequestLine_iff_of_lineEffect
    (found : reader.lineEffect files location line = .ok effect) :
    isRequestLine line = true ↔ ∃ method url, effect = .openCase method url := by
  obtain ⟨statement, known, caused⟩ := exists_causes_of_lineEffect found
  rw [isRequestLine, known]
  cases caused with
  | request | set | setDefault => simp [Statement.command, Command.isRequest]
  | @expect expectation =>
      cases expectation <;> simp [Statement.command, Expectation.command, Command.isRequest]
  | @change wanted =>
      cases wanted <;> simp [Statement.command, Change.command, Command.isRequest]

/-- A request modifier comes from a line that has the keyword of one. -/
theorem isModifierLine_of_lineEffect
    {modifier : RequestModifier}
    (found : reader.lineEffect files location line = .ok (.addModifier modifier)) :
    isModifierLine line = true := by
  obtain ⟨statement, known, caused⟩ := exists_causes_of_lineEffect found
  rw [isModifierLine, known]
  cases caused with
  | @change wanted => cases wanted <;> rfl

/-! ## Errors with extra ones among them -/

/-- All errors are those that are kept, in order, and extra ones. -/
structure Surplus (Extra : ParseError → Prop) (kept all : List ParseError) : Prop where
  sublist : kept.Sublist all
  extra : ∀ error ∈ all, error ∉ kept → Extra error

theorem Surplus.refl (Extra : ParseError → Prop) (errors : List ParseError) :
    Surplus Extra errors errors :=
  ⟨List.Sublist.refl errors, fun _ inside outside => absurd inside outside⟩

theorem Surplus.append
    {Extra : ParseError → Prop}
    {kept all laterKept laterAll : List ParseError}
    (first : Surplus Extra kept all)
    (later : Surplus Extra laterKept laterAll) :
    Surplus Extra (kept ++ laterKept) (all ++ laterAll) := by
  refine ⟨first.sublist.append later.sublist, ?_⟩
  intro error inside outside
  rw [List.mem_append, not_or] at outside
  rcases List.mem_append.1 inside with early | late
  · exact first.extra error early outside.1
  · exact later.extra error late outside.2

theorem Surplus.mono
    {Extra Wider : ParseError → Prop}
    {kept all : List ParseError}
    (surplus : Surplus Extra kept all)
    (wider : ∀ error, Extra error → Wider error) :
    Surplus Wider kept all :=
  ⟨surplus.sublist, fun error inside outside =>
    wider error (surplus.extra error inside outside)⟩

/-- A clash stays one when a line is put in front that is no request line. -/
theorem IsClash.cons
    {number : Nat}
    {lines : List Text}
    {error : ParseError}
    (clash : IsClash (number + 1) lines error)
    (other : isRequestLine (Text.trim line) = false) :
    IsClash number (line :: lines) error := by
  obtain ⟨kind, between, last, rest, rfl, place, modifier, none⟩ := clash
  refine ⟨kind, line :: between, last, rest, rfl, ?_, modifier, ?_⟩
  · rw [place, List.length_cons]
    omega
  · exact List.forall_mem_cons.2 ⟨other, none⟩

/-! ## Two readers behind a request line -/

/-- One reader is behind a refused request line.  The other one is behind an accepted line
in its place, and has its test case open. -/
structure Awaits (location : Location) (original repaired : Reader) : Prop where
  scope_eq : repaired.scope = original.scope
  finished_eq : repaired.finished = original.finished
  broken : original.current = .broken
  reading : ∃ testCase, repaired.current = .reading testCase ∧ testCase.location = location

section Awaiting

variable {original repaired : Reader} {opened : Location}

/-- A line has the same effect for both, or is refused by both for the same reason. -/
theorem Awaits.lineEffect_eq
    (awaits : Awaits opened original repaired) :
    repaired.lineEffect files location line = original.lineEffect files location line := by
  apply lineEffect_congr_reader awaits.scope_eq
  intro _
  obtain ⟨testCase, current, _⟩ := awaits.reading
  rw [awaits.broken, current]
  rfl

/-- Where no test case is opened, the effect goes through for both, unless it is a request
modifier that the open test case does not admit. -/
theorem Awaits.apply
    (awaits : Awaits opened original repaired)
    (location : Location)
    (unopened : ∀ method url, effect ≠ .openCase method url) :
    ∃ next, original.apply location effect = .ok next ∧ next.errors = original.errors ∧
      ((∃ other, repaired.apply location effect = .ok other ∧
          other.errors = repaired.errors ∧ Awaits opened next other) ∨
        ∃ modifier error, effect = .addModifier modifier ∧ next = original ∧
          repaired.apply location effect = .error (.build error) ∧
          LineError.kindOfBuildError error = .invalidRequestModifier) := by
  obtain ⟨scope_eq, finished_eq, broken, testCase, reading, place⟩ := awaits
  cases effect with
  | openCase method url => exact absurd rfl (unopened method url)
  | set name value =>
      exact ⟨_, rfl, rfl, .inl ⟨_, rfl, rfl, congrArg (Variables.set · name value) scope_eq,
        finished_eq, broken, testCase, reading, place⟩⟩
  | setDefault name value =>
      exact ⟨_, rfl, rfl, .inl ⟨_, rfl, rfl,
        congrArg (Variables.setDefault · name value) scope_eq,
        finished_eq, broken, testCase, reading, place⟩⟩
  | addAssertion assertion =>
      simp only [Reader.apply, broken, reading]
      exact ⟨_, rfl, rfl, .inl ⟨_, rfl, rfl, scope_eq, finished_eq, broken, _, rfl, place⟩⟩
  | addModifier modifier =>
      simp only [Reader.apply, broken, reading]
      refine ⟨_, rfl, rfl, ?_⟩
      cases attached : testCase.addModifier modifier with
      | ok extended =>
          obtain ⟨-, -, rfl⟩ := TestCase.addModifier_eq_ok_iff.1 attached
          exact .inl ⟨_, rfl, rfl, scope_eq, finished_eq, broken, _, rfl, place⟩
      | error error =>
          refine .inr ⟨modifier, error, rfl, rfl, rfl, ?_⟩
          cases TestCase.addModifier_eq_error_iff.1 attached <;> rfl

/-- A line that is no request line leaves the two readers as they are to each other, and an
error that only one of them meets is about a request modifier. -/
theorem Awaits.step
    (awaits : Awaits opened original repaired)
    (other : isRequestLine (Text.trim line) = false)
    (files : FileSystem)
    (path : Text)
    (number : Nat)
    (lines : List Text) :
    ∃ kept added,
      (original.step files path (line, number)).errors = original.errors ++ kept ∧
      (repaired.step files path (line, number)).errors = repaired.errors ++ added ∧
      Surplus (IsClash number (line :: lines)) kept added ∧
      Awaits opened (original.step files path (line, number))
        (repaired.step files path (line, number)) := by
  by_cases hollow : Text.trim line = []
  · rw [step_of_blank hollow, step_of_blank hollow]
    exact ⟨[], [], by simp, by simp, .refl _ [], awaits⟩
  cases found : original.lineEffect files ⟨path, number⟩ (Text.trim line) with
  | error cause =>
      rw [step_of_lineEffect_error hollow found,
        step_of_lineEffect_error hollow (awaits.lineEffect_eq.trans found),
        refuse_of_not_isRequestLine other, refuse_of_not_isRequestLine other]
      exact ⟨_, _, rfl, rfl, .refl _ _, awaits.scope_eq, awaits.finished_eq, awaits.broken,
        awaits.reading⟩
  | ok effect =>
      have unopened : ∀ method url, effect ≠ .openCase method url := by
        intro method url same
        rw [(isRequestLine_iff_of_lineEffect found).2 ⟨method, url, same⟩] at other
        cases other
      obtain ⟨next, applied, errors_eq, outcome⟩ := awaits.apply ⟨path, number⟩ unopened
      rw [step_of_apply hollow found applied]
      rw [← awaits.lineEffect_eq] at found
      rcases outcome with
        ⟨behind, appliedToo, sameErrors, together⟩ | ⟨modifier, error, rfl, rfl, failed, kind⟩
      · rw [step_of_apply hollow found appliedToo]
        exact ⟨[], [], by simp [errors_eq], by simp [sameErrors], .refl _ [], together⟩
      · rw [step_of_apply_error hollow found failed, refuse_of_not_isRequestLine other]
        refine ⟨[], [⟨⟨path, number⟩, .build error⟩], by simp, rfl, ?_, awaits.scope_eq,
          awaits.finished_eq, awaits.broken, awaits.reading⟩
        refine ⟨List.nil_sublist _, ?_⟩
        intro added inside _
        rw [List.mem_singleton.1 inside]
        exact ⟨kind, [], line, lines, rfl, rfl, isModifierLine_of_lineEffect found, by simp⟩

/-- Behind the next request line the two readers differ only in what is in front of them,
where one of them has one test case more. -/
theorem Awaits.step_request
    (awaits : Awaits opened original repaired)
    (request : isRequestLine (Text.trim line) = true)
    (files : FileSystem)
    (path : Text)
    (number : Nat) :
    ∃ (common : Reader) (testCase : TestCase), testCase.location = opened ∧
      original.step files path (line, number) =
        common.after original.finished original.errors ∧
      repaired.step files path (line, number) =
        common.after (original.finished ++ [testCase]) repaired.errors := by
  obtain ⟨testCase, reading, place⟩ := awaits.reading
  have visible : Text.trim line ≠ [] := by
    intro hollow
    rw [hollow] at request
    cases request
  have suite_eq : original.suite = original.finished := by
    simp [suite, awaits.broken, Current.testCase?]
  have suite_eq_too : repaired.suite = original.finished ++ [testCase] := by
    rw [suite_eq_of_reading reading, awaits.finished_eq]
  cases found : original.lineEffect files ⟨path, number⟩ (Text.trim line) with
  | error cause =>
      rw [step_of_lineEffect_error visible found,
        step_of_lineEffect_error visible (awaits.lineEffect_eq.trans found)]
      refine ⟨⟨original.scope, [], .broken, [⟨⟨path, number⟩, cause⟩]⟩, testCase, place,
        ?_, ?_⟩
      · simp [refuse, request, closeCase, after, suite_eq]
      · simp [refuse, request, closeCase, after, suite_eq_too, awaits.scope_eq]
  | ok effect =>
      obtain ⟨method, url, rfl⟩ := (isRequestLine_iff_of_lineEffect found).1 request
      rw [step_of_apply visible found rfl,
        step_of_apply visible (awaits.lineEffect_eq.trans found) rfl]
      refine ⟨⟨original.scope, [], .reading (.opened ⟨path, number⟩ method url), []⟩, testCase,
        place, ?_, ?_⟩
      · simp [closeCase, after, suite_eq, TestCase.opened]
      · simp [closeCase, after, suite_eq_too, awaits.scope_eq, TestCase.opened]

/-- What two readers add over the same lines: errors of which only those of clashes differ,
and test cases of which one stands in one suite only. -/
structure Mends (opened : Location) (number : Nat) (lines : List Text)
    (original repaired originalEnd repairedEnd : Reader) : Prop where
  errors : ∃ kept added,
    originalEnd.errors = original.errors ++ kept ∧
    repairedEnd.errors = repaired.errors ++ added ∧
    Surplus (IsClash number lines) kept added
  suite : ∃ before inserted after, inserted.location = opened ∧
    originalEnd.suite = before ++ after ∧ repairedEnd.suite = before ++ inserted :: after

/-- From a refused request line and an accepted one in its place, reading the same lines
makes no other difference. -/
theorem Awaits.readFrom
    (awaits : Awaits opened original repaired)
    (files : FileSystem)
    (path : Text)
    (number : Nat)
    (lines : List Text) :
    Mends opened number lines original repaired
      (original.readFrom files path number lines)
      (repaired.readFrom files path number lines) := by
  induction lines generalizing original repaired number with
  | nil =>
      obtain ⟨testCase, reading, place⟩ := awaits.reading
      constructor
      · exact ⟨[], [], by simp, by simp, .refl _ []⟩
      · refine ⟨original.finished, testCase, [], place, ?_, ?_⟩
        · simp [suite, awaits.broken, Current.testCase?]
        · rw [readFrom_nil, suite_eq_of_reading reading, awaits.finished_eq]
  | cons line lines hypothesis =>
      rw [readFrom_cons, readFrom_cons]
      cases request : isRequestLine (Text.trim line) with
      | true =>
          -- From here on both read the same, behind what they have in front of them.
          obtain ⟨common, testCase, place, first, second⟩ :=
            awaits.step_request request files path number
          rw [first, second, readFrom_after, readFrom_after]
          generalize common.readFrom files path (number + 1) lines = final
          constructor
          · exact ⟨final.errors, final.errors, rfl, rfl, .refl _ _⟩
          · exact ⟨original.finished, testCase, final.suite, place, by simp, by simp⟩
      | false =>
          obtain ⟨kept, added, originalErrors, repairedErrors, surplus, next⟩ :=
            awaits.step request files path number lines
          obtain ⟨⟨laterKept, laterAdded, originalLater, repairedLater, later⟩, suites⟩ :=
            hypothesis next (number + 1)
          refine ⟨⟨kept ++ laterKept, added ++ laterAdded, ?_, ?_, ?_⟩, suites⟩
          · rw [originalLater, originalErrors, List.append_assoc]
          · rw [repairedLater, repairedErrors, List.append_assoc]
          · exact surplus.append (later.mono fun error clash => clash.cons request)

end Awaiting

/-- A step over a refused request line and one over an accepted request line lead to two
readers that differ in this test case. -/
theorem awaits_of_step
    {bad good : Text}
    {number : Nat}
    (badRequest : isRequestLine (Text.trim bad) = true)
    (goodRequest : isRequestLine (Text.trim good) = true)
    (rejected : (reader.step files path (bad, number)).errors ≠ reader.errors)
    (silent : (reader.step files path (good, number)).errors = reader.errors) :
    Awaits ⟨path, number⟩ (reader.step files path (bad, number))
      (reader.step files path (good, number)) := by
  have badStep : ∃ cause, reader.step files path (bad, number) =
      reader.refuse ⟨path, number⟩ (Text.trim bad) cause := by
    rcases step_cases files path reader (bad, number) with
      ⟨_, same⟩ | ⟨next, _, accepted, same⟩ | ⟨cause, _, _, same⟩
    · exact absurd (congrArg errors same) rejected
    · rw [same] at rejected
      exact absurd (accepts_of_accept accepted).errors_eq rejected
    · exact ⟨cause, same⟩
  have goodStep : ∃ method url, reader.step files path (good, number) =
      { reader.closeCase with current := .reading (.opened ⟨path, number⟩ method url) } := by
    rcases step_cases files path reader (good, number) with
      ⟨hollow, _⟩ | ⟨next, _, accepted, same⟩ | ⟨cause, _, _, same⟩
    · rw [hollow] at goodRequest
      cases goodRequest
    · cases accepts_of_accept accepted with
      | opens => exact ⟨_, _, same⟩
      | sets other | setsDefault other =>
          rw [goodRequest] at other
          cases other
      | asserts attachment | modifies attachment | idles attachment =>
          rw [isRequestLine_eq_false attachment] at goodRequest
          cases goodRequest
    · rw [same, errors_refuse, List.append_right_eq_self] at silent
      cases silent
  obtain ⟨cause, badStep⟩ := badStep
  obtain ⟨method, url, goodStep⟩ := goodStep
  rw [badStep, goodStep]
  constructor
  · simp [closeCase]
  · simp [refuse, badRequest, closeCase]
  · simp [refuse, badRequest, closeCase]
  · exact ⟨_, rfl, rfl⟩

/-- Reading a file is reading its first lines, one line behind them, and the others. -/
theorem readLines_append_cons
    (files : FileSystem)
    (path : Text)
    (reader : Reader)
    (front : List Text)
    (line : Text)
    (back : List Text) :
    reader.readLines files path (front ++ line :: back) =
      ((reader.readLines files path front).step files path
        (line, front.length + 1)).readFrom files path (front.length + 2) back := by
  rw [readLines_eq_readFrom, readFrom_append, readFrom_cons, Nat.add_comm 1]
  rfl

end Reader

/-! ## Repaired files -/

/-- Replacing a refused request line by an accepted one keeps all other errors and all test
cases, adds one test case, and adds no errors but those of request modifiers that this
test case does not admit. -/
theorem Script.ofLines_repair
    (files : FileSystem)
    (path : Text)
    (scope : Variables)
    (front back : List Text)
    {bad good : Text}
    (badRequest : Reader.isRequestLine (Text.trim bad) = true)
    (goodRequest : Reader.isRequestLine (Text.trim good) = true)
    (rejected : (ofLines files path scope (front ++ bad :: back)).rejects
      (front.length + 1) = true)
    (accepted : (ofLines files path scope (front ++ good :: back)).rejects
      (front.length + 1) = false) :
    (ofLines files path scope (front ++ good :: back)).IsRepairOf ⟨path, front.length + 1⟩ back
      (ofLines files path scope (front ++ bad :: back)) := by
  have stepError (line : Text) :
      (ofLines files path scope (front ++ line :: back)).rejects (front.length + 1) = true ↔
        ((Reader.readLines files path { scope } front).step files path
          (line, front.length + 1)).errors ≠
            (Reader.readLines files path { scope } front).errors := by
    have found : (front ++ line :: back)[front.length]? = some line := by simp
    rw [Reader.rejects_ofLines_iff found, List.take_left]
  rw [stepError] at rejected
  rw [← Bool.not_eq_true, stepError, not_not] at accepted
  obtain ⟨own, ownErrors, ownPlace⟩ := Reader.exists_errors_step files path
    (Reader.readLines files path { scope } front) (bad, front.length + 1)
  obtain ⟨⟨kept, added, originalErrors, repairedErrors, surplus⟩, suite⟩ :=
    (Reader.awaits_of_step badRequest goodRequest rejected accepted).readFrom
      files path (front.length + 2) back
  rw [ownErrors, ← Reader.readLines_append_cons] at originalErrors
  rw [accepted, ← Reader.readLines_append_cons] at repairedErrors
  rw [← Reader.readLines_append_cons, ← Reader.readLines_append_cons] at suite
  refine ⟨?_, ?_, suite⟩
  · have cleared : own.filter (fun error => error.location.line ≠ front.length + 1) = [] := by
      rw [List.filter_eq_nil_iff]
      intro error inside
      simp [ownPlace error inside]
    rw [ofLines, ofLines, originalErrors, repairedErrors, List.filter_append,
      List.filter_append, cleared, List.append_nil]
    exact List.filter_sublist.append (List.filter_sublist.trans surplus.sublist)
  · intro error inside outside
    rw [ofLines, repairedErrors, List.mem_append] at inside
    rw [ofLines, originalErrors, List.mem_append, List.mem_append, not_or, not_or] at outside
    exact surplus.extra error (inside.resolve_left outside.1.1) outside.2

/-- A missing URL hides that its test case does not admit a parameter beside a raw content.
The error of another line and the request behind stay as they are. -/
theorem Script.ofLines_repair_missingUrl :
    let files := (FileNode.directory []).toFileSystem []
    let bad : Text := "post"
    let good : Text := "post a:"
    let back : List Text :=
      ["with-raw-content x", "with-post-parameter n v", "assert-empty y", "get b:"]
    let original := ofLines files "t" {} ([] ++ bad :: back)
    let repaired := ofLines files "t" {} ([] ++ good :: back)
    original.errors.map (fun error => error.location.line) = [1, 4] ∧
    repaired.errors.map (fun error => error.location.line) = [3, 4] ∧
    repaired.IsRepairOf ⟨"t", 1⟩ back original := by
  intro files bad good back original repaired
  have badRequest : Reader.isRequestLine (Text.trim bad) = true := by decide +kernel
  have goodRequest : Reader.isRequestLine (Text.trim good) = true := by decide +kernel
  have rejected : original.rejects 1 = true := by decide +kernel
  have accepted : repaired.rejects 1 = false := by decide +kernel
  exact ⟨by decide +kernel, by decide +kernel,
    ofLines_repair files "t" {} [] back badRequest goodRequest rejected accepted⟩

end PageCheck
