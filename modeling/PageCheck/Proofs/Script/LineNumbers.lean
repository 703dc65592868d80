import Mathlib.Data.List.Induction
import PageCheck.Proofs.Script.Runs
import PageCheck.Proofs.Suite.Building

/-!
# The numbers of lines

A line that is read adds its number to the errors, or to the test cases and their
assertions, or a request modifier, or nothing.  As lines are numbered upwards, the
numbers increase among the errors and along the suite, and no number is in both.
-/

namespace PageCheck

/-! ## Lines that are not blank -/

namespace Text

/-- The number of a line, if the line is not blank. -/
def visibleNumber (numbered : Text × Nat) : List Nat :=
  if trim numbered.1 = [] then [] else [numbered.2]

/-- The numbers of the lines that are not blank. -/
def visibleNumbers (lines : List Text) : List Nat :=
  ((lines.zipIdx 1).filter fun numbered => !(trim numbered.1).isEmpty).map Prod.snd

theorem visibleNumber_sublist (numbered : Text × Nat) :
    (visibleNumber numbered).Sublist [numbered.2] := by
  rw [visibleNumber]
  split <;> simp

theorem visibleNumbers_concat
    (lines : List Text)
    (line : Text) :
    visibleNumbers (lines ++ [line]) =
      visibleNumbers lines ++ visibleNumber (line, lines.length + 1) := by
  by_cases hollow : trim line = []
  · simp [visibleNumbers, visibleNumber, List.zipIdx_append, hollow]
  · simp [visibleNumbers, visibleNumber, List.zipIdx_append, hollow, Nat.add_comm 1]

theorem length_visibleNumbers (lines : List Text) :
    (visibleNumbers lines).length =
      lines.countP fun line => !(trim line).isEmpty := by
  rw [visibleNumbers, List.length_map, ← List.countP_eq_length_filter]
  conv_rhs => rw [← List.zipIdx_map_fst 1 lines, List.countP_map]
  rfl

/-- Lines that are numbered from one have no number beyond how many they are. -/
theorem le_length_of_mem_zipIdx
    {lines : List Text}
    {line : Text}
    {number : Nat}
    (inside : (line, number) ∈ lines.zipIdx 1) :
    number ≤ lines.length := by
  have place := List.mem_zipIdx inside
  omega

theorem le_length_of_mem_visibleNumbers
    {lines : List Text}
    {number : Nat}
    (inside : number ∈ visibleNumbers lines) :
    number ≤ lines.length := by
  obtain ⟨⟨line, here⟩, member, rfl⟩ := List.mem_map.1 inside
  exact le_length_of_mem_zipIdx (List.mem_filter.1 member).1

end Text

/-! ## Numbers in a script -/

/-- The assertions of a test case that lines of their own ask for. -/
def TestCase.explicit (testCase : TestCase) : List Assertion :=
  testCase.assertions.filter fun assertion => !assertion.isDefault

/-- The numbers of the lines that a test case and its assertions are from. -/
def TestCase.lineNumbers (testCase : TestCase) : List Nat :=
  testCase.location.line :: testCase.explicit.map fun assertion => assertion.location.line

theorem TestCase.mem_lineNumbers_of_mem_explicit
    {testCase : TestCase}
    {assertion : Assertion}
    (inside : assertion ∈ testCase.explicit) :
    assertion.location.line ∈ testCase.lineNumbers :=
  List.mem_cons_of_mem _ (List.mem_map.2 ⟨assertion, inside, rfl⟩)

/-- The number of request modifiers in a suite. -/
def Suite.modifierCount (suite : Suite) : Nat :=
  (suite.flatMap TestCase.modifiers).length

namespace Script

/-- The numbers of the lines with an error. -/
def errorNumbers (script : Script) : List Nat :=
  script.errors.map fun error => error.location.line

/-- The numbers of the lines that made test cases and assertions. -/
def suiteNumbers (script : Script) : List Nat :=
  script.suite.flatMap TestCase.lineNumbers

theorem length_suiteNumbers (script : Script) :
    script.suiteNumbers.length =
      script.suite.length + (script.suite.flatMap TestCase.explicit).length := by
  rw [suiteNumbers]
  induction script.suite with
  | nil => rfl
  | cons testCase suite hypothesis =>
      simp only [List.flatMap_cons, List.length_append, hypothesis, TestCase.lineNumbers,
        List.length_cons, List.length_map]
      omega

theorem mem_suiteNumbers_of_mem_suite
    {script : Script}
    {testCase : TestCase}
    (member : testCase ∈ script.suite) :
    testCase.location.line ∈ script.suiteNumbers :=
  List.mem_flatMap.2 ⟨testCase, member, List.mem_cons_self⟩

theorem mem_suiteNumbers_of_mem_explicit
    {script : Script}
    {testCase : TestCase}
    {assertion : Assertion}
    (member : testCase ∈ script.suite)
    (inside : assertion ∈ testCase.explicit) :
    assertion.location.line ∈ script.suiteNumbers :=
  List.mem_flatMap.2 ⟨testCase, member, TestCase.mem_lineNumbers_of_mem_explicit inside⟩

/-- What one line more adds to a script, in numbers of errors, in numbers of test cases
and assertions, and in request modifiers. -/
structure Adds (errors places : List Nat) (modifiers : Nat) (script next : Script) : Prop where
  errorNumbers_eq : next.errorNumbers = script.errorNumbers ++ errors
  suiteNumbers_eq : next.suiteNumbers = script.suiteNumbers ++ places
  modifierCount_eq : next.suite.modifierCount = script.suite.modifierCount + modifiers

theorem adds_nothing (script : Script) : Adds [] [] 0 script script :=
  ⟨by simp, by simp, by simp⟩

end Script

namespace TestCase

@[simp] theorem lineNumbers_opened
    (location : Location)
    (method : Method)
    (url : Url) :
    (opened location method url).lineNumbers = [location.line] := rfl

@[simp] theorem location_addAssertion
    (testCase : TestCase)
    (assertion : Assertion) :
    (testCase.addAssertion assertion).location = testCase.location := rfl

/-- An assertion with a line of its own comes behind the others that have one, whether or
not it takes the place of the assertion of success. -/
theorem explicit_addAssertion
    {assertion : Assertion}
    (testCase : TestCase)
    (explicit : assertion.isDefault = false) :
    (testCase.addAssertion assertion).explicit = testCase.explicit ++ [assertion] := by
  cases status : assertion.isStatusCode <;>
    simp [TestCase.explicit, addAssertion, status, explicit, List.filter_filter]

theorem lineNumbers_addAssertion
    {assertion : Assertion}
    (testCase : TestCase)
    (explicit : assertion.isDefault = false) :
    (testCase.addAssertion assertion).lineNumbers =
      testCase.lineNumbers ++ [assertion.location.line] := by
  simp [lineNumbers, explicit_addAssertion testCase explicit]

end TestCase

/-! ## What a step adds -/

namespace Reader

variable {files : FileSystem} {path : Text} {location : Location} {line : Text}
variable {reader next : Reader}

/-- What has been read so far, as if the file ended here. -/
def script (reader : Reader) : Script :=
  ⟨reader.suite, reader.errors⟩

/-- Whether a line has the keyword of a command that sets a variable. -/
def isSettingLine (line : Text) : Bool :=
  (Command.ofKeyword? (splitKeyword line).1).any fun command =>
    command = .set || command = .setDefault

/-- No line is both an attachment and sets a variable. -/
theorem isSettingLine_eq_false
    (attachment : isAttachmentLine line = true) :
    isSettingLine line = false := by
  unfold isAttachmentLine at attachment
  unfold isSettingLine
  cases known : Command.ofKeyword? (splitKeyword line).1 with
  | none => rfl
  | some command =>
      rw [known] at attachment
      cases command <;> simp_all [Command.needsRequest]

/-- Whether a line leaves nothing in the script when it is accepted: it sets a variable, or
attaches to a refused request line. -/
def isSilent (reader : Reader) (line : Text) : Bool :=
  isSettingLine line || (isAttachmentLine line && reader.current.isBroken)

theorem isSilent_of_blank (reader : Reader) : reader.isSilent [] = false := rfl

/-- An accepted line sets a variable if it is neither a request line nor an attachment. -/
theorem isSettingLine_of_accept
    (accepted : reader.accept files location line = .ok next) :
    isSettingLine line = (!isRequestLine line && !isAttachmentLine line) := by
  obtain ⟨effect, found, -⟩ := Results.bind_eq_ok_iff.1 accepted
  obtain ⟨command, statement, known, -⟩ := lineEffect_eq_ok_iff.1 found
  rw [isSettingLine, isRequestLine, isAttachmentLine, known]
  cases command <;> rfl

/-- An accepted line that is silent adds nothing. -/
theorem adds_nothing_of_accept
    (accepted : reader.accept files location line = .ok next)
    (silent : reader.isSilent line = true) :
    Script.Adds [] [] 0 reader.script next.script := by
  rw [isSilent, isSettingLine_of_accept accepted] at silent
  cases accepts_of_accept accepted with
  | opens request attachment => simp [request, attachment] at silent
  | sets _ _ => exact Script.adds_nothing reader.script
  | setsDefault _ _ => exact Script.adds_nothing reader.script
  | asserts attachment current _ => simp [attachment, current, Current.isBroken] at silent
  | modifies attachment current _ _ => simp [attachment, current, Current.isBroken] at silent
  | idles _ _ => exact Script.adds_nothing reader.script

/-- Every other accepted line adds its number once, or a request modifier. -/
theorem adds_one_of_accept
    (accepted : reader.accept files location line = .ok next)
    (heard : reader.isSilent line = false) :
    Script.Adds [] [location.line] 0 reader.script next.script ∨
      Script.Adds [] [] 1 reader.script next.script := by
  rw [isSilent, isSettingLine_of_accept accepted] at heard
  cases accepts_of_accept accepted with
  | @opens method url request attachment =>
      left
      refine ⟨?_, ?_, ?_⟩
      · simp [Script.errorNumbers, script, closeCase]
      · simp [Script.suiteNumbers, script, suite_eq_of_reading, closeCase]
      · simp [Suite.modifierCount, script, suite_eq_of_reading, closeCase, TestCase.opened]
  | sets request attachment => simp [request, attachment] at heard
  | setsDefault request attachment => simp [request, attachment] at heard
  | @asserts testCase expectation modifiers assertion attachment current built =>
      left
      have builds := Expectation.build_eq_ok_iff.1 built
      refine ⟨?_, ?_, ?_⟩
      · simp [Script.errorNumbers, script]
      · simp [Script.suiteNumbers, script, suite_eq_of_reading current, suite_eq_of_reading,
          TestCase.lineNumbers_addAssertion testCase builds.isDefault_eq_false,
          builds.location_eq]
      · simp [Suite.modifierCount, script, suite_eq_of_reading current, suite_eq_of_reading,
          TestCase.addAssertion]
  | @modifies testCase extended wanted modifier attachment current built attached =>
      right
      obtain ⟨-, -, rfl⟩ := TestCase.addModifier_eq_ok_iff.1 attached
      refine ⟨?_, ?_, ?_⟩
      · simp [Script.errorNumbers, script]
      · simp [Script.suiteNumbers, script, suite_eq_of_reading current, suite_eq_of_reading,
          TestCase.lineNumbers, TestCase.explicit]
      · simp [Suite.modifierCount, script, suite_eq_of_reading current, suite_eq_of_reading]
        omega
  | idles attachment broken => simp [attachment, broken, Current.isBroken] at heard

/-- A refused line adds its number to the errors. -/
theorem adds_refuse
    (reader : Reader)
    (location : Location)
    (line : Text)
    (cause : LineError) :
    Script.Adds [location.line] [] 0 reader.script
      (reader.refuse location line cause).script := by
  refine ⟨?_, ?_, ?_⟩
  · simp [Script.errorNumbers, script]
  · simp [Script.suiteNumbers, script]
  · simp [script]

/-- A step adds the number of its line at most once.  It adds one thing, unless the line is
blank or has no error and is silent. -/
theorem exists_adds_step
    (files : FileSystem)
    (path : Text)
    (reader : Reader)
    (numbered : Text × Nat) :
    ∃ errors places modifiers,
      Script.Adds errors places modifiers reader.script
        (reader.step files path numbered).script ∧
      (errors ++ places).Sublist (Text.visibleNumber numbered) ∧
      errors.length + places.length + modifiers =
        if Text.trim numbered.1 = [] ∨
            (errors = [] ∧ reader.isSilent (Text.trim numbered.1) = true) then 0 else 1 := by
  rcases step_cases files path reader numbered with
    ⟨hollow, same⟩ | ⟨next, visible, accepted, same⟩ | ⟨cause, visible, _, same⟩
  · rw [same]
    exact ⟨[], [], 0, Script.adds_nothing reader.script, by simp, by simp [hollow]⟩
  · rw [same]
    cases silent : reader.isSilent (Text.trim numbered.1) with
    | true => exact ⟨[], [], 0, adds_nothing_of_accept accepted silent, by simp, by simp⟩
    | false =>
        rcases adds_one_of_accept accepted silent with adds | adds
        · exact ⟨[], [numbered.2], 0, adds, by simp [Text.visibleNumber, visible],
            by simp [visible]⟩
        · exact ⟨[], [], 1, adds, by simp, by simp [visible]⟩
  · rw [same]
    exact ⟨[numbered.2], [], 0, adds_refuse reader ⟨path, numbered.2⟩ _ cause,
      by simp [Text.visibleNumber, visible], by simp [visible]⟩

end Reader

/-! ## Increasing numbers -/

namespace Script

/-- The numbers of lines are in order both among the errors and along the suite, and none
is in both.  The lines that they are of are not blank. -/
structure Increases (lines : List Text) (script : Script) : Prop where
  errors : script.errorNumbers.Pairwise (· < ·)
  suite : script.suiteNumbers.Pairwise (· < ·)
  error_visible : ∀ number ∈ script.errorNumbers, number ∈ Text.visibleNumbers lines
  suite_visible : ∀ number ∈ script.suiteNumbers, number ∈ Text.visibleNumbers lines
  apart : ∀ number ∈ script.suiteNumbers, number ∉ script.errorNumbers

/-- The next line has had no error yet. -/
theorem Increases.notMem_errorNumbers
    {lines : List Text}
    {script : Script}
    (increases : script.Increases lines) :
    lines.length + 1 ∉ script.errorNumbers := by
  intro inside
  have le := Text.le_length_of_mem_visibleNumbers (increases.error_visible _ inside)
  omega

section Fresh

variable {lines : List Text} {line : Text} {numbers added : List Nat}

/-- The number of the next line can be put behind the numbers of lines. -/
theorem pairwise_append_of_fresh
    (increase : numbers.Pairwise (· < ·))
    (visible : ∀ number ∈ numbers, number ∈ Text.visibleNumbers lines)
    (fresh : added.Sublist [lines.length + 1]) :
    (numbers ++ added).Pairwise (· < ·) := by
  rw [List.pairwise_append]
  refine ⟨increase, (List.pairwise_singleton _ _).sublist fresh, ?_⟩
  intro number inside other here
  rw [List.mem_singleton.1 (fresh.mem here)]
  exact Nat.lt_succ_of_le (Text.le_length_of_mem_visibleNumbers (visible number inside))

theorem mem_visibleNumbers_of_mem_append
    (visible : ∀ number ∈ numbers, number ∈ Text.visibleNumbers lines)
    (fresh : added.Sublist (Text.visibleNumber (line, lines.length + 1))) :
    ∀ number ∈ numbers ++ added, number ∈ Text.visibleNumbers (lines ++ [line]) := by
  rw [Text.visibleNumbers_concat, List.forall_mem_append]
  exact ⟨fun number inside => List.mem_append_left _ (visible number inside),
    fun number here => List.mem_append_right _ (fresh.mem here)⟩

end Fresh

/-- Adding the number of the next line at most once, and not at all if it is blank, keeps
the order. -/
theorem Increases.of_adds
    {script next : Script}
    {lines : List Text}
    {line : Text}
    {modifiers : Nat}
    {errors places : List Nat}
    (increases : script.Increases lines)
    (adds : Adds errors places modifiers script next)
    (fresh : (errors ++ places).Sublist (Text.visibleNumber (line, lines.length + 1))) :
    next.Increases (lines ++ [line]) := by
  have single := Text.visibleNumber_sublist (line, lines.length + 1)
  have freshErrors := (List.sublist_append_left errors places).trans fresh
  have freshPlaces := (List.sublist_append_right errors places).trans fresh
  have errors_eq := adds.errorNumbers_eq
  have places_eq := adds.suiteNumbers_eq
  refine ⟨?_, ?_, ?_, ?_, ?_⟩
  · rw [errors_eq]
    exact pairwise_append_of_fresh increases.errors increases.error_visible
      (freshErrors.trans single)
  · rw [places_eq]
    exact pairwise_append_of_fresh increases.suite increases.suite_visible
      (freshPlaces.trans single)
  · rw [errors_eq]
    exact mem_visibleNumbers_of_mem_append increases.error_visible freshErrors
  · rw [places_eq]
    exact mem_visibleNumbers_of_mem_append increases.suite_visible freshPlaces
  · rw [errors_eq, places_eq]
    intro number place error
    -- A number that is in both would be twice among the added ones or be of an older line.
    rcases List.mem_append.1 place with oldPlace | newPlace <;>
      rcases List.mem_append.1 error with oldError | newError
    · exact increases.apart number oldPlace oldError
    · have le := Text.le_length_of_mem_visibleNumbers (increases.suite_visible number oldPlace)
      rw [List.mem_singleton.1 ((freshErrors.trans single).mem newError)] at le
      omega
    · have le := Text.le_length_of_mem_visibleNumbers (increases.error_visible number oldError)
      rw [List.mem_singleton.1 ((freshPlaces.trans single).mem newPlace)] at le
      omega
    · have once : (errors ++ places).Nodup :=
        (List.pairwise_singleton _ _).sublist (fresh.trans single)
      exact (List.nodup_append.1 once).2.2 number newError number newPlace rfl

end Script

namespace Reader

/-- The numbers of the lines that have been read are in order. -/
theorem increases_readLines
    (files : FileSystem)
    (path : Text)
    (scope : Variables)
    (lines : List Text) :
    (readLines files path { scope } lines).script.Increases lines := by
  induction lines using List.reverseRecOn with
  | nil =>
      refine ⟨?_, ?_, ?_, ?_, ?_⟩ <;>
        simp [readLines, script, Script.errorNumbers, Script.suiteNumbers, suite,
          Current.testCase?]
  | append_singleton lines line hypothesis =>
      rw [readLines_concat]
      obtain ⟨errors, places, modifiers, adds, fresh, -⟩ :=
        exists_adds_step files path (readLines files path { scope } lines)
          (line, lines.length + 1)
      exact hypothesis.of_adds adds fresh

end Reader
end PageCheck
