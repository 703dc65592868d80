import PageCheck.Proofs.Script.Steps
import PageCheck.Proofs.Text.Lines

/-!
# Reading whole files

What every step keeps, reading a whole file keeps.  This holds for the errors,
which are only ever added with the number of the line that is being read, and for
any property of test cases that opening and extending them keeps.
-/

namespace PageCheck
namespace Reader

variable {files : FileSystem} {path : Text} {reader : Reader}

/-! ## Runs over numbered lines -/

/-- The reader behind lines that are numbered from any number on. -/
def readFrom (files : FileSystem) (path : Text) (reader : Reader) (number : Nat)
    (lines : List Text) : Reader :=
  (lines.zipIdx number).foldl (step files path) reader

theorem readLines_eq_readFrom
    (files : FileSystem)
    (path : Text)
    (reader : Reader)
    (lines : List Text) :
    reader.readLines files path lines = reader.readFrom files path 1 lines := rfl

@[simp] theorem readFrom_nil (number : Nat) :
    reader.readFrom files path number [] = reader := rfl

@[simp] theorem readFrom_cons
    (number : Nat)
    (line : Text)
    (lines : List Text) :
    reader.readFrom files path number (line :: lines) =
      (reader.step files path (line, number)).readFrom files path (number + 1) lines := rfl

theorem readFrom_append
    (number : Nat)
    (front back : List Text) :
    reader.readFrom files path number (front ++ back) =
      (reader.readFrom files path number front).readFrom files path
        (number + front.length) back := by
  rw [readFrom, List.zipIdx_append, List.foldl_append]
  rfl

/-- Reading one line behind some others. -/
theorem readLines_concat
    (files : FileSystem)
    (path : Text)
    (reader : Reader)
    (lines : List Text)
    (line : Text) :
    reader.readLines files path (lines ++ [line]) =
      (reader.readLines files path lines).step files path (line, lines.length + 1) := by
  rw [readLines_eq_readFrom, readFrom_append, readFrom_cons, readFrom_nil, Nat.add_comm 1]
  rfl

/-- Blanks at the ends of lines do not matter. -/
theorem readFrom_congr_trim
    {lines others : List Text}
    (files : FileSystem)
    (path : Text)
    (reader : Reader)
    (number : Nat)
    (same : lines.map Text.trim = others.map Text.trim) :
    reader.readFrom files path number lines = reader.readFrom files path number others := by
  induction lines generalizing others reader number with
  | nil =>
      cases others with
      | nil => rfl
      | cons other others => simp at same
  | cons line lines hypothesis =>
      cases others with
      | nil => simp at same
      | cons other others =>
          rw [List.map_cons, List.map_cons] at same
          injection same with first later
          have step_eq : reader.step files path (line, number) =
              reader.step files path (other, number) := by
            simp only [step, first]
          rw [readFrom_cons, readFrom_cons, step_eq]
          exact hypothesis _ (number + 1) later

/-- Blank lines do nothing. -/
theorem readFrom_of_blank
    {lines : List Text}
    (number : Nat)
    (blank : ∀ line ∈ lines, Text.trim line = []) :
    reader.readFrom files path number lines = reader := by
  induction lines generalizing number with
  | nil => rfl
  | cons line later hypothesis =>
      rw [List.forall_mem_cons] at blank
      rw [readFrom_cons, step_of_blank blank.1, hypothesis (number + 1) blank.2]

/-! ## Errors of a run -/

/-- A step adds errors of its own line only. -/
theorem exists_errors_step
    (files : FileSystem)
    (path : Text)
    (reader : Reader)
    (numbered : Text × Nat) :
    ∃ added, (reader.step files path numbered).errors = reader.errors ++ added ∧
      ∀ error ∈ added, error.location = ⟨path, numbered.2⟩ := by
  rcases step_cases files path reader numbered with
    ⟨_, same⟩ | ⟨next, _, accepted, same⟩ | ⟨cause, _, _, same⟩
  · exact ⟨[], by rw [same, List.append_nil], by simp⟩
  · refine ⟨[], ?_, by simp⟩
    rw [same, (accepts_of_accept accepted).errors_eq, List.append_nil]
  · exact ⟨[⟨⟨path, numbered.2⟩, cause⟩], by rw [same, errors_refuse], by simp⟩

/-- A run adds errors of its own lines only. -/
theorem exists_errors_readFrom
    (files : FileSystem)
    (path : Text)
    (reader : Reader)
    (number : Nat)
    (lines : List Text) :
    ∃ added, (reader.readFrom files path number lines).errors = reader.errors ++ added ∧
      ∀ error ∈ added, error.location.path = path ∧ number ≤ error.location.line ∧
        error.location.line < number + lines.length := by
  induction lines generalizing reader number with
  | nil => exact ⟨[], by simp, by simp⟩
  | cons line lines hypothesis =>
      obtain ⟨first, firstErrors, firstPlace⟩ :=
        exists_errors_step files path reader (line, number)
      obtain ⟨later, laterErrors, laterPlaces⟩ :=
        hypothesis (reader.step files path (line, number)) (number + 1)
      refine ⟨first ++ later, ?_, ?_⟩
      · rw [readFrom_cons, laterErrors, firstErrors, List.append_assoc]
      · intro error added
        rw [List.length_cons]
        rcases List.mem_append.1 added with inFirst | inLater
        · rw [firstPlace error inFirst]
          refine ⟨rfl, Nat.le_refl number, ?_⟩
          change number < number + (lines.length + 1)
          omega
        · obtain ⟨samePath, low, high⟩ := laterPlaces error inLater
          exact ⟨samePath, by omega, by omega⟩

end Reader

/-! ## Test cases of a run -/

/-- A property of test cases is kept over numbered lines when every test case has it as
a request line opens it, and keeps it with every assertion and request modifier. -/
structure TestCase.Kept (files : FileSystem) (path : Text) (numbered : List (Text × Nat))
    (Holds : TestCase → Prop) : Prop where
  opened : ∀ {line : Text} {number : Nat} (method : Method) (url : Url),
    (line, number) ∈ numbered → Reader.isRequestLine (Text.trim line) = true →
    Holds (.opened ⟨path, number⟩ method url)
  asserted : ∀ {line : Text} {number : Nat} {testCase : TestCase}
    {expectation : Expectation} {modifiers : Modifiers} {assertion : Assertion},
    (line, number) ∈ numbered → Holds testCase →
    expectation.build ⟨path, number⟩ modifiers = .ok assertion →
    Holds (testCase.addAssertion assertion)
  modified : ∀ {testCase extended : TestCase} {wanted : Change}
    {modifier : RequestModifier},
    Holds testCase → wanted.build files = .ok modifier →
    testCase.addModifier modifier = .ok extended → Holds extended

namespace Reader

variable {files : FileSystem} {path : Text} {reader : Reader}

/-- A step keeps a property of all test cases. -/
theorem forall_suite_step
    {places : List (Text × Nat)}
    {Holds : TestCase → Prop}
    {numbered : Text × Nat}
    (kept : TestCase.Kept files path places Holds)
    (inside : numbered ∈ places)
    (before : ∀ testCase ∈ reader.suite, Holds testCase) :
    ∀ testCase ∈ (reader.step files path numbered).suite, Holds testCase := by
  rcases step_cases files path reader numbered with
    ⟨_, same⟩ | ⟨next, _, accepted, same⟩ | ⟨cause, _, _, same⟩
  · rw [same]
    exact before
  · rw [same]
    cases accepts_of_accept accepted with
    | opens request _ =>
        rw [suite_eq_of_reading rfl, List.forall_mem_append, List.forall_mem_singleton]
        exact ⟨before, kept.opened _ _ inside request⟩
    | sets _ _ => exact before
    | setsDefault _ _ => exact before
    | asserts _ current built =>
        rw [suite_eq_of_reading current, List.forall_mem_append,
          List.forall_mem_singleton] at before
        rw [suite_eq_of_reading rfl, List.forall_mem_append, List.forall_mem_singleton]
        exact ⟨before.1, kept.asserted inside before.2 built⟩
    | modifies _ current built attached =>
        rw [suite_eq_of_reading current, List.forall_mem_append,
          List.forall_mem_singleton] at before
        rw [suite_eq_of_reading rfl, List.forall_mem_append, List.forall_mem_singleton]
        exact ⟨before.1, kept.modified before.2 built attached⟩
    | idles _ _ => exact before
  · rw [same, suite_refuse]
    exact before

end Reader

namespace Script

/-- The test cases of a file have every property that is kept over its lines. -/
theorem forall_suite_ofLines
    {files : FileSystem}
    {path : Text}
    {lines : List Text}
    {Holds : TestCase → Prop}
    (kept : TestCase.Kept files path (lines.zipIdx 1) Holds)
    (scope : Variables) :
    ∀ testCase ∈ (ofLines files path scope lines).suite, Holds testCase := by
  apply List.foldlRecOn (motive := fun reader => ∀ testCase ∈ reader.suite, Holds testCase)
    (lines.zipIdx 1) (Reader.step files path)
  · intro testCase member
    simp [Reader.suite, Current.testCase?] at member
  · intro current before numbered inside
    exact Reader.forall_suite_step kept inside before

/-- Reading written lines is reading their text, with any text behind them. -/
theorem ofContent_unlines_append
    {written : List Text}
    (files : FileSystem)
    (path : Text)
    (scope : Variables)
    (whole : ∀ line ∈ written, '\n' ∉ line)
    (content : Text) :
    ofContent files path scope (Text.unlines written ++ content) =
      ofLines files path scope (written ++ Text.lines content) := by
  have shown : (Text.lines (Text.unlines written ++ content)).map Text.trim =
      (written ++ Text.lines content).map Text.trim := by
    rw [Text.map_trim_lines_unlines_append whole, List.map_append]
  have same := Reader.readFrom_congr_trim files path { scope } 1 shown
  simp only [ofContent, ofLines, Reader.readLines_eq_readFrom, same]

/-- Reading written lines is reading their text. -/
theorem ofContent_unlines
    {written : List Text}
    (files : FileSystem)
    (path : Text)
    (scope : Variables)
    (whole : ∀ line ∈ written, '\n' ∉ line) :
    ofContent files path scope (Text.unlines written) = ofLines files path scope written := by
  simpa [Text.lines] using ofContent_unlines_append files path scope whole []

end Script
end PageCheck
