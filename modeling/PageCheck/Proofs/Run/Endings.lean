import PageCheck.Proofs.Suite.Execution
import PageCheck.Run

/-!
# How runs end

A run ends in one of five ways, which depend on the test file and on the pages that
its test cases are answered with.  Requests are made in the last two ways only, and
then there is one for each test case.
-/

namespace PageCheck

/-! ## Files that hold a text -/

namespace FileNode

/-- The text that a node holds: the bytes of a regular file are the text in UTF-8, and a
device holds nothing. -/
inductive HoldsText : FileNode → Text → Prop
  | regular
      {content : Text} :
      HoldsText (.regular (content.flatMap String.utf8EncodeChar)) content
  | device : HoldsText .device []

/-- Bytes that are read as a text are this text in UTF-8. -/
theorem fromUTF8?_eq_some_iff
    {bytes : ByteArray}
    {text : String} :
    String.fromUTF8? bytes = some text ↔ text.toByteArray = bytes := by
  rw [String.fromUTF8?]
  constructor
  · intro found
    split at found
    · cases found
      rfl
    · cases found
  · rintro rfl
    rw [dif_pos text.isValidUTF8]
    rfl

theorem readText_eq_ok_iff
    {node : FileNode}
    {content : Text} :
    node.readText = .ok content ↔ node.HoldsText content := by
  constructor
  · intro found
    cases node with
    | regular bytes =>
        simp only [readText] at found
        split at found
        · next text read =>
            cases found
            have encoded := congrArg ByteArray.data (fromUTF8?_eq_some_iff.1 read)
            rw [← String.utf8Encode_toList, List.utf8Encode, List.data_toByteArray] at encoded
            rw [← Array.toList_inj, List.toList_toArray, List.toList_toArray] at encoded
            rw [← encoded]
            exact .regular
        · cases found
    | device =>
        cases found
        exact .device
    | directory entries => cases found
  · intro holds
    cases holds with
    | regular =>
        have read : String.fromUTF8?
            ⟨(content.flatMap String.utf8EncodeChar).toArray⟩ = some (String.ofList content) := by
          rw [fromUTF8?_eq_some_iff, String.toByteArray_ofList, List.utf8Encode]
          ext1
          exact List.data_toByteArray
        simp only [readText, read, String.toList_ofList]
    | device => rfl

/-- A file is read from a tree exactly if its path leads to a node that holds a text. -/
theorem read_toFileSystem_eq_ok_iff
    {root : FileNode}
    {working path content : Text} :
    (root.toFileSystem working).read path = .ok content ↔
      ∃ node, root.resolve working path = .ok node ∧ node.HoldsText content := by
  simp only [toFileSystem, ← readText_eq_ok_iff]
  cases root.resolve working path <;> simp [Except.bind]

end FileNode

/-! ## The ways in which a run ends -/

/-- What the content of a test file reads as, with the variables of a command line set
from the start. -/
def Options.script (options : Options) (files : FileSystem) (content : Text) : Script :=
  Script.ofContent files options.testFile (Variables.ofList options.assignments) content

/-- Every assertion of every test case of a suite holds on the page of this test case. -/
def Suite.HoldsOn (suite : Suite) (pages : List Page) : Prop :=
  ∀ pair ∈ suite.zip pages, ∀ assertion ∈ pair.1.assertions, assertion.holds pair.2 = true

/-- A suite passes exactly if no result is a failure. -/
theorem Suite.isSuccess_iff_holdsOn
    {suite : Suite}
    {pages : List Page} :
    (SuiteResult.mk (List.zipWith TestCase.resultOn suite pages)).isSuccess = true ↔
      suite.HoldsOn pages := by
  rw [SuiteResult.isSuccess, SuiteResult.failed, SuiteResult.failures, beq_iff_eq,
    List.length_eq_zero_iff, List.filter_eq_nil_iff, ← List.map_uncurry_zip_eq_zipWith,
    List.forall_mem_map]
  simp only [Bool.not_eq_true', Bool.not_eq_false]
  exact forall₂_congr fun pair _ => TestCase.isSuccess_resultOn_iff

namespace Run

variable {σ : Type}

/-- How a run ends and which requests it makes, one rule for each way. -/
inductive Ends (files : FileSystem) (fetch : Fetch σ) (state : σ) (options : Options) :
    Status → List Request → Prop
  | unreadable
      {error : FileError}
      (unread : files.read options.testFile = .error error) :
      Ends files fetch state options .unreadableFile []
  | withErrors
      {content : Text} {suite : Suite} {errors : List ParseError}
      (read : files.read options.testFile = .ok content)
      (script : options.script files content = ⟨suite, errors⟩)
      (faulty : errors ≠ []) :
      Ends files fetch state options .parseErrors []
  | withoutCases
      {content : Text}
      (read : files.read options.testFile = .ok content)
      (script : options.script files content = ⟨[], []⟩) :
      Ends files fetch state options .noTestCases []
  | passing
      {content : Text} {suite : Suite}
      (read : files.read options.testFile = .ok content)
      (script : options.script files content = ⟨suite, []⟩)
      (filled : suite ≠ [])
      (holds : suite.HoldsOn (fetch.serve state (suite.map TestCase.request)).1) :
      Ends files fetch state options .success (suite.map TestCase.request)
  | failing
      {content : Text} {suite : Suite}
      (read : files.read options.testFile = .ok content)
      (script : options.script files content = ⟨suite, []⟩)
      (filled : suite ≠ [])
      (fails : ¬ suite.HoldsOn (fetch.serve state (suite.map TestCase.request)).1) :
      Ends files fetch state options .testFailures (suite.map TestCase.request)

variable {files : FileSystem} {fetch : Fetch σ} {clock : σ → Nat} {state : σ}
variable {options : Options} {status : Status} {requests : List Request}

/-- There is a way for every run to end. -/
theorem exists_ends
    (files : FileSystem)
    (fetch : Fetch σ)
    (state : σ)
    (options : Options) :
    ∃ status requests, Ends files fetch state options status requests := by
  cases read : files.read options.testFile with
  | error error => exact ⟨_, _, .unreadable read⟩
  | ok content =>
      cases script : options.script files content with
      | mk suite errors =>
          by_cases valid : errors = []
          · subst valid
            by_cases hollow : suite = []
            · subst hollow
              exact ⟨_, _, .withoutCases read script⟩
            · by_cases holds :
                  suite.HoldsOn (fetch.serve state (suite.map TestCase.request)).1
              · exact ⟨_, _, .passing read script hollow holds⟩
              · exact ⟨_, _, .failing read script hollow holds⟩
          · exact ⟨_, _, .withErrors read script valid⟩

/-- A log of the requests does not change how a run ends. -/
theorem Ends.logged
    (ends : Ends files fetch state options status requests)
    (log : List Request) :
    Ends files fetch.logged (state, log) options status requests := by
  cases ends with
  | unreadable unread => exact .unreadable unread
  | withErrors read script faulty => exact .withErrors read script faulty
  | withoutCases read script => exact .withoutCases read script
  | passing read script filled holds =>
      refine .passing read script filled ?_
      rw [Fetch.serve_logged]
      exact holds
  | failing read script filled fails =>
      refine .failing read script filled ?_
      rw [Fetch.serve_logged]
      exact fails

/-- The run of a file that can be read is the run of what its content reads as. -/
theorem ofOptions_of_read
    {content : Text}
    (read : files.read options.testFile = .ok content) :
    ofOptions files fetch clock state options =
      ofScript fetch clock state options (options.script files content) := by
  simp only [ofOptions, Script.ofFile, read, Except.map, Options.script]

/-- A suite that is run leaves the fetcher behind the requests of its test cases, and
passes exactly if it holds on their pages. -/
theorem ofScript_of_filled
    {suite : Suite}
    (filled : suite ≠ []) :
    let served := fetch.serve state (suite.map TestCase.request)
    let run := ofScript fetch clock state options ⟨suite, []⟩
    (run.status = .success ↔ suite.HoldsOn served.1) ∧
    (run.status = .testFailures ↔ ¬ suite.HoldsOn served.1) ∧
    run.state = served.2 := by
  intro served run
  have status_eq : run.status =
      if (SuiteResult.mk (List.zipWith TestCase.resultOn suite served.1)).isSuccess then
        .success
      else
        .testFailures := by
    simp [run, ofScript, Script.isValid, filled, ofSuite, Suite.runWith_eq, served]
  have state_eq : run.state = served.2 := by
    simp [run, ofScript, Script.isValid, filled, ofSuite, Suite.runWith_eq, served]
  rw [status_eq, ← Suite.isSuccess_iff_holdsOn]
  refine ⟨?_, ?_, state_eq⟩
  · split <;> simp [*]
  · split <;> simp [*]

/-- The way in which a run ends tells its status and where it leaves the fetcher. -/
theorem Ends.status_and_state
    (ends : Ends files fetch state options status requests)
    (clock : σ → Nat) :
    let run := ofOptions files fetch clock state options
    run.status = status ∧ run.state = (fetch.serve state requests).2 := by
  cases ends with
  | unreadable unread =>
      simp [ofOptions, Script.ofFile, unread, Except.map, Run.unreadable]
  | withErrors read script faulty =>
      simp [ofOptions_of_read read, script, ofScript, Script.isValid, faulty, Run.withErrors]
  | withoutCases read script =>
      simp [ofOptions_of_read read, script, ofScript, Script.isValid, Run.withoutCases]
  | passing read script filled holds =>
      rw [ofOptions_of_read read, script]
      obtain ⟨passes, _, state_eq⟩ := ofScript_of_filled filled
      exact ⟨passes.2 holds, state_eq⟩
  | failing read script filled fails =>
      rw [ofOptions_of_read read, script]
      obtain ⟨_, passesNot, state_eq⟩ := ofScript_of_filled filled
      exact ⟨passesNot.2 fails, state_eq⟩

/-- A run ends with an unreadable file exactly if the file system has no text for it. -/
theorem status_eq_unreadableFile_iff
    (clock : σ → Nat) :
    (ofOptions files fetch clock state options).status = .unreadableFile ↔
      ∀ content, files.read options.testFile ≠ .ok content := by
  obtain ⟨status, requests, ends⟩ := exists_ends files fetch state options
  rw [(ends.status_and_state clock).1]
  cases ends with
  | unreadable unread => simp [unread]
  | withErrors read _ _ => simp [read]
  | withoutCases read _ => simp [read]
  | passing read _ _ _ => simp [read]
  | failing read _ _ _ => simp [read]

/-- A run has the status of the one way in which it ends, and hands the fetcher the
requests of that way and no others, as a log of them shows.  With the files of a tree,
the test file is unreadable exactly if its path leads to nothing that holds a text. -/
theorem ofOptions_ends_iff
    (files : FileSystem)
    (fetch : Fetch σ)
    (clock : σ → Nat)
    (state : σ)
    (options : Options) :
    let run := ofOptions files fetch clock state options
    let watched := ofOptions files fetch.logged (fun state => clock state.1) (state, []) options
    (∀ status requests, run.status = status ∧ watched.state.2 = requests ↔
      Ends files fetch state options status requests) ∧
    watched.status = run.status ∧
    run.state = (fetch.serve state watched.state.2).2 ∧
    [Status.unreadableFile, .parseErrors, .noTestCases, .success, .testFailures].map
      Status.code = [3, 4, 1, 0, 5] ∧
    ∀ root working, files = FileNode.toFileSystem root working →
      (run.status = .unreadableFile ↔ ¬ ∃ node content,
        root.resolve working options.testFile = .ok node ∧ node.HoldsText content) := by
  intro run watched
  have told : ∀ {status requests}, Ends files fetch state options status requests →
      run.status = status ∧ run.state = (fetch.serve state requests).2 ∧
      watched.status = status ∧ watched.state.2 = requests := by
    intro status requests ends
    obtain ⟨run_status, run_state⟩ := ends.status_and_state clock
    obtain ⟨watched_status, watched_state⟩ :=
      (ends.logged []).status_and_state fun state => clock state.1
    rw [Fetch.serve_logged, List.nil_append] at watched_state
    exact ⟨run_status, run_state, watched_status, congrArg Prod.snd watched_state⟩
  obtain ⟨status, requests, ends⟩ := exists_ends files fetch state options
  obtain ⟨run_status, run_state, watched_status, log_eq⟩ := told ends
  refine ⟨?_, watched_status.trans run_status.symm, ?_, rfl, ?_⟩
  · intro otherStatus otherRequests
    constructor
    · rintro ⟨rfl, rfl⟩
      rw [run_status, log_eq]
      exact ends
    · intro other
      obtain ⟨other_status, _, _, other_log⟩ := told other
      exact ⟨other_status, other_log⟩
  · rw [log_eq]
    exact run_state
  · rintro root working rfl
    rw [status_eq_unreadableFile_iff clock, not_exists]
    constructor
    · rintro unread node ⟨content, leads⟩
      exact unread content (FileNode.read_toFileSystem_eq_ok_iff.2 ⟨node, leads⟩)
    · intro nowhere content read
      obtain ⟨node, leads⟩ := FileNode.read_toFileSystem_eq_ok_iff.1 read
      exact nowhere node ⟨content, leads⟩

end Run
end PageCheck
