import PageCheck.Proofs.Script.Isolation
import PageCheck.Proofs.Script.LineNumbers

/-!
# Every line is accounted for

Every line that is not blank has an error, or made a test case, an assertion or a request
modifier, or set a variable, or attaches to a request line that has an error.  Lines of
the last two kinds leave nothing in the script, so they are counted in the file, by means
of the errors alone.
-/

namespace PageCheck

/-! ## Lines that leave nothing in the script -/

namespace Reader

/-- The number of the last request line. -/
def latestRequest? (lines : List Text) : Option Nat :=
  ((lines.zipIdx 1).reverse.find? fun numbered =>
    isRequestLine (Text.trim numbered.1)).map Prod.snd

end Reader

namespace Script

/-- Whether a line sets a variable and has no error. -/
def isSetting (script : Script) (numbered : Text × Nat) : Bool :=
  Reader.isSettingLine (Text.trim numbered.1) && !script.rejects numbered.2

/-- Whether a line attaches to a request line with an error, and has none itself. -/
def isIdle (script : Script) (lines : List Text) (numbered : Text × Nat) : Bool :=
  Reader.isAttachmentLine (Text.trim numbered.1) && !script.rejects numbered.2 &&
    (Reader.latestRequest? (lines.take (numbered.2 - 1))).any script.rejects

end Script

namespace Reader

theorem latestRequest?_concat
    (lines : List Text)
    (line : Text) :
    latestRequest? (lines ++ [line]) =
      if isRequestLine (Text.trim line) then some (lines.length + 1)
      else latestRequest? lines := by
  cases request : isRequestLine (Text.trim line) <;>
    simp [latestRequest?, List.zipIdx_append, request, Nat.add_comm 1]

theorem le_length_of_mem_latestRequest?
    {lines : List Text}
    {number : Nat}
    (latest : number ∈ latestRequest? lines) :
    number ≤ lines.length := by
  obtain ⟨⟨line, here⟩, found, rfl⟩ := Option.map_eq_some_iff.1 latest
  exact Text.le_length_of_mem_zipIdx (List.mem_reverse.1 (List.mem_of_find?_eq_some found))

end Reader

/-! ## Errors of earlier lines -/

namespace Script

variable {script next : Script} {lines : List Text} {line : Text}
variable {errors places : List Nat} {modifiers : Nat}

theorem rejects_iff_mem
    {number : Nat} :
    script.rejects number = true ↔ number ∈ script.errorNumbers := by
  simp [rejects, errorNumbers]

/-- Whether earlier lines have an error is not changed by later ones. -/
theorem Adds.rejects_eq
    (adds : Adds errors places modifiers script next)
    (fresh : errors.Sublist [lines.length + 1])
    {number : Nat}
    (earlier : number ≤ lines.length) :
    next.rejects number = script.rejects number := by
  rw [Bool.eq_iff_iff, rejects_iff_mem, rejects_iff_mem, adds.errorNumbers_eq,
    List.mem_append]
  constructor
  · rintro (before | here)
    · exact before
    · rw [List.mem_singleton.1 (fresh.mem here)] at earlier
      omega
  · exact .inl

/-- A line has an error exactly if reading it has added one. -/
theorem Adds.rejects_new
    (adds : Adds errors places modifiers script next)
    (fresh : errors.Sublist [lines.length + 1])
    (increases : script.Increases lines) :
    next.rejects (lines.length + 1) = !errors.isEmpty := by
  cases errors with
  | nil =>
      rw [List.isEmpty_nil, Bool.not_true, ← Bool.not_eq_true, rejects_iff_mem,
        adds.errorNumbers_eq, List.append_nil]
      exact increases.notMem_errorNumbers
  | cons number errors =>
      have here := List.mem_singleton.1 (fresh.mem List.mem_cons_self)
      simp [rejects_iff_mem, adds.errorNumbers_eq, here]

end Script

/-! ## The last request line -/

/-- What a reader has open after the last request line: nothing if there was none or if it
has an error, and the test case that it made otherwise. -/
inductive Current.Follows (path : Text) (script : Script) : Option Nat → Current → Prop
  | missing : Follows path script none .missing
  | broken
      {number : Nat}
      (rejected : script.rejects number = true) :
      Follows path script (some number) .broken
  | reading
      {number : Nat} {testCase : TestCase}
      (accepted : script.rejects number = false)
      (last : script.suite.getLast? = some testCase)
      (place : testCase.location = ⟨path, number⟩) :
      Follows path script (some number) (.reading testCase)

namespace Current.Follows

variable {path : Text} {script next : Script} {latest : Option Nat} {current : Current}

theorem isBroken_eq
    (follows : Follows path script latest current) :
    current.isBroken = latest.any script.rejects := by
  cases follows with
  | missing => rfl
  | broken rejected => simpa [isBroken] using rejected.symm
  | reading accepted _ _ => simpa [isBroken] using accepted.symm

/-- Errors of other lines do not matter for what is open, and neither do test cases before
the last one. -/
theorem congr
    (follows : Follows path script latest current)
    (rejects_eq : ∀ number ∈ latest, next.rejects number = script.rejects number)
    (last_eq : next.suite.getLast? = script.suite.getLast?) :
    Follows path next latest current := by
  cases follows with
  | missing => exact .missing
  | broken rejected =>
      apply broken
      rw [rejects_eq _ rfl]
      exact rejected
  | reading accepted last place =>
      refine reading ?_ ?_ place
      · rw [rejects_eq _ rfl]
        exact accepted
      · rw [last_eq]
        exact last

/-- The test case that is open can be extended. -/
theorem extend
    {testCase extended : TestCase}
    (follows : Follows path script latest (.reading testCase))
    (errors_eq : next.errors = script.errors)
    (last : next.suite.getLast? = some extended)
    (location_eq : extended.location = testCase.location) :
    Follows path next latest (.reading extended) := by
  cases follows with
  | reading accepted _ place =>
      refine reading ?_ last (location_eq.trans place)
      rw [Script.rejects, errors_eq]
      exact accepted

end Current.Follows

namespace Reader

variable {files : FileSystem} {path : Text} {lines : List Text} {line : Text}
variable {reader next : Reader}

theorem getLast?_suite_of_reading
    {testCase : TestCase}
    (current : reader.current = .reading testCase) :
    reader.script.suite.getLast? = some testCase := by
  rw [script, suite_eq_of_reading current, List.getLast?_concat]

/-- What is open behind an accepted line follows from what was open before it. -/
theorem Accepts.follows
    (accepts : reader.Accepts files ⟨path, lines.length + 1⟩ (Text.trim line) next)
    (follows : Current.Follows path reader.script (latestRequest? lines) reader.current)
    (unrejected : next.script.rejects (lines.length + 1) = false) :
    Current.Follows path next.script (latestRequest? (lines ++ [line])) next.current := by
  rw [latestRequest?_concat]
  cases accepts with
  | opens request _ =>
      rw [if_pos request]
      exact .reading unrejected (getLast?_suite_of_reading rfl) rfl
  | sets request _ =>
      rw [request]
      exact follows
  | setsDefault request _ =>
      rw [request]
      exact follows
  | asserts attachment current _ =>
      rw [isRequestLine_eq_false attachment]
      rw [current] at follows
      exact follows.extend rfl (getLast?_suite_of_reading rfl) rfl
  | modifies attachment current _ attached =>
      rw [isRequestLine_eq_false attachment]
      rw [current] at follows
      obtain ⟨-, -, rfl⟩ := TestCase.addModifier_eq_ok_iff.1 attached
      exact follows.extend rfl (getLast?_suite_of_reading rfl) rfl
  | idles attachment _ =>
      rw [isRequestLine_eq_false attachment]
      exact follows

/-- What is open behind a line follows from what was open before it. -/
theorem follows_step
    (increases : reader.script.Increases lines)
    (follows : Current.Follows path reader.script (latestRequest? lines) reader.current) :
    Current.Follows path (reader.step files path (line, lines.length + 1)).script
      (latestRequest? (lines ++ [line]))
      (reader.step files path (line, lines.length + 1)).current := by
  rcases step_cases files path reader (line, lines.length + 1) with
    ⟨hollow, same⟩ | ⟨next, _, accepted, same⟩ | ⟨cause, _, _, same⟩
  · rw [same, latestRequest?_concat, hollow]
    exact follows
  · have accepts := accepts_of_accept accepted
    rw [same]
    apply accepts.follows follows
    rw [← Bool.not_eq_true, Script.rejects_iff_mem, Script.errorNumbers, script,
      accepts.errors_eq]
    exact increases.notMem_errorNumbers
  · have adds := adds_refuse reader ⟨path, lines.length + 1⟩ (Text.trim line) cause
    rw [same, latestRequest?_concat]
    cases request : isRequestLine (Text.trim line) with
    | true =>
        have current : (reader.refuse ⟨path, lines.length + 1⟩ (Text.trim line)
            cause).current = .broken := by
          simp [refuse, request, closeCase]
        rw [current]
        apply Current.Follows.broken
        rw [adds.rejects_new (List.Sublist.refl _) increases]
        rfl
    | false =>
        have current : (reader.refuse ⟨path, lines.length + 1⟩ (Text.trim line)
            cause).current = reader.current := by
          simp [refuse, request]
        rw [current]
        refine follows.congr ?_ ?_
        · intro number latest
          exact adds.rejects_eq (List.Sublist.refl _) (le_length_of_mem_latestRequest? latest)
        · simp [script]

end Reader

/-! ## Attachments to an open test case -/

/-- A test case gets one assertion from a line, or one request modifier. -/
inductive TestCase.Extends (location : Location) (testCase : TestCase) : TestCase → Prop
  | assertion
      {assertion : Assertion}
      (explicit : assertion.isDefault = false)
      (place : assertion.location = location) :
      Extends location testCase (testCase.addAssertion assertion)
  | modifier
      {modifier : RequestModifier} {extended : TestCase}
      (attached : testCase.addModifier modifier = .ok extended) :
      Extends location testCase extended

namespace Reader

variable {files : FileSystem} {path : Text} {location : Location} {line : Text}
variable {reader next : Reader}

/-- An accepted attachment extends the test case that is open. -/
theorem Accepts.exists_extends
    {testCase : TestCase}
    (accepts : reader.Accepts files location line next)
    (attachment : isAttachmentLine line = true)
    (current : reader.current = .reading testCase) :
    ∃ extended, testCase.Extends location extended ∧
      next.suite = reader.finished ++ [extended] := by
  cases accepts with
  | opens _ unattached => simp [unattached] at attachment
  | sets _ unattached => simp [unattached] at attachment
  | setsDefault _ unattached => simp [unattached] at attachment
  | asserts _ other built =>
      rw [current] at other
      cases other
      have builds := Expectation.build_eq_ok_iff.1 built
      exact ⟨_, .assertion builds.isDefault_eq_false builds.location_eq,
        suite_eq_of_reading rfl⟩
  | modifies _ other _ attached =>
      rw [current] at other
      cases other
      exact ⟨_, .modifier attached, suite_eq_of_reading rfl⟩
  | idles _ broken =>
      rw [current] at broken
      cases broken

/-- Errors stay when more lines are read. -/
theorem mem_errors_readLines_append
    {front : List Text}
    {error : ParseError}
    (inside : error ∈ (readLines files path reader front).errors)
    (back : List Text) :
    error ∈ (readLines files path reader (front ++ back)).errors := by
  rw [readLines_eq_readFrom] at inside ⊢
  obtain ⟨added, errors_eq, -⟩ := exists_errors_readFrom files path
    (readFrom files path reader 1 front) (1 + front.length) back
  rw [readFrom_append, errors_eq]
  exact List.mem_append_left added inside

/-- An attachment that has no error in a file extends the last test case of the suite if
this one is open. -/
theorem exists_extends_readLines
    (front back : List Text)
    {testCase : TestCase}
    (attachment : isAttachmentLine (Text.trim line) = true)
    (unrejected : (readLines files path reader (front ++ [line] ++ back)).script.rejects
      (front.length + 1) = false)
    (current : (readLines files path reader front).current = .reading testCase) :
    ∃ others extended, testCase.Extends ⟨path, front.length + 1⟩ extended ∧
      (readLines files path reader front).suite = others ++ [testCase] ∧
      (readLines files path reader (front ++ [line])).suite = others ++ [extended] := by
  have concat := readLines_concat files path reader front line
  rcases step_cases files path (readLines files path reader front)
      (line, front.length + 1) with
    ⟨hollow, _⟩ | ⟨next, _, accepted, same⟩ | ⟨cause, _, _, same⟩
  · rw [hollow] at attachment
    cases attachment
  · obtain ⟨extended, extend, suite_eq⟩ :=
      (accepts_of_accept accepted).exists_extends attachment current
    refine ⟨_, extended, extend, suite_eq_of_reading current, ?_⟩
    rw [concat, same]
    exact suite_eq
  · have error : (⟨⟨path, front.length + 1⟩, cause⟩ : ParseError) ∈
        (readLines files path reader (front ++ [line])).errors := by
      rw [concat, same, errors_refuse]
      exact List.mem_append_right _ List.mem_cons_self
    have rejected := mem_errors_readLines_append error back
    rw [← Bool.not_eq_true, Script.rejects_iff_mem] at unrejected
    exact absurd (List.mem_map.2 ⟨_, rejected, rfl⟩) unrejected

end Reader

/-! ## Counting lines -/

namespace Script

/-- The number of errors, of test cases, of assertions with lines of their own and of
request modifiers. -/
def entryCount (script : Script) : Nat :=
  script.errorNumbers.length + script.suiteNumbers.length + script.suite.modifierCount

/-- The lines that are not blank are as many as the entries of the script together with
the lines that leave nothing in it. -/
def Balances (lines : List Text) (script : Script) : Prop :=
  (Text.visibleNumbers lines).length =
    script.entryCount + (lines.zipIdx 1).countP script.isSetting +
      (lines.zipIdx 1).countP (script.isIdle lines)

section Later

variable {script next : Script} {lines : List Text} {line : Text}
variable {errors places : List Nat} {modifiers : Nat}

/-- Later lines do not change which earlier ones set a variable. -/
theorem Adds.countP_isSetting_eq
    (adds : Adds errors places modifiers script next)
    (fresh : errors.Sublist [lines.length + 1]) :
    (lines.zipIdx 1).countP next.isSetting = (lines.zipIdx 1).countP script.isSetting := by
  apply List.countP_congr
  rintro ⟨text, number⟩ inside
  have earlier := Text.le_length_of_mem_zipIdx inside
  rw [isSetting, isSetting, adds.rejects_eq fresh earlier]

/-- Later lines do not change whether an earlier request line has an error. -/
theorem Adds.any_rejects_eq
    {front : List Text}
    (adds : Adds errors places modifiers script next)
    (fresh : errors.Sublist [lines.length + 1])
    (short : front.length ≤ lines.length) :
    (Reader.latestRequest? front).any next.rejects =
      (Reader.latestRequest? front).any script.rejects := by
  cases latest : Reader.latestRequest? front with
  | none => rfl
  | some number =>
      have le := Reader.le_length_of_mem_latestRequest? latest
      exact adds.rejects_eq fresh (Nat.le_trans le short)

/-- Later lines do not change which earlier ones attach to a request line with an error. -/
theorem Adds.countP_isIdle_eq
    (adds : Adds errors places modifiers script next)
    (fresh : errors.Sublist [lines.length + 1]) :
    (lines.zipIdx 1).countP (next.isIdle (lines ++ [line])) =
      (lines.zipIdx 1).countP (script.isIdle lines) := by
  apply List.countP_congr
  rintro ⟨text, number⟩ inside
  have earlier := Text.le_length_of_mem_zipIdx inside
  have front : (lines ++ [line]).take (number - 1) = lines.take (number - 1) :=
    List.take_append_of_le_length (by omega)
  have latest := adds.any_rejects_eq fresh (List.length_take_le' (number - 1) lines)
  simp only [isIdle, front, latest, adds.rejects_eq fresh earlier]

end Later
end Script

namespace Reader

variable {files : FileSystem} {path : Text} {lines : List Text} {line : Text}
variable {reader : Reader}

/-- The next line is counted among those that leave nothing in the script exactly if it is
silent and has no error. -/
theorem counts_eq
    (line : Text)
    {next : Script}
    {errors places : List Nat}
    {modifiers : Nat}
    (follows : Current.Follows path reader.script (latestRequest? lines) reader.current)
    (increases : reader.script.Increases lines)
    (adds : Script.Adds errors places modifiers reader.script next)
    (fresh : errors.Sublist [lines.length + 1]) :
    [(line, lines.length + 1)].countP next.isSetting +
        [(line, lines.length + 1)].countP (next.isIdle (lines ++ [line])) =
      if errors = [] ∧ reader.isSilent (Text.trim line) = true then 1 else 0 := by
  have rejected := adds.rejects_new fresh increases
  have front : (lines ++ [line]).take lines.length = lines := List.take_left
  have latest := adds.any_rejects_eq fresh (Nat.le_refl lines.length)
  rw [← follows.isBroken_eq] at latest
  have setting : next.isSetting (line, lines.length + 1) =
      (isSettingLine (Text.trim line) && errors.isEmpty) := by
    rw [Script.isSetting, rejected, Bool.not_not]
  have idle : next.isIdle (lines ++ [line]) (line, lines.length + 1) =
      (isAttachmentLine (Text.trim line) && errors.isEmpty && reader.current.isBroken) := by
    rw [Script.isIdle, rejected, Bool.not_not, Nat.add_sub_cancel, front, latest]
  rw [List.countP_singleton, List.countP_singleton, setting, idle, isSilent]
  cases errors with
  | cons number errors => simp
  | nil =>
      -- A line does not count both as one that sets a variable and as an attachment.
      cases attachment : isAttachmentLine (Text.trim line) with
      | true => simp [isSettingLine_eq_false attachment]
      | false => simp

/-- A step keeps the balance. -/
theorem balances_step
    (balances : reader.script.Balances lines)
    (increases : reader.script.Increases lines)
    (follows : Current.Follows path reader.script (latestRequest? lines) reader.current) :
    (reader.step files path (line, lines.length + 1)).script.Balances (lines ++ [line]) := by
  obtain ⟨errors, places, modifiers, adds, fresh, added⟩ :=
    exists_adds_step files path reader (line, lines.length + 1)
  have freshErrors : errors.Sublist [lines.length + 1] :=
    ((List.sublist_append_left errors places).trans fresh).trans
      (Text.visibleNumber_sublist (line, lines.length + 1))
  have counts := counts_eq line follows increases adds freshErrors
  have entries : (reader.step files path (line, lines.length + 1)).script.entryCount =
      reader.script.entryCount + (errors.length + places.length + modifiers) := by
    simp only [Script.entryCount, adds.errorNumbers_eq, adds.suiteNumbers_eq,
      adds.modifierCount_eq, List.length_append]
    omega
  -- The line is in exactly one of the counts, unless it is blank.
  have share : (Text.visibleNumber (line, lines.length + 1)).length =
      (errors.length + places.length + modifiers) +
        (if errors = [] ∧ reader.isSilent (Text.trim line) = true then 1 else 0) := by
    rw [added]
    by_cases hollow : Text.trim line = []
    · simp [Text.visibleNumber, hollow, isSilent_of_blank]
    · by_cases silent : errors = [] ∧ reader.isSilent (Text.trim line) = true <;>
        simp [Text.visibleNumber, hollow, silent]
  rw [Script.Balances] at balances ⊢
  rw [Text.visibleNumbers_concat, List.length_append, List.zipIdx_append, List.countP_append,
    List.countP_append, adds.countP_isSetting_eq freshErrors,
    adds.countP_isIdle_eq freshErrors, List.zipIdx_singleton, Nat.add_comm 1, entries, share,
    ← counts, balances]
  omega

/-- What is open behind any lines follows from the last request line among them. -/
theorem follows_readLines
    (files : FileSystem)
    (path : Text)
    (scope : Variables)
    (lines : List Text) :
    Current.Follows path (readLines files path { scope } lines).script (latestRequest? lines)
      (readLines files path { scope } lines).current := by
  induction lines using List.reverseRecOn with
  | nil => exact .missing
  | append_singleton lines line hypothesis =>
      rw [readLines_concat]
      exact follows_step (increases_readLines files path scope lines) hypothesis

theorem balances_readLines
    (files : FileSystem)
    (path : Text)
    (scope : Variables)
    (lines : List Text) :
    (readLines files path { scope } lines).script.Balances lines := by
  induction lines using List.reverseRecOn with
  | nil => rfl
  | append_singleton lines line hypothesis =>
      rw [readLines_concat]
      exact balances_step hypothesis (increases_readLines files path scope lines)
        (follows_readLines files path scope lines)

end Reader

/-! ## Accounts of a file -/

namespace Script

/-- Every line of a file is accounted for.  All places are in the file.  The errors are in
the order of their lines, and so are the test cases, each with its assertions between its
own line and the line of the next one; what was made from a line leaves no room for an
error there.  The lines that are not blank are as many as the things they did. -/
structure Accounted (path : Text) (lines : List Text) (script : Script) : Prop where
  error_path : ∀ error ∈ script.errors, error.location.path = path
  case_path : ∀ testCase ∈ script.suite, testCase.location.path = path
  assertion_path : ∀ testCase ∈ script.suite, ∀ assertion ∈ testCase.assertions,
    assertion.location.path = path
  error_visible : ∀ error ∈ script.errors, error.location.line ∈ Text.visibleNumbers lines
  case_visible : ∀ testCase ∈ script.suite,
    testCase.location.line ∈ Text.visibleNumbers lines
  assertion_visible : ∀ testCase ∈ script.suite, ∀ assertion ∈ testCase.explicit,
    assertion.location.line ∈ Text.visibleNumbers lines
  errors_increase : script.errors.Pairwise fun error later =>
    error.location.line < later.location.line
  cases_increase : script.suite.Pairwise fun testCase later =>
    testCase.location.line < later.location.line
  assertions_increase : ∀ testCase ∈ script.suite,
    testCase.explicit.Pairwise fun assertion later =>
      assertion.location.line < later.location.line
  assertion_behind_case : ∀ testCase ∈ script.suite, ∀ assertion ∈ testCase.explicit,
    testCase.location.line < assertion.location.line
  assertion_before_later : script.suite.Pairwise fun testCase later =>
    ∀ assertion ∈ testCase.explicit, assertion.location.line < later.location.line
  case_accepted : ∀ testCase ∈ script.suite, script.rejects testCase.location.line = false
  assertion_accepted : ∀ testCase ∈ script.suite, ∀ assertion ∈ testCase.explicit,
    script.rejects assertion.location.line = false
  balance : lines.countP (fun line => !(Text.trim line).isEmpty) =
    script.errors.length + script.suite.length +
      (script.suite.flatMap TestCase.explicit).length +
      (script.suite.flatMap TestCase.modifiers).length +
      (lines.zipIdx 1).countP script.isSetting +
      (lines.zipIdx 1).countP (script.isIdle lines)

variable {script : Script} {lines : List Text}

theorem Increases.rejects_eq_false
    {number : Nat}
    (increases : script.Increases lines)
    (inside : number ∈ script.suiteNumbers) :
    script.rejects number = false := by
  rw [← Bool.not_eq_true, rejects_iff_mem]
  exact increases.apart number inside

/-- All places of test cases and assertions are in the file. -/
theorem forall_path_ofLines
    (files : FileSystem)
    (path : Text)
    (scope : Variables)
    (lines : List Text) :
    ∀ testCase ∈ (ofLines files path scope lines).suite,
      testCase.location.path = path ∧
        ∀ assertion ∈ testCase.assertions, assertion.location.path = path := by
  have kept : TestCase.Kept files path (lines.zipIdx 1) fun testCase =>
      testCase.location.path = path ∧
        ∀ assertion ∈ testCase.assertions, assertion.location.path = path :=
    { opened := by
        intro _ _ method url _ _
        exact ⟨rfl, List.forall_mem_singleton.2 rfl⟩
      asserted := by
        rintro _ _ testCase _ _ assertion _ ⟨place, places⟩ built
        refine ⟨place, ?_⟩
        intro other inside
        rcases TestCase.mem_of_mem_addAssertion inside with before | rfl
        · exact places other before
        · rw [(Expectation.build_eq_ok_iff.1 built).location_eq]
      modified := by
        rintro testCase extended _ _ places _ attached
        rw [(TestCase.addModifier_eq_ok_iff.1 attached).2.2]
        exact places }
  exact forall_suite_ofLines kept scope

theorem forall_path_errors_ofLines
    (files : FileSystem)
    (path : Text)
    (scope : Variables)
    (lines : List Text) :
    ∀ error ∈ (ofLines files path scope lines).errors, error.location.path = path := by
  obtain ⟨added, errors_eq, places⟩ :=
    Reader.exists_errors_readFrom files path { scope } 1 lines
  intro error inside
  have shape : (ofLines files path scope lines).errors = added := errors_eq
  rw [shape] at inside
  exact (places error inside).1

/-- Reading any lines accounts for all of them. -/
theorem accounted_ofLines
    (files : FileSystem)
    (path : Text)
    (scope : Variables)
    (lines : List Text) :
    (ofLines files path scope lines).Accounted path lines := by
  have increases : (ofLines files path scope lines).Increases lines :=
    Reader.increases_readLines files path scope lines
  have balances : (ofLines files path scope lines).Balances lines :=
    Reader.balances_readLines files path scope lines
  obtain ⟨within, between⟩ := List.pairwise_flatMap.1 increases.suite
  have places := forall_path_ofLines files path scope lines
  exact
    { error_path := forall_path_errors_ofLines files path scope lines
      case_path := fun testCase member => (places testCase member).1
      assertion_path := fun testCase member => (places testCase member).2
      error_visible := fun error inside =>
        increases.error_visible _ (List.mem_map.2 ⟨error, inside, rfl⟩)
      case_visible := fun testCase member =>
        increases.suite_visible _ (mem_suiteNumbers_of_mem_suite member)
      assertion_visible := fun testCase member assertion inside =>
        increases.suite_visible _ (mem_suiteNumbers_of_mem_explicit member inside)
      errors_increase := List.pairwise_map.1 increases.errors
      cases_increase := by
        refine between.imp ?_
        intro testCase later ordered
        exact ordered _ List.mem_cons_self _ List.mem_cons_self
      assertions_increase := by
        intro testCase member
        exact List.pairwise_map.1 (List.pairwise_cons.1 (within testCase member)).2
      assertion_behind_case := by
        intro testCase member assertion inside
        have behind := (List.pairwise_cons.1 (within testCase member)).1
        exact behind _ (List.mem_map.2 ⟨assertion, inside, rfl⟩)
      assertion_before_later := by
        refine between.imp ?_
        intro testCase later ordered assertion inside
        exact ordered _ (TestCase.mem_lineNumbers_of_mem_explicit inside) _ List.mem_cons_self
      case_accepted := fun testCase member =>
        increases.rejects_eq_false (mem_suiteNumbers_of_mem_suite member)
      assertion_accepted := fun testCase member assertion inside =>
        increases.rejects_eq_false (mem_suiteNumbers_of_mem_explicit member inside)
      balance := by
        rw [← Text.length_visibleNumbers, balances, entryCount, length_suiteNumbers,
          errorNumbers, List.length_map, Suite.modifierCount, ← Nat.add_assoc] }

/-- Reading a file with any content accounts for every line.  Behind any number of its
lines, a test case is open exactly if the last request line has no error; it is then the
one that this line made and the last one of the suite.  An attachment without an error
extends this test case, so that no assertion and no request modifier is lost. -/
theorem ofContent_accounted
    (files : FileSystem)
    (path : Text)
    (scope : Variables)
    (content : Text) :
    let script := ofContent files path scope content
    let lines := Text.lines content
    let readerBehind count := Reader.readLines files path { scope } (lines.take count)
    script.Accounted path lines ∧
    (∀ count, Current.Follows path (readerBehind count).script
      (Reader.latestRequest? (lines.take count)) (readerBehind count).current) ∧
    ∀ count line testCase, lines[count]? = some line →
      Reader.isAttachmentLine (Text.trim line) = true → script.rejects (count + 1) = false →
      (readerBehind count).current = .reading testCase →
      ∃ others extended, testCase.Extends ⟨path, count + 1⟩ extended ∧
        (readerBehind count).suite = others ++ [testCase] ∧
        (readerBehind (count + 1)).suite = others ++ [extended] := by
  intro script lines readerBehind
  refine ⟨accounted_ofLines files path scope lines,
    fun count => Reader.follows_readLines files path scope (lines.take count), ?_⟩
  intro count line testCase here attachment unrejected current
  have length_eq : (lines.take count).length = count := by
    have inside := (List.getElem?_eq_some_iff.1 here).1
    rw [List.length_take]
    omega
  have next : lines.take (count + 1) = lines.take count ++ [line] := by
    rw [List.take_add_one, here]
    rfl
  have whole : lines.take count ++ [line] ++ lines.drop (count + 1) = lines := by
    rw [← next, List.take_append_drop]
  have extension := Reader.exists_extends_readLines (lines.take count)
    (lines.drop (count + 1)) attachment (by rw [whole, length_eq]; exact unrejected) current
  rw [length_eq, ← next] at extension
  exact extension

end Script
end PageCheck
