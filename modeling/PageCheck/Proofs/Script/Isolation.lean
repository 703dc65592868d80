import PageCheck.Proofs.Script.Runs

/-!
# Errors are isolated

A file can be cleaned up by leaving blank every line that has an error, and every
attachment behind a request line that has one.  Reading the cleaned file gives the
same test cases, the same variables at every line, and no error: a line that is
rejected leaves no trace in what is built from the others.
-/

namespace PageCheck

/-! ## Cleaning a file -/

namespace Script

/-- Whether a file has an error on the line with a number. -/
def rejects (script : Script) (number : Nat) : Bool :=
  script.errors.any fun error => error.location.line == number

/-- The lines of a file from a number on, those being left blank that are rejected or
attach to a rejected request line.  The flag tells whether the last request line
before them is rejected. -/
def isolateFrom (script : Script) : Bool → Nat → List Text → List Text
  | _, _, [] => []
  | broken, number, line :: rest =>
      let command := Text.trim line
      let rejected := script.rejects number
      let idle := broken && Reader.isAttachmentLine command
      let stillBroken := if Reader.isRequestLine command then rejected else broken
      (if rejected || idle then [] else line) ::
        script.isolateFrom stillBroken (number + 1) rest

/-- The lines of a file without those that are rejected or attach to a rejected
request line. -/
def isolate (script : Script) (lines : List Text) : List Text :=
  script.isolateFrom false 1 lines

theorem length_isolateFrom
    (script : Script)
    (broken : Bool)
    (number : Nat)
    (lines : List Text) :
    (script.isolateFrom broken number lines).length = lines.length := by
  induction lines generalizing broken number with
  | nil => rfl
  | cons line lines hypothesis => simp [isolateFrom, hypothesis]

/-- Cleaning the first lines of a file gives the first lines of the cleaned file. -/
theorem isolateFrom_take
    (script : Script)
    (broken : Bool)
    (number count : Nat)
    (lines : List Text) :
    script.isolateFrom broken number (lines.take count) =
      (script.isolateFrom broken number lines).take count := by
  induction lines generalizing broken number count with
  | nil => simp [isolateFrom]
  | cons line lines hypothesis =>
      cases count with
      | zero => rfl
      | succ count => simp [isolateFrom, hypothesis]

end Script

/-! ## Readers that differ in their errors only -/

namespace Reader

/-- A reader without errors that has read the same as another one.  Behind a refused
request line it can still have the test case before that line open. -/
structure Isolates (clean reader : Reader) : Prop where
  errors_eq : clean.errors = []
  scope_eq : clean.scope = reader.scope
  suite_eq : clean.suite = reader.suite
  open_eq : reader.current.isBroken = false → clean = { reader with errors := [] }

variable {files : FileSystem} {path : Text} {location : Location} {line : Text}
variable {reader clean next : Reader}

/-- A reader and the same reader without its errors. -/
theorem isolates_clearErrors (reader : Reader) :
    Isolates { reader with errors := [] } reader :=
  ⟨rfl, rfl, rfl, fun _ => rfl⟩

/-- Effects do not depend on the errors that have been met. -/
theorem apply_clearErrors
    {effect : Effect}
    (applied : reader.apply location effect = .ok next) :
    apply { reader with errors := [] } location effect =
      .ok { next with errors := [] } := by
  cases effect with
  | openCase method url =>
      cases applied
      rfl
  | set name value =>
      cases applied
      rfl
  | setDefault name value =>
      cases applied
      rfl
  | addAssertion assertion =>
      simp only [apply] at applied ⊢
      split at applied <;> cases applied <;> rfl
  | addModifier modifier =>
      simp only [apply] at applied ⊢
      split at applied
      · split at applied
        · cases applied
          rfl
        · cases applied
      · cases applied
        rfl

/-- Behind an accepted request line, the two readers accept the same lines. -/
theorem Isolates.accept_of_open
    (isolates : clean.Isolates reader)
    (accepted : reader.accept files location line = .ok next)
    (opened : reader.current.isBroken = false) :
    ∃ cleanNext, clean.accept files location line = .ok cleanNext ∧
      cleanNext.Isolates next := by
  obtain ⟨effect, found, applied⟩ := Results.bind_eq_ok_iff.1 accepted
  rw [isolates.open_eq opened]
  refine ⟨{ next with errors := [] }, ?_, isolates_clearErrors next⟩
  exact Results.bind_eq_ok_iff.2 ⟨effect, found, apply_clearErrors applied⟩

/-- Behind a refused request line, the two readers accept the same lines apart from
attachments, although the test cases that are open may differ. -/
theorem Isolates.accept_of_broken
    (isolates : clean.Isolates reader)
    (accepted : reader.accept files location line = .ok next)
    (broken : reader.current.isBroken = true)
    (unattached : isAttachmentLine line = false) :
    ∃ cleanNext, clean.accept files location line = .ok cleanNext ∧
      cleanNext.Isolates next := by
  obtain ⟨effect, found, applied⟩ := Results.bind_eq_ok_iff.1 accepted
  have same : clean.lineEffect files location line = .ok effect := by
    rw [← found]
    apply lineEffect_congr_reader isolates.scope_eq
    simp [unattached]
  obtain ⟨statement, known, caused⟩ := exists_causes_of_lineEffect found
  have attachment : isAttachmentLine line = statement.command.needsRequest := by
    rw [isAttachmentLine, known]
    rfl
  rw [unattached] at attachment
  simp only [Reader.accept, same, Results.ok_bind]
  cases caused with
  | request _ =>
      cases applied
      refine ⟨_, rfl, isolates.errors_eq, isolates.scope_eq, ?_, ?_⟩
      · change clean.suite ++ _ = reader.suite ++ _
        rw [isolates.suite_eq]
      · intro _
        simp only [closeCase, isolates.suite_eq, isolates.scope_eq, isolates.errors_eq]
  | set =>
      cases applied
      refine ⟨_, rfl, isolates.errors_eq, ?_, isolates.suite_eq, ?_⟩
      · rw [isolates.scope_eq]
      · intro opened
        exact absurd (broken.symm.trans opened) (by decide)
  | setDefault =>
      cases applied
      refine ⟨_, rfl, isolates.errors_eq, ?_, isolates.suite_eq, ?_⟩
      · rw [isolates.scope_eq]
      · intro opened
        exact absurd (broken.symm.trans opened) (by decide)
  | expect _ => simp at attachment
  | change _ => simp at attachment

/-- A line that the one reader accepts is accepted by the other one, unless it attaches
to a refused request line. -/
theorem Isolates.accept
    (isolates : clean.Isolates reader)
    (accepted : reader.accept files location line = .ok next)
    (active : (reader.current.isBroken && isAttachmentLine line) = false) :
    ∃ cleanNext, clean.accept files location line = .ok cleanNext ∧
      cleanNext.Isolates next := by
  cases broken : reader.current.isBroken with
  | false => exact isolates.accept_of_open accepted broken
  | true =>
      rw [broken, Bool.true_and] at active
      exact isolates.accept_of_broken accepted broken active

/-- A line that the one reader refuses leaves the other one as it is. -/
theorem Isolates.refuse
    (isolates : clean.Isolates reader)
    (location : Location)
    (line : Text)
    (cause : LineError) :
    clean.Isolates (reader.refuse location line cause) := by
  refine ⟨isolates.errors_eq, ?_, ?_, ?_⟩
  · rw [scope_refuse, isolates.scope_eq]
  · rw [suite_refuse, isolates.suite_eq]
  · intro opened
    rw [isBroken_refuse, Bool.or_eq_false_iff] at opened
    rw [isolates.open_eq opened.1]
    simp [Reader.refuse, opened.2]

/-! ## Reading a cleaned file -/

/-- A file has an error on a line exactly if the step over that line adds one. -/
theorem rejects_eq_true_iff
    {script : Script}
    {number : Nat}
    {lines : List Text}
    (whole : script.errors = (reader.readFrom files path number (line :: lines)).errors)
    (fresh : ∀ error ∈ reader.errors, error.location.line < number) :
    script.rejects number = true ↔
      (reader.step files path (line, number)).errors ≠ reader.errors := by
  obtain ⟨added, stepErrors, stepPlace⟩ :=
    exists_errors_step files path reader (line, number)
  obtain ⟨later, laterErrors, laterPlaces⟩ :=
    exists_errors_readFrom files path (reader.step files path (line, number))
      (number + 1) lines
  rw [readFrom_cons, laterErrors, stepErrors] at whole
  rw [stepErrors, Ne, List.append_right_eq_self, Script.rejects, whole, List.any_eq_true]
  constructor
  · rintro ⟨error, member, here⟩ none
    rw [none, List.append_nil] at member
    simp only [beq_iff_eq] at here
    rcases List.mem_append.1 member with before | behind
    · exact absurd (fresh error before) (by omega)
    · exact absurd (laterPlaces error behind).2.1 (by omega)
  · intro some
    obtain ⟨error, member⟩ := List.exists_mem_of_ne_nil added some
    refine ⟨error, by simp [member], ?_⟩
    rw [stepPlace error member]
    simp

/-- A whole file has an error on a line exactly if the step over that line adds one. -/
theorem rejects_ofLines_iff
    {scope : Variables}
    {lines : List Text}
    {index : Nat}
    (found : lines[index]? = some line) :
    (Script.ofLines files path scope lines).rejects (index + 1) = true ↔
      ((readLines files path { scope } (lines.take index)).step files path
        (line, index + 1)).errors ≠ (readLines files path { scope } (lines.take index)).errors := by
  obtain ⟨inside, rfl⟩ := List.getElem?_eq_some_iff.1 found
  have front : (lines.take index).length = index := List.length_take_of_le inside.le
  have whole : ({ scope } : Reader).readFrom files path 1
      (lines.take index ++ lines.drop index) = _ :=
    readFrom_append 1 (lines.take index) (lines.drop index)
  rw [List.take_append_drop, front, List.drop_eq_getElem_cons inside, Nat.add_comm 1] at whole
  obtain ⟨added, errors_eq, places⟩ :=
    exists_errors_readFrom files path { scope } 1 (lines.take index)
  refine rejects_eq_true_iff (congrArg Reader.errors whole) ?_
  intro error member
  rw [readLines_eq_readFrom, errors_eq] at member
  have upper := (places error member).2.2
  omega

/-- Behind a line, the last request line is rejected exactly if this line is one and
adds an error, or is none and the last one before it is rejected. -/
theorem isBroken_step
    {rejected : Bool}
    {number : Nat}
    (decided : rejected = true ↔
      (reader.step files path (line, number)).errors ≠ reader.errors) :
    (reader.step files path (line, number)).current.isBroken =
      if isRequestLine (Text.trim line) then rejected else reader.current.isBroken := by
  rcases step_cases files path reader (line, number) with
    ⟨hollow, same⟩ | ⟨next, _, accepted, same⟩ | ⟨cause, _, _, same⟩
  · have noRequest : isRequestLine (Text.trim line) = false := by
      rw [hollow]
      rfl
    rw [same, noRequest]
    rfl
  · have accepts := accepts_of_accept accepted
    have kept : rejected = false := by
      rw [← Bool.not_eq_true, decided, same]
      exact not_not.2 accepts.errors_eq
    rw [same, accepts.isBroken_eq, kept]
    cases isRequestLine (Text.trim line) <;> simp
  · have dropped : rejected = true := by
      rw [decided, same, errors_refuse]
      simp
    rw [same, isBroken_refuse, dropped]
    cases isRequestLine (Text.trim line) <;> simp

/-- A step over an accepted line and a step over what is left of it lead to the same but
for the errors. -/
theorem Isolates.step_of_accept
    {number : Nat}
    (isolates : clean.Isolates reader)
    (visible : Text.trim line ≠ [])
    (accepted : reader.accept files ⟨path, number⟩ (Text.trim line) = .ok next) :
    (clean.step files path
        (if reader.current.isBroken && isAttachmentLine (Text.trim line) then [] else line,
          number)).Isolates next := by
  cases idle : reader.current.isBroken && isAttachmentLine (Text.trim line) with
  | true =>
      -- An idle line may be accepted by the one reader only, so it has to be left out.
      rw [if_pos rfl, step_of_blank rfl, (accepts_of_accept accepted).eq_of_idle idle]
      exact isolates
  | false =>
      obtain ⟨cleanNext, cleanAccepted, related⟩ := isolates.accept accepted idle
      have cleanSame : clean.step files path (line, number) = cleanNext :=
        Reader.step_of_accept visible cleanAccepted
      rw [if_neg Bool.false_ne_true, cleanSame]
      exact related

/-- A step over a line and a step over what is left of it lead to the same but for the
errors. -/
theorem Isolates.step
    {rejected : Bool}
    {number : Nat}
    (isolates : clean.Isolates reader)
    (decided : rejected = true ↔
      (reader.step files path (line, number)).errors ≠ reader.errors) :
    (clean.step files path
        (if rejected || (reader.current.isBroken && isAttachmentLine (Text.trim line))
          then [] else line, number)).Isolates
      (reader.step files path (line, number)) := by
  rcases step_cases files path reader (line, number) with
    ⟨hollow, same⟩ | ⟨next, visible, accepted, same⟩ | ⟨cause, _, _, same⟩
  · have blank : Text.trim (if rejected || (reader.current.isBroken &&
        isAttachmentLine (Text.trim line)) then [] else line) = [] := by
      split
      · rfl
      · exact hollow
    rw [same, step_of_blank blank]
    exact isolates
  · have kept : rejected = false := by
      rw [← Bool.not_eq_true, decided, same]
      exact not_not.2 (accepts_of_accept accepted).errors_eq
    rw [same, kept, Bool.false_or]
    exact isolates.step_of_accept visible accepted
  · have dropped : rejected = true := by
      rw [decided, same, errors_refuse]
      simp
    rw [same, dropped, Bool.true_or, if_pos rfl, step_of_blank rfl]
    exact isolates.refuse _ _ cause

/-- Reading some lines of a file and reading them as they are left after cleaning the
whole file gives the same but for the errors. -/
theorem Isolates.readFrom
    {script : Script}
    {number : Nat}
    {front back : List Text}
    (isolates : clean.Isolates reader)
    (whole : script.errors = (reader.readFrom files path number (front ++ back)).errors)
    (fresh : ∀ error ∈ reader.errors, error.location.line < number) :
    (clean.readFrom files path number
        (script.isolateFrom reader.current.isBroken number front)).Isolates
      (reader.readFrom files path number front) := by
  induction front generalizing reader clean number with
  | nil => exact isolates
  | cons line front hypothesis =>
      have decided := rejects_eq_true_iff whole fresh
      rw [Script.isolateFrom, readFrom_cons, readFrom_cons, ← isBroken_step decided]
      apply hypothesis (isolates.step decided)
      · exact whole
      · obtain ⟨added, stepErrors, stepPlace⟩ :=
          exists_errors_step files path reader (line, number)
        intro error member
        rw [stepErrors] at member
        rcases List.mem_append.1 member with before | here
        · exact Nat.lt_succ_of_lt (fresh error before)
        · rw [stepPlace error here]
          exact Nat.lt_succ_self number

end Reader

/-! ## No trace of rejected lines -/

/-- A cleaned file has as many lines as before, the same test cases and no error, and
the variables are the same behind any number of its lines. -/
theorem Script.ofLines_isolate
    (files : FileSystem)
    (path : Text)
    (scope : Variables)
    (lines : List Text) :
    let script := ofLines files path scope lines
    (script.isolate lines).length = lines.length ∧
    ofLines files path scope (script.isolate lines) = ⟨script.suite, []⟩ ∧
    ∀ count,
      (Reader.readLines files path { scope } ((script.isolate lines).take count)).scope =
        (Reader.readLines files path { scope } (lines.take count)).scope := by
  intro script
  have length_eq : (script.isolate lines).length = lines.length :=
    script.length_isolateFrom false 1 lines
  have related : ∀ count,
      (Reader.readLines files path { scope } ((script.isolate lines).take count)).Isolates
        (Reader.readLines files path { scope } (lines.take count)) := by
    intro count
    have whole : script.errors = (Reader.readFrom files path { scope } 1
        (lines.take count ++ lines.drop count)).errors := by
      rw [List.take_append_drop]
      rfl
    rw [isolate, ← isolateFrom_take]
    exact (Reader.isolates_clearErrors { scope }).readFrom whole (by simp)
  have final := related lines.length
  rw [← length_eq, List.take_length, length_eq, List.take_length] at final
  refine ⟨length_eq, ?_, fun count => (related count).scope_eq⟩
  rw [ofLines, final.suite_eq, final.errors_eq]
  rfl

end PageCheck
