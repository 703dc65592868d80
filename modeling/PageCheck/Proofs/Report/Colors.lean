import PageCheck.Report.Basic

/-!
# Colours

A terminal is sent contents and, if it shows colours, control sequences of its own.
Whatever is reported, the contents are the same on terminals of both kinds, and so is the
number of marks on the open line.  Every operation that sends control sequences leaves the
normal look behind.
-/

namespace PageCheck

/-! ## Signals -/

/-- What a terminal is sent: a content, or the control sequence with a number. -/
inductive Signal
  | content (text : Text)
  | control (number : Text)
deriving DecidableEq, Repr

namespace Signal

/-- The characters of a signal. -/
def toText : Signal → Text
  | .content text => text
  | .control number => Piece.control number

/-- Whether a signal is no control sequence. -/
def isContent : Signal → Bool
  | .content _ => true
  | .control _ => false

/-- The characters of signals, in order. -/
def textOf (signals : List Signal) : Text :=
  signals.flatMap toText

/-- The signals that are left when the control sequences are deleted. -/
def contents (signals : List Signal) : List Signal :=
  signals.filter isContent

/-- The control sequences among signals. -/
def controls (signals : List Signal) : List Signal :=
  signals.filter fun signal => !signal.isContent

theorem controls_contents (signals : List Signal) : controls (contents signals) = [] := by
  rw [controls, contents, List.filter_filter]
  simp

/-- The control sequence that brings back the normal look. -/
def reset : Signal := .control "0"

/-- Signals leave the normal look behind: the last control sequence among them, if there
is one, brings it back. -/
def LeavesNormal (signals : List Signal) : Prop :=
  ∀ signal ∈ (controls signals).getLast?, signal = reset

theorem leavesNormal_append
    {front back : List Signal}
    (first : LeavesNormal front)
    (second : LeavesNormal back) :
    LeavesNormal (front ++ back) := by
  intro signal last
  rw [controls, List.filter_append, List.getLast?_append, Option.mem_def,
    Option.or_eq_some_iff] at last
  rcases last with inBack | ⟨_, inFront⟩
  · exact second signal inBack
  · exact first signal inFront

end Signal

/-! ## Pieces -/

namespace Piece

/-- The signals that a terminal is sent for a piece. -/
def signals (hasColor : Bool) : Piece → List Signal
  | .text content => [.content content]
  | .color wanted bold =>
      if hasColor then
        .control "0" :: (if bold then [.control "1"] else []) ++ [.control (colorNumber wanted)]
      else
        []
  | .reset => if hasColor then [.control "0"] else []

/-- The signals for pieces, in order. -/
def allSignals (hasColor : Bool) (pieces : List Piece) : List Signal :=
  pieces.flatMap (signals hasColor)

theorem allSignals_append
    (hasColor : Bool)
    (front back : List Piece) :
    allSignals hasColor (front ++ back) =
      allSignals hasColor front ++ allSignals hasColor back :=
  List.flatMap_append

/-- The characters of the signals for a piece are what the piece is rendered as. -/
theorem textOf_signals
    (hasColor : Bool)
    (piece : Piece) :
    Signal.textOf (signals hasColor piece) = (if hasColor then colored else plain) piece := by
  cases hasColor with
  | false => cases piece <;> simp [signals, Signal.textOf, Signal.toText, plain]
  | true =>
      cases piece with
      | text content => simp [signals, Signal.textOf, Signal.toText, colored]
      | color wanted bold =>
          cases bold <;> simp [signals, Signal.textOf, Signal.toText, colored]
      | reset => simp [signals, Signal.textOf, Signal.toText, colored]

theorem textOf_allSignals
    (hasColor : Bool)
    (pieces : List Piece) :
    Signal.textOf (allSignals hasColor pieces) = render hasColor pieces := by
  rw [allSignals, Signal.textOf, List.flatMap_assoc, render]
  exact congrArg pieces.flatMap (funext (textOf_signals hasColor))

/-- Without its control sequences a colouring terminal is sent what a plain one is. -/
theorem contents_signals
    (hasColor : Bool)
    (piece : Piece) :
    (signals hasColor piece).filter Signal.isContent = signals false piece := by
  cases piece with
  | text content => rfl
  | color wanted bold => cases hasColor <;> cases bold <;> rfl
  | reset => cases hasColor <;> rfl

theorem contents_allSignals
    (hasColor : Bool)
    (pieces : List Piece) :
    Signal.contents (allSignals hasColor pieces) = allSignals false pieces := by
  rw [Signal.contents, allSignals, List.filter_flatMap]
  exact congrArg pieces.flatMap (funext (contents_signals hasColor))

/-- Pieces leave the normal look behind on a terminal of either kind. -/
def LeaveNormal (pieces : List Piece) : Prop :=
  ∀ hasColor, Signal.LeavesNormal (allSignals hasColor pieces)

theorem leaveNormal_append
    {front back : List Piece}
    (first : LeaveNormal front)
    (second : LeaveNormal back) :
    LeaveNormal (front ++ back) := by
  intro hasColor
  rw [allSignals_append]
  exact Signal.leavesNormal_append (first hasColor) (second hasColor)

/-- Whatever is in front, the normal look is there behind a return to it. -/
theorem leaveNormal_reset (pieces : List Piece) : LeaveNormal (pieces ++ [.reset]) := by
  intro hasColor
  cases hasColor with
  | false =>
      intro signal last
      rw [← contents_allSignals false, Signal.controls_contents] at last
      cases last
  | true =>
      intro signal last
      rw [allSignals_append, Signal.controls, List.filter_append] at last
      change signal ∈ (_ ++ [Signal.reset]).getLast? at last
      rw [List.getLast?_concat] at last
      exact (Option.some.inj last).symm

theorem leaveNormal_painted
    (color : Color)
    (bold : Bool)
    (content : Text) :
    LeaveNormal (painted color bold content) :=
  leaveNormal_reset [.color color bold, .text content]

/-- Texts alone do not change the look. -/
theorem leaveNormal_texts
    {pieces : List Piece}
    (texts : ∀ piece ∈ pieces, ∃ content, piece = .text content) :
    LeaveNormal pieces := by
  intro hasColor signal last
  have none : Signal.controls (allSignals hasColor pieces) = [] := by
    rw [Signal.controls, allSignals, List.filter_flatMap, List.flatMap_eq_nil_iff]
    intro piece inside
    obtain ⟨content, rfl⟩ := texts piece inside
    rfl
  rw [none] at last
  cases last

end Piece

/-! ## Operations -/

namespace Report

/-- What can be reported. -/
inductive Operation
  | progress (verbose : Bool) (outcome : Outcome)
  | finish
  | parseErrors (errors : List ParseError)
  | results (result : SuiteResult) (nanoseconds : Nat)

/-- The report with one more operation. -/
def perform (report : Report) : Operation → Report
  | .progress verbose outcome => report.progress verbose outcome
  | .finish => report.finish
  | .parseErrors errors => report.parseErrors errors
  | .results result nanoseconds => report.resultsAfter result nanoseconds

/-- A fresh report behind operations. -/
def ofOperations (operations : List Operation) : Report :=
  operations.foldl perform {}

/-- What an operation leaves behind if nothing but the marks of the open line is there. -/
def Operation.added (operation : Operation) (marks : Nat) : Report :=
  ({ marks } : Report).perform operation

/-- What an operation adds to a report depends on the marks of the open line only. -/
theorem perform_eq
    (report : Report)
    (operation : Operation) :
    report.perform operation =
      ⟨report.pieces ++ (operation.added report.marks).pieces,
        (operation.added report.marks).marks⟩ := by
  unfold Operation.added
  cases operation with
  | progress verbose outcome =>
      cases verbose with
      | false =>
          simp only [perform, progress, Bool.false_eq_true, if_false, addMark]
          split <;> simp [write]
      | true => simp [perform, progress, addLine, write]
  | finish =>
      simp only [perform, finish]
      split <;> simp [write]
  | parseErrors errors => simp [perform, parseErrors, write]
  | results result nanoseconds => simp [perform, resultsAfter, write]

/-! ## The look behind an operation -/

theorem leaveNormal_line (content : Text) : Piece.LeaveNormal [line content] :=
  Piece.leaveNormal_texts (List.forall_mem_singleton.2 ⟨_, rfl⟩)

theorem leaveNormal_mark
    (outcome : Outcome)
    (passed failed : Text) :
    Piece.LeaveNormal (mark outcome passed failed) := by
  unfold mark
  split
  · exact Piece.leaveNormal_painted .green false passed
  · exact Piece.leaveNormal_painted .red false failed

theorem leaveNormal_headline (content : Text) : Piece.LeaveNormal (headline content) :=
  Piece.leaveNormal_reset [.color .red true, line content]

theorem leaveNormal_failureList (result : SuiteResult) :
    Piece.LeaveNormal (failureList result) := by
  unfold failureList
  split
  · exact Piece.leaveNormal_texts (List.forall_mem_nil _)
  · have entries : ∀ outcomes : List Outcome,
        Piece.LeaveNormal (outcomes.map failureLine) := by
      intro outcomes
      apply Piece.leaveNormal_texts
      rw [List.forall_mem_map]
      intro outcome _
      exact ⟨_, rfl⟩
    exact Piece.leaveNormal_append
      (Piece.leaveNormal_append (leaveNormal_line []) (leaveNormal_headline _)) (entries _)

theorem leaveNormal_summary
    (result : SuiteResult)
    (nanoseconds : Nat) :
    Piece.LeaveNormal (summary result nanoseconds) := by
  unfold summary
  split
  · exact Piece.leaveNormal_append (Piece.leaveNormal_painted .green true _)
      (leaveNormal_line _)
  · exact Piece.leaveNormal_append (Piece.leaveNormal_painted .red true _)
      (leaveNormal_line _)

/-- Whatever is reported, the normal look is left behind. -/
theorem leaveNormal_added
    (operation : Operation)
    (marks : Nat) :
    Piece.LeaveNormal (operation.added marks).pieces := by
  cases operation with
  | progress verbose outcome =>
      cases verbose with
      | true =>
          change Piece.LeaveNormal
            (mark outcome "✓" "✗" ++ [line (describe outcome.assertion)])
          exact Piece.leaveNormal_append (leaveNormal_mark outcome _ _) (leaveNormal_line _)
      | false =>
          change Piece.LeaveNormal (addMark { marks } outcome).pieces
          unfold addMark
          dsimp only
          split
          · exact Piece.leaveNormal_append (leaveNormal_mark outcome _ _) (leaveNormal_line [])
          · exact leaveNormal_mark outcome _ _
  | finish =>
      change Piece.LeaveNormal (finish { marks }).pieces
      unfold finish
      split
      · exact leaveNormal_line []
      · exact Piece.leaveNormal_texts (List.forall_mem_nil _)
  | parseErrors errors =>
      have entries : Piece.LeaveNormal
          (errors.map (fun error => line error.toText) ++
            [line [], line (Text.ofNat errors.length ++ " parse error(s), no test was run.")]) := by
        apply Piece.leaveNormal_texts
        rw [List.forall_mem_append, List.forall_mem_map]
        exact ⟨fun error _ => ⟨_, rfl⟩,
          List.forall_mem_cons.2 ⟨⟨_, rfl⟩, List.forall_mem_singleton.2 ⟨_, rfl⟩⟩⟩
      have all := Piece.leaveNormal_append (leaveNormal_headline "Parse errors:") entries
      rw [← List.append_assoc] at all
      exact all
  | results result nanoseconds =>
      change Piece.LeaveNormal (failureList result ++ [line []] ++ summary result nanoseconds)
      exact Piece.leaveNormal_append
        (Piece.leaveNormal_append (leaveNormal_failureList result) (leaveNormal_line []))
        (leaveNormal_summary result nanoseconds)

end Report

/-! ## Terminals -/

/-- A terminal that is reported to: whether it shows colours, what it has been sent, and how
many marks are on its open line. -/
structure Terminal where
  hasColor : Bool
  sent : List Signal := []
  marks : Nat := 0

namespace Terminal

/-- The terminal with one more operation, which sees nothing of the terminal but the marks of
the open line. -/
def perform (terminal : Terminal) (operation : Report.Operation) : Terminal :=
  let added := operation.added terminal.marks
  { terminal with
    sent := terminal.sent ++ Piece.allSignals terminal.hasColor added.pieces
    marks := added.marks }

/-- A fresh terminal behind operations. -/
def ofOperations (hasColor : Bool) (operations : List Report.Operation) : Terminal :=
  operations.foldl perform { hasColor }

/-- The plain terminal that has been sent the contents only. -/
def uncolored (terminal : Terminal) : Terminal :=
  { terminal with hasColor := false, sent := Signal.contents terminal.sent }

/-- An operation does to the contents what it does to a plain terminal. -/
theorem uncolored_perform
    (terminal : Terminal)
    (operation : Report.Operation) :
    (terminal.perform operation).uncolored = terminal.uncolored.perform operation := by
  unfold uncolored perform
  dsimp only
  rw [Signal.contents, List.filter_append]
  congr 2
  exact Piece.contents_allSignals terminal.hasColor (operation.added terminal.marks).pieces

/-- So do operations one after the other. -/
theorem uncolored_ofOperations
    (hasColor : Bool)
    (operations : List Report.Operation) :
    (ofOperations hasColor operations).uncolored = ofOperations false operations := by
  have run : ∀ terminal : Terminal, (operations.foldl perform terminal).uncolored =
      operations.foldl perform terminal.uncolored := by
    induction operations with
    | nil => exact fun _ => rfl
    | cons operation rest hypothesis =>
        intro terminal
        rw [List.foldl_cons, hypothesis, uncolored_perform, List.foldl_cons]
  exact run { hasColor }

/-- A terminal has been sent a report: its pieces, and the marks are those of the report. -/
structure Receives (terminal : Terminal) (report : Report) : Prop where
  sent_eq : terminal.sent = Piece.allSignals terminal.hasColor report.pieces
  marks_eq : terminal.marks = report.marks

theorem Receives.perform
    {terminal : Terminal}
    {report : Report}
    (receives : terminal.Receives report)
    (operation : Report.Operation) :
    (terminal.perform operation).Receives (report.perform operation) := by
  rw [Report.perform_eq]
  constructor
  · unfold Terminal.perform
    dsimp only
    rw [Piece.allSignals_append, receives.sent_eq, receives.marks_eq]
  · unfold Terminal.perform
    dsimp only
    rw [receives.marks_eq]

/-- A terminal of either kind is sent what the same operations write into a report. -/
theorem receives_ofOperations
    (hasColor : Bool)
    (operations : List Report.Operation) :
    (ofOperations hasColor operations).hasColor = hasColor ∧
      (ofOperations hasColor operations).Receives (Report.ofOperations operations) := by
  have run : ∀ (terminal : Terminal) (report : Report), terminal.Receives report →
      (operations.foldl perform terminal).hasColor = terminal.hasColor ∧
        (operations.foldl perform terminal).Receives (operations.foldl Report.perform report) := by
    induction operations with
    | nil => exact fun _ _ receives => ⟨rfl, receives⟩
    | cons operation rest hypothesis =>
        exact fun _ _ receives => hypothesis _ _ (receives.perform operation)
  exact run { hasColor } {} ⟨rfl, rfl⟩

/-- A terminal has the characters that the report of the same operations is rendered as. -/
theorem textOf_ofOperations
    (hasColor : Bool)
    (operations : List Report.Operation) :
    Signal.textOf (ofOperations hasColor operations).sent =
      (Report.ofOperations operations).render hasColor := by
  obtain ⟨kind, receives⟩ := receives_ofOperations hasColor operations
  rw [receives.sent_eq, kind, Piece.textOf_allSignals]
  rfl

/-- What an operation sends leaves the normal look behind. -/
theorem exists_sent_perform
    (terminal : Terminal)
    (operation : Report.Operation) :
    ∃ added, (terminal.perform operation).sent = terminal.sent ++ added ∧
      Signal.LeavesNormal added :=
  ⟨_, rfl, Report.leaveNormal_added operation terminal.marks terminal.hasColor⟩

/-- The normal look is there behind operations. -/
theorem leavesNormal_ofOperations
    (hasColor : Bool)
    (operations : List Report.Operation) :
    Signal.LeavesNormal (ofOperations hasColor operations).sent := by
  have run : ∀ terminal : Terminal, Signal.LeavesNormal terminal.sent →
      Signal.LeavesNormal (operations.foldl perform terminal).sent := by
    induction operations with
    | nil => exact fun _ normal => normal
    | cons operation rest hypothesis =>
        intro terminal normal
        obtain ⟨added, sent, addedNormal⟩ := terminal.exists_sent_perform operation
        apply hypothesis
        rw [sent]
        exact Signal.leavesNormal_append normal addedNormal
  apply run
  intro signal last
  cases last

/-- Operations on a colouring terminal and on a plain one send what the report of these
operations is rendered as.  If the control sequences are deleted, both are sent the same
signals, and the marks of the open line are the same all along.  The last control sequence
that an operation sends, if it sends any, brings back the normal look, so that none but the
normal look is there when the next one starts. -/
theorem ofOperations_colors (operations : List Report.Operation) :
    let colored := ofOperations true operations
    let plain := ofOperations false operations
    let report := Report.ofOperations operations
    Signal.textOf colored.sent = report.render true ∧
    Signal.textOf plain.sent = report.render false ∧
    Signal.contents colored.sent = plain.sent ∧ Signal.controls plain.sent = [] ∧
    Signal.textOf (Signal.contents colored.sent) = Signal.textOf plain.sent ∧
    (∀ count, (ofOperations true (operations.take count)).marks =
      (ofOperations false (operations.take count)).marks) ∧
    plain.marks = report.marks ∧
    Signal.LeavesNormal colored.sent ∧
    ∀ operation, ∃ added, (colored.perform operation).sent = colored.sent ++ added ∧
      Signal.LeavesNormal added := by
  intro colored plain report
  have uncolored := uncolored_ofOperations true operations
  have contents : Signal.contents colored.sent = plain.sent := congrArg sent uncolored
  refine ⟨textOf_ofOperations true operations, textOf_ofOperations false operations, contents,
    ?_, congrArg Signal.textOf contents, ?_, (receives_ofOperations false operations).2.marks_eq,
    leavesNormal_ofOperations true operations, fun operation => exists_sent_perform _ operation⟩
  · rw [← contents, Signal.controls_contents]
  · intro count
    have same := congrArg marks (uncolored_ofOperations true (operations.take count))
    exact same

end Terminal
end PageCheck
