import PageCheck.Pattern.Basic
import PageCheck.Proofs.Pattern.Parts

/-!
# Patterns between anchors

A pattern for whole subjects is the pattern in a group of its own between the two ends of a
subject.  Reading that text reads the pattern above one group that waits, and then the end of
the group and of the subject: the pattern can neither close the group nor change how the ends
are read.  Only a comment that is still open at the end of the pattern swallows the end of the
group.
-/

namespace PageCheck
namespace Pattern

/-! ## Above a group that waits -/

/-- The group around a pattern for whole subjects, behind the start of the subject. -/
def outerGroup : GroupFrame := ⟨[], [.place .lineStart], false, [], false⟩

namespace ReaderState

/-- What has been read, with the group around it. -/
def inGroup (state : ReaderState) : ReaderState :=
  { state with stack := state.stack ++ [outerGroup] }

@[simp] theorem inGroup_ignoring (state : ReaderState) :
    state.inGroup.ignoring = state.ignoring := rfl

@[simp] theorem inGroup_stack (state : ReaderState) :
    state.inGroup.stack = state.stack ++ [outerGroup] := rfl

variable {state next : ReaderState} {part : Part}

/-- A part that can be added can be added above the group, with the same effect. -/
theorem add?_inGroup (added : state.add? part = some next) :
    state.inGroup.add? part = some next.inGroup := by
  cases part with
  | item node =>
      cases added
      rfl
  | opening start =>
      cases start with
      | settings changes =>
          cases added
          rfl
      | group captures changes =>
          cases added
          rfl
      | named name =>
          simp only [add?] at added ⊢
          split_ifs at added with known
          cases added
          exact if_neg known
  | closing =>
      simp only [add?, closeGroup?, inGroup_stack] at added ⊢
      cases frames : state.stack with
      | nil => simp [frames] at added
      | cons frame stack =>
          rw [frames] at added
          cases added
          rfl
  | bar =>
      cases added
      rfl
  | repetition least most =>
      simp only [add?, repeatLast?] at added ⊢
      cases read : state.items with
      | nil => simp [read] at added
      | cons item items =>
          simp only [read] at added
          split_ifs at added with repeatable
          cases added
          simp [inGroup, read, repeatable]

/-- A part that starts a group leaves it open. -/
theorem stack_ne_nil_of_startsGroup
    (added : state.add? part = some next)
    (starts : part.startsGroup = true) :
    next.stack ≠ [] := by
  cases part with
  | opening start =>
      cases start with
      | settings changes => cases starts
      | group captures changes =>
          cases added
          exact List.cons_ne_nil _ _
      | named name =>
          simp only [add?] at added
          split_ifs at added
          cases added
          exact List.cons_ne_nil _ _
  | _ => cases starts

end ReaderState

/-- The tree of a pattern in a group between the ends of a subject. -/
def Node.anchored (tree : Node) : Node :=
  .sequence [.place .lineStart, .group false [] tree, .place .lineEnd]

/-- A reading of a pattern between the ends of a subject. -/
def Reading.anchored? (reading : Reading) : Option Reading :=
  if reading.endsInComment then none else some ⟨reading.tree.anchored, false⟩

/-- Behind a pattern the group ends, and the subject. -/
theorem readParts_closing
    {state : ReaderState}
    {text : Text}
    (closed : state.stack = [])
    (left : layout state.ignoring text = (closing, false))
    (fuel : Nat) :
    readParts (fuel + 3) state.inGroup text = some ⟨state.body.anchored, false⟩ := by
  have inside : layout state.inGroup.ignoring text = (')' :: ['$'], false) := left
  rw [readParts_of_part inside]
  simp only [readPart, ReaderState.closeGroup?, ReaderState.inGroup_stack, closed]
  rfl

/-- What is read of a part is read of it in the group, unless an open group is left without a
text. -/
theorem readPart_inGroup
    {state next : ReaderState}
    {text after : Text}
    (read : readPart state text = some (next, after))
    (inside : after = [] → next.stack = []) :
    readPart state.inGroup (text ++ closing) = some (next.inGroup, after ++ closing) := by
  obtain ⟨part, scanned, adds⟩ := readPart_eq_some_iff.1 read
  have closed : after = [] → part.startsGroup = false := by
    intro ends
    by_contra starts
    exact ReaderState.stack_ne_nil_of_startsGroup adds (by simpa using starts) (inside ends)
  exact readPart_eq_some_iff.2
    ⟨part, scanPart_append scanned closed, ReaderState.add?_inGroup adds⟩

/-- A pattern has to close its groups. -/
theorem stack_eq_nil_of_readParts_nil
    {fuel : Nat}
    {state : ReaderState}
    {reading : Reading}
    (found : readParts fuel state [] = some reading) :
    state.stack = [] := by
  cases fuel with
  | zero => cases found
  | succ fuel =>
      have ends : layout state.ignoring [] = ([], false) := by
        cases state.ignoring <;> rfl
      rw [readParts_of_end ends] at found
      split_ifs at found with closed
      exact List.isEmpty_iff.1 closed

/-- What is read of a pattern is read of it in the group, unless it ends in a comment. -/
theorem readParts_inGroup
    {fuel longer : Nat}
    (enough : fuel + 2 ≤ longer)
    {state : ReaderState}
    {text : Text}
    {reading : Reading}
    (found : readParts fuel state text = some reading) :
    readParts longer state.inGroup (text ++ closing) = reading.anchored? := by
  induction fuel generalizing longer state text with
  | zero => cases found
  | succ fuel hypothesis =>
      cases left : layout state.ignoring text with
      | mk rest cut =>
          cases rest with
          | nil =>
              rw [readParts_of_end left] at found
              split_ifs at found with closed
              cases found
              have longerLeft : layout state.inGroup.ignoring (text ++ closing) =
                  if cut then ([], true) else (closing, false) :=
                layout_append_closing_of_nil left
              cases cut with
              | true =>
                  obtain ⟨longer, rfl⟩ : ∃ less, longer = less + 1 := ⟨longer - 1, by omega⟩
                  rw [readParts_of_end longerLeft]
                  simp [Reading.anchored?]
              | false =>
                  obtain ⟨longer, rfl⟩ : ∃ less, longer = less + 3 := ⟨longer - 3, by omega⟩
                  exact readParts_closing (List.isEmpty_iff.1 closed) longerLeft longer
          | cons c rest =>
              obtain ⟨longer, rfl⟩ : ∃ less, longer = less + 1 := ⟨longer - 1, by omega⟩
              rw [readParts_of_part left] at found
              have longerLeft : layout state.inGroup.ignoring (text ++ closing) =
                  (c :: rest ++ closing, cut) := layout_append_of_cons left closing
              rw [readParts_of_part longerLeft]
              obtain ⟨⟨next, after⟩, read, further⟩ := Option.bind_eq_some_iff.1 found
              have inside : after = [] → next.stack = [] := by
                rintro rfl
                exact stack_eq_nil_of_readParts_nil further
              have longerRead : readPart state.inGroup (c :: (rest ++ closing)) =
                  some (next.inGroup, after ++ closing) := readPart_inGroup read inside
              simp only [List.append_eq, longerRead, Option.bind_some]
              exact hypothesis (by omega) further

/-! ## The pattern between the anchors -/

/-- A pattern in a group of its own between the start and the end of a subject. -/
def anchored (pattern : Text) : Text := "^(?:" ++ pattern ++ ")$"

/-- The text of a pattern between anchors is read as the pattern is, between anchors. -/
theorem read?_anchored
    {pattern : Text}
    {reading : Reading}
    (found : read? pattern = some reading) :
    read? (anchored pattern) = reading.anchored? := by
  have enough : pattern.length + 1 + 2 ≤ pattern.length + 5 := by omega
  have opened : read? (anchored pattern) =
      readParts (pattern.length + 5) ({} : ReaderState).inGroup (pattern ++ closing) := by
    have length : (anchored pattern).length = pattern.length + 6 := by simp [anchored]
    rw [read?, length]
    rfl
  rw [opened]
  exact readParts_inGroup enough found

/-- Halves of groups become groups between the anchors: reading the pattern on its own finds them
first. -/
example : (read? "a)(?:b").isNone = true ∧ (read? (anchored "a)(?:b")).isSome = true := by
  decide

theorem depth_anchored (tree : Node) : tree.anchored.depth = tree.depth + 2 := by
  simp [Node.anchored, Node.depth, Node.depthOfAll]

theorem compileTree?_anchored (caseInsensitive : Bool) (tree : Node) :
    compileTree? caseInsensitive 0 tree.anchored =
      (compileTree? caseInsensitive 2 tree).map Expr.whole := by
  unfold compileTree?
  rw [depth_anchored, Nat.add_zero]
  split_ifs
  · -- The group sets no flags, and so the pattern is resolved with the flags of the ends.
    have flags : Flags.apply { caseInsensitive := caseInsensitive } [] =
        { caseInsensitive := caseInsensitive } := rfl
    simp only [Node.anchored, Node.resolve?, Node.resolveAll?, flags]
    cases tree.resolve? { caseInsensitive := caseInsensitive } <;> rfl
  · rfl

/-- The expression of a pattern for whole subjects is the expression of the pattern between
anchors. -/
theorem compileWhole?_eq
    {pattern : Text}
    {reading : Reading}
    (found : read? pattern = some reading)
    (caseInsensitive : Bool) :
    compileWhole? caseInsensitive pattern = compile? caseInsensitive (anchored pattern) := by
  simp only [compileWhole?, compile?, read?_anchored found, found, Reading.anchored?]
  split_ifs with comment
  · rfl
  · simp only [compileTree?_anchored]
    cases compileTree? caseInsensitive 2 reading.tree <;> rfl

/-! ## Which patterns have a form for whole subjects -/

/-- A pattern is read, and ends inside a comment. -/
def EndsInComment (pattern : Text) : Prop :=
  ∃ reading, read? pattern = some reading ∧ reading.endsInComment = true

/-- A pattern that is within all limits stays within them between anchors. -/
def FitsAnchored (caseInsensitive : Bool) (pattern : Text) : Prop :=
  ∀ reading expr, read? pattern = some reading → compile? caseInsensitive pattern = some expr →
    reading.tree.depth + 2 ≤ depthLimit ∧ expr.whole.isAffordable = true

variable {caseInsensitive : Bool} {pattern : Text} {expr whole : Expr}

theorem affordable?_eq_some_iff :
    affordable? expr = some whole ↔ expr.isAffordable = true ∧ whole = expr := by
  unfold affordable?
  split_ifs with affordable
  · simp [affordable, eq_comm]
  · simp [affordable]

/-- Anchors cost something. -/
theorem Expr.isAffordable_of_whole (affordable : expr.whole.isAffordable = true) :
    expr.isAffordable = true := by
  simp only [Expr.isAffordable, Expr.whole, Expr.cost, decide_eq_true_eq] at affordable ⊢
  omega

theorem compileTree?_eq_some_iff {outerDepth : Nat} {tree : Node} :
    compileTree? caseInsensitive outerDepth tree = some expr ↔
      tree.depth + outerDepth ≤ depthLimit ∧
        ∃ flags, tree.resolve? { caseInsensitive := caseInsensitive } = some (expr, flags) := by
  unfold compileTree?
  split_ifs with shallow
  · simp [shallow]
  · simp [shallow]

theorem compile?_eq_some_iff :
    compile? caseInsensitive pattern = some expr ↔
      ∃ reading, read? pattern = some reading ∧
        compileTree? caseInsensitive 0 reading.tree = some expr ∧ expr.isAffordable = true := by
  unfold compile?
  cases read? pattern with
  | none => simp
  | some reading =>
      simp only [Option.bind_eq_some_iff, affordable?_eq_some_iff, Option.some.injEq,
        exists_eq_left']
      constructor
      · rintro ⟨_, compiled, affordable, rfl⟩
        exact ⟨compiled, affordable⟩
      · rintro ⟨compiled, affordable⟩
        exact ⟨expr, compiled, affordable, rfl⟩

/-- A pattern has a form for whole subjects exactly when it is valid on its own, ends outside of
comments and stays within the limits; the form is its own expression between the ends. -/
theorem compileWhole?_eq_some_iff :
    compileWhole? caseInsensitive pattern = some whole ↔
      ¬ EndsInComment pattern ∧ FitsAnchored caseInsensitive pattern ∧
        ∃ expr, compile? caseInsensitive pattern = some expr ∧ whole = expr.whole := by
  cases found : read? pattern with
  | none => simp [compileWhole?, compile?, found]
  | some reading =>
      have comment : EndsInComment pattern ↔ reading.endsInComment = true := by
        simp [EndsInComment, found]
      rw [compileWhole?, found, comment]
      dsimp only
      split_ifs with ends
      · simp [ends]
      simp only [Option.bind_eq_some_iff, affordable?_eq_some_iff, compileTree?_eq_some_iff]
      constructor
      · rintro ⟨body, ⟨shallow, flags, resolved⟩, affordable, rfl⟩
        have compiled : compile? caseInsensitive pattern = some body :=
          compile?_eq_some_iff.2 ⟨reading, found,
            compileTree?_eq_some_iff.2 ⟨by omega, flags, resolved⟩,
            Expr.isAffordable_of_whole affordable⟩
        refine ⟨ends, ?_, body, compiled, rfl⟩
        intro other expr same alone
        cases found.symm.trans same
        cases compiled.symm.trans alone
        exact ⟨shallow, affordable⟩
      · rintro ⟨_, fits, body, compiled, rfl⟩
        obtain ⟨shallow, affordable⟩ := fits reading body found compiled
        obtain ⟨other, same, tree, _⟩ := compile?_eq_some_iff.1 compiled
        cases found.symm.trans same
        obtain ⟨_, flags, resolved⟩ := compileTree?_eq_some_iff.1 tree
        exact ⟨body, ⟨shallow, flags, resolved⟩, affordable, rfl⟩

end Pattern
end PageCheck
