import PageCheck.Proofs.Pattern.Bounds
import PageCheck.Proofs.Suite.Building

/-!
# Patterns for whole subjects

A matcher with a pattern for whole subjects puts the pattern between anchors.  It accepts a
subject exactly when the pattern by itself matches all of it.  It can be built for the patterns
that can be looked for inside subjects, but for those that end in a comment.
-/

namespace PageCheck

open Results

namespace Matcher

variable {expected : Text} {mode : MatchMode} {modifiers : Modifiers} {matcher : Matcher}

/-! ## Building -/

/-- A matcher with a pattern is built when the pattern is valid on its own and has an expression
in its mode. -/
theorem build_eq_ok_iff_of_regexp (regexp : modifiers.regexp = true) :
    build expected mode modifiers = .ok matcher ↔
      (Pattern.compile? false expected).isSome = true ∧
        ∃ expr, compile? mode modifiers.caseInsensitive expected = some expr ∧
          matcher = ⟨expected, mode, modifiers.caseInsensitive, some expr⟩ := by
  rw [build, if_pos regexp]
  cases Pattern.compile? false expected with
  | none => simp
  | some alone =>
      cases compile? mode modifiers.caseInsensitive expected with
      | none => simp
      | some expr => simp [eq_comm]

/-- A matcher for whole subjects is built from its pattern alone and from the text of its pattern
between anchors: both have to be valid. -/
theorem build_exact_eq (regexp : modifiers.regexp = true) :
    build expected .exact modifiers =
      match Pattern.compile? false expected,
          Pattern.compile? modifiers.caseInsensitive (Pattern.anchored expected) with
      | some _, some whole => .ok ⟨expected, .exact, modifiers.caseInsensitive, some whole⟩
      | _, _ => .error (.invalidPattern expected) := by
  rw [build, if_pos regexp]
  cases alone : Pattern.compile? false expected with
  | none => rfl
  | some expr =>
      obtain ⟨reading, read, _⟩ := Pattern.compile?_eq_some_iff.1 alone
      have whole : compile? .exact modifiers.caseInsensitive expected =
          Pattern.compile? modifiers.caseInsensitive (Pattern.anchored expected) :=
        Pattern.compileWhole?_eq read modifiers.caseInsensitive
      cases compiled : Pattern.compile? modifiers.caseInsensitive (Pattern.anchored expected) with
      | none => simp only [whole, compiled]
      | some pattern => simp only [whole, compiled]

/-- Building a matcher fails only by calling its text an invalid pattern. -/
theorem build_failsWith :
    FailsWith (· = .invalidPattern expected) (build expected mode modifiers) := by
  unfold build
  split_ifs
  · split
    · exact .ok _
    · exact .error rfl
  · exact .ok _

/-- A matcher for whole subjects can be built exactly when one for parts can, but for patterns
that end in a comment or leave the limits between anchors. -/
theorem exists_build_exact_iff :
    (∃ matcher, build expected .exact modifiers = .ok matcher) ↔
      (∃ matcher, build expected .substring modifiers = .ok matcher) ∧
        (modifiers.regexp = true →
          ¬ Pattern.EndsInComment expected ∧
            Pattern.FitsAnchored modifiers.caseInsensitive expected) := by
  cases regexp : modifiers.regexp with
  | false => simp [build, regexp]
  | true =>
      simp only [build_eq_ok_iff_of_regexp regexp, compile?, Pattern.compileWhole?_eq_some_iff]
      constructor
      · rintro ⟨_, valid, _, ⟨outside, fits, alone, compiled, _⟩, _⟩
        exact ⟨⟨_, valid, alone, compiled, rfl⟩, fun _ => ⟨outside, fits⟩⟩
      · rintro ⟨⟨_, valid, alone, compiled, _⟩, conditions⟩
        obtain ⟨outside, fits⟩ := conditions trivial
        exact ⟨_, valid, _, ⟨outside, fits, alone, compiled, rfl⟩, rfl⟩

/-! ## Parts of subjects -/

/-- A matcher for parts accepts a subject exactly when the pattern matches some word of it. -/
theorem accepts_iff_exists_matches
    (regexp : modifiers.regexp = true)
    (built : build expected .substring modifiers = .ok matcher) :
    ∃ alone, Pattern.compile? modifiers.caseInsensitive expected = some alone ∧
      ∀ subject, matcher.accepts subject = true ↔
        ∃ before word after, subject = before ++ word ++ after ∧
          Pattern.Matches alone before word after := by
  obtain ⟨_, alone, compiled, rfl⟩ := (build_eq_ok_iff_of_regexp regexp).1 built
  exact ⟨alone, compiled, fun _ => Pattern.Expr.occursIn_iff (Pattern.compile?_inOrder compiled)⟩

/-! ## Whole subjects -/

/-- A matcher for whole subjects holds the expression of its pattern between anchors, and accepts
a subject exactly when the pattern by itself matches the subject from its start to its end. -/
theorem accepts_iff_matches
    (regexp : modifiers.regexp = true)
    (built : build expected .exact modifiers = .ok matcher) :
    ∃ alone, Pattern.compile? modifiers.caseInsensitive expected = some alone ∧
      matcher.pattern =
        Pattern.compile? modifiers.caseInsensitive (Pattern.anchored expected) ∧
      ∀ subject, matcher.accepts subject = true ↔ Pattern.Matches alone [] subject [] := by
  obtain ⟨_, whole, compiled, rfl⟩ := (build_eq_ok_iff_of_regexp regexp).1 built
  obtain ⟨_, _, alone, own, rfl⟩ := Pattern.compileWhole?_eq_some_iff.1 compiled
  obtain ⟨reading, read, _⟩ := Pattern.compile?_eq_some_iff.1 own
  refine ⟨alone, own, ?_, ?_⟩
  · rw [← Pattern.compileWhole?_eq read]
    exact compiled.symm
  · intro subject
    have ordered : alone.whole.InOrder := ⟨trivial, Pattern.compile?_inOrder own, trivial⟩
    simp only [accepts, Pattern.Expr.occursIn_iff ordered, Pattern.Expr.matches_whole_iff]
    constructor
    · rintro ⟨_, word, _, rfl, rfl, rfl, found⟩
      simpa using found
    · intro found
      exact ⟨[], subject, [], by simp, rfl, rfl, found⟩

/-- A pattern of two branches with an anchor of its own, which matches lines. -/
theorem accepts_iff_matches_lines :
    ∃ matcher, build "(?m)a$|b" .exact (.only .regexp) = .ok matcher ∧
      matcher.accepts "b" = true ∧ matcher.accepts "a\n" = false ∧
      ∃ alone, Pattern.compile? false "(?m)a$|b" = some alone ∧
        matcher.pattern = Pattern.compile? false (Pattern.anchored "(?m)a$|b") ∧
        ∀ subject, matcher.accepts subject = true ↔ Pattern.Matches alone [] subject [] :=
  ⟨_, rfl, by decide, by decide, @accepts_iff_matches "(?m)a$|b" (.only .regexp) _ rfl rfl⟩

end Matcher

namespace Assertion

/-! ## The same patterns for parts and for whole bodies -/

variable {location : Location} {expected : Text} {modifiers : Modifiers}

/-- Checks of bodies allow every modifier. -/
theorem build_of_allowed
    {check : Check}
    (allowed : check.allowed = .all)
    (location : Location)
    (modifiers : Modifiers) :
    build location check modifiers = .ok ⟨location, modifiers, check⟩ := by
  refine build_eq_ok_iff.2 ⟨?_, rfl⟩
  intro modifier _
  rw [allowed]
  cases modifier <;> rfl

theorem contains_eq :
    contains location expected modifiers =
      (Matcher.build expected .substring modifiers).map fun matcher =>
        ⟨location, modifiers, .contains matcher⟩ := by
  unfold contains
  cases Matcher.build expected .substring modifiers with
  | error error => rfl
  | ok matcher => exact build_of_allowed rfl location modifiers

theorem equals_eq :
    equals location expected modifiers =
      (Matcher.build expected .exact modifiers).map fun matcher =>
        ⟨location, modifiers, .equals matcher⟩ := by
  unfold equals
  cases Matcher.build expected .exact modifiers with
  | error error => rfl
  | ok matcher => exact build_of_allowed rfl location modifiers

/-- A body can be compared with a text exactly when it can be searched for the text, but for
patterns that end in a comment or leave the limits between anchors.  Either fails only by calling
the text an invalid pattern. -/
theorem exists_equals_iff_exists_contains
    (location : Location)
    (expected : Text)
    (modifiers : Modifiers) :
    ((∃ assertion, equals location expected modifiers = .ok assertion) ↔
      (∃ assertion, contains location expected modifiers = .ok assertion) ∧
        (modifiers.regexp = true →
          ¬ Pattern.EndsInComment expected ∧
            Pattern.FitsAnchored modifiers.caseInsensitive expected)) ∧
      FailsWith (· = .invalidPattern expected) (equals location expected modifiers) ∧
      FailsWith (· = .invalidPattern expected) (contains location expected modifiers) := by
  rw [equals_eq, contains_eq]
  refine ⟨?_, ?_, ?_⟩
  · simp only [map_eq_ok_iff, exists_comm, exists_and_left, exists_eq', and_true]
    exact Matcher.exists_build_exact_iff
  · exact Matcher.build_failsWith.map _
  · exact Matcher.build_failsWith.map _

/-- A comment that is open at the end of a pattern keeps a body from being compared with the
pattern, but not from being searched for it. -/
theorem not_exists_equals_of_open_comment :
    (∃ assertion, contains ⟨"test.webunit", 1⟩ "(?x)a # c" (.only .regexp) = .ok assertion) ∧
      equals ⟨"test.webunit", 1⟩ "(?x)a # c" (.only .regexp) =
        .error (.invalidPattern "(?x)a # c") :=
  ⟨⟨_, rfl⟩, rfl⟩

end Assertion
end PageCheck
