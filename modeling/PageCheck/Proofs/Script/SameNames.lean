import PageCheck.Proofs.Script.Failures
import PageCheck.Proofs.Script.WrittenLines

/-!
# Errors about the form of a line

The form of a line is settled before any variable is looked up, and then its variables are
looked up from left to right.  Two runs of a line with other values for the same variables
are therefore refused with the same errors, as far as these are not about the values.
Header lines are left out, where a value decides how many tokens are arguments.
-/

namespace PageCheck

open Results

/-! ## Variables with the same names -/

/-- Two scopes give values to the same names. -/
def Variables.SameNames (scope other : Variables) : Prop :=
  ∀ name, scope.has name = other.has name

theorem Variables.SameNames.symm
    {scope other : Variables}
    (same : scope.SameNames other) :
    other.SameNames scope :=
  fun name => (same name).symm

namespace Value

variable {scope other : Variables}

theorem Part.isSome_value?_eq
    (same : scope.SameNames other)
    (part : Part) :
    (part.value? scope).isSome = (part.value? other).isSome := by
  cases part with
  | copied c => rfl
  | reference name => exact same name

/-- The first variable without a value depends on the names only. -/
theorem Fills.error_of_sameNames
    {parts : List Part}
    {error : ValueError}
    (same : scope.SameNames other)
    (fills : Fills scope parts (.error error)) :
    Fills other parts (.error error) := by
  cases fills with
  | @missing _ _ name defined undefined =>
      refine .missing ?_ ?_
      · intro part inside
        rw [← part.isSome_value?_eq same]
        exact defined part inside
      · have absent : other.has name = false := by
          rw [← same name, Variables.has, undefined]
          rfl
        exact Option.isNone_iff_eq_none.1 (Option.isSome_eq_false_iff.1 absent)

theorem substitute_failTogether
    (same : scope.SameNames other)
    (text : Text) :
    FailTogether (substitute scope text) (substitute other text) := by
  intro error
  obtain ⟨parts, scans⟩ := exists_scans text
  rw [scans.substitute_eq_iff, scans.substitute_eq_iff]
  exact ⟨Fills.error_of_sameNames same, Fills.error_of_sameNames same.symm⟩

theorem resolve_failTogether
    (same : scope.SameNames other)
    (raw : Text) :
    FailTogether (resolve scope raw) (resolve other raw) := by
  rw [resolve, resolve]
  split
  · exact substitute_failTogether same _
  · exact fun _ => Iff.rfl

end Value

/-! ## Errors about the form of a line -/

/-- An error about the form of a line, that is, neither about a text that a line asks for
nor about a rule of what it builds. -/
def LineError.AboutForm (cause : LineError) : Prop :=
  cause.kind ∈ [.syntaxError, .extraArgument, .duplicateModifier, .invalidVariable,
    .missingVariable] ∨
  ∃ name command, cause = .argumentMissing name command

theorem LineError.AboutEffect.not_aboutForm
    {cause : LineError}
    (about : cause.AboutEffect) :
    ¬ cause.AboutForm := by
  rintro (kind | ⟨_, _, rfl⟩)
  · cases about with
    | url text error => simp [LineError.kind] at kind
    | build error => cases error <;> simp [LineError.kind, LineError.kindOfBuildError] at kind
  · cases about

namespace Statement

variable {scope other : Variables} {command : Command}

theorem value_failTogether
    (same : scope.SameNames other)
    (token : Token) :
    FailTogether (value scope token) (value other token) :=
  (Value.resolve_failTogether same token.raw).mapError LineError.ofValueError

/-- Where one text and signs of modifiers are read, the text has no part in errors about
the form. -/
theorem readText_failAlike
    {build : Text → Except LineError Expectation}
    (same : scope.SameNames other)
    (built : ∀ text, FailsWith (fun cause => ¬ cause.AboutForm) (build text))
    (name : Text)
    (arguments : List Token) :
    let readText (scope : Variables) : Except LineError Statement := do
      let (argument, extra) <- takeArgument command name arguments
      let modifiers <- readModifiers command .none extra
      let text <- value scope argument
      let expectation <- build text
      return expect expectation modifiers
    FailAlike LineError.AboutForm (readText scope) (readText other) := by
  refine .bind_left (takeArgument command name arguments) ?_
  rintro ⟨argument, extra⟩ _
  -- The modifiers are settled before the text is looked up, whose value may differ.
  refine .bind_left (readModifiers command .none extra) fun modifiers _ => ?_
  refine (value_failTogether same argument).bind fun text otherText _ _ => ?_
  exact failAlike_of_failsWith (.bind (built text) fun _ _ => .ok _)
    (.bind (built otherText) fun _ _ => .ok _)

theorem readStatusCode_not_aboutForm (text : Text) :
    FailsWith (fun cause => ¬ cause.AboutForm) (readStatusCode text) := by
  intro cause failed
  obtain ⟨_, _, rfl⟩ := mapError_eq_error_iff.1 failed
  rintro (kind | ⟨_, _, ⟨⟩⟩)
  simp [LineError.kind] at kind

theorem readExpectation_failAlike
    {kind : AssertionCommand}
    (same : scope.SameNames other)
    (noHeader : kind ≠ .header)
    (arguments : List Token) :
    FailAlike LineError.AboutForm (readExpectation scope kind arguments)
      (readExpectation other kind arguments) := by
  cases kind with
  | statusCode =>
      exact readText_failAlike same (fun text => (readStatusCode_not_aboutForm text).map _)
        "status code" arguments
  | contains | containsNot | equals =>
      exact readText_failAlike same (fun _ => .ok _) "text" arguments
  | empty => exact .refl _
  | header => exact absurd rfl noHeader

/-- Where two texts are read, they have no part in errors about the form. -/
theorem readTwo_failAlike
    {build : Text → Text → Change}
    (same : scope.SameNames other)
    (first second : Text)
    (arguments : List Token) :
    let readTwo (scope : Variables) : Except LineError Statement := do
      let (nameToken, rest) <- takeArgument command first arguments
      let (valueToken, extra) <- takeArgument command second rest
      rejectExtra command extra
      let name <- value scope nameToken
      let text <- value scope valueToken
      return change (build name text)
    FailAlike LineError.AboutForm (readTwo scope) (readTwo other) := by
  refine .bind_left (takeArgument command first arguments) ?_
  rintro ⟨nameToken, rest⟩ _
  refine .bind_left (takeArgument command second rest) ?_
  rintro ⟨valueToken, extra⟩ _
  refine .bind_left (rejectExtra command extra) fun _ _ => ?_
  refine (value_failTogether same nameToken).bind fun _ _ _ _ => ?_
  refine (value_failTogether same valueToken).bind fun _ _ _ _ => ?_
  exact failAlike_of_failsWith (.ok _) (.ok _)

theorem readChange_failAlike
    {kind : ModifierCommand}
    (same : scope.SameNames other)
    (noHeader : kind ≠ .header)
    (arguments : List Token) :
    FailAlike LineError.AboutForm (readChange scope kind arguments)
      (readChange other kind arguments) := by
  cases kind with
  | header => exact absurd rfl noHeader
  | parameter | file => exact readTwo_failAlike same _ _ arguments
  | raw =>
      refine .bind_left (takeArgument _ "content" arguments) ?_
      rintro ⟨argument, extra⟩ _
      refine .bind_left (rejectExtra _ extra) fun _ _ => ?_
      refine (value_failTogether same argument).bind fun _ _ _ _ => ?_
      exact failAlike_of_failsWith (.ok _) (.ok _)

theorem readOnly_failAlike
    (same : scope.SameNames other)
    (name text : Text) :
    FailAlike LineError.AboutForm (readOnly scope command name text)
      (readOnly other command name text) := by
  refine .bind_left (tokens text) fun arguments _ => ?_
  refine .bind_left (takeArgument command name arguments) ?_
  rintro ⟨argument, extra⟩ _
  refine .bind_left (rejectExtra command extra) fun _ _ => ?_
  exact (value_failTogether same argument).failAlike

theorem readAssignment_failAlike
    (same : scope.SameNames other)
    (text : Text) :
    FailAlike LineError.AboutForm (readAssignment scope command text)
      (readAssignment other command text) := by
  rw [readAssignment, readAssignment]
  split
  · exact .error _
  · dsimp only
    split
    · exact (readOnly_failAlike same "value" _).map _ _
    · exact .error _

theorem read_failAlike
    (same : scope.SameNames other)
    (noAssertion : command ≠ .assertion .header)
    (noModifier : command ≠ .modifier .header)
    (rest : Text) :
    FailAlike LineError.AboutForm (read scope command rest) (read other command rest) := by
  cases command with
  | request method => exact (readOnly_failAlike same "URL" rest).map _ _
  | set | setDefault => exact (readAssignment_failAlike same rest).map _ _
  | assertion kind =>
      have noHeader : kind ≠ .header := fun header => noAssertion (congrArg _ header)
      exact .bind_left (tokens rest) fun arguments _ =>
        readExpectation_failAlike same noHeader arguments
  | modifier kind =>
      have noHeader : kind ≠ .header := fun header => noModifier (congrArg _ header)
      exact .bind_left (tokens rest) fun arguments _ =>
        readChange_failAlike same noHeader arguments

end Statement

/-! ## Lines -/

theorem Command.ne_of_ofKeyword?
    {word : Text}
    {command other : Command}
    (known : ofKeyword? word = some command)
    (different : word ≠ other.keyword) :
    command ≠ other := by
  rintro rfl
  exact different (ofKeyword?_eq_some_iff.1 known).symm

/-- Errors about the form of a line are the same for all values of the variables. -/
theorem Reader.accept_failAlike
    {files : FileSystem}
    {location : Location}
    {reader : Reader}
    {line : Text}
    {scope other : Variables}
    (noAssertion : Text.firstWord line ≠ (Command.assertion .header).keyword)
    (noModifier : Text.firstWord line ≠ (Command.modifier .header).keyword)
    (same : scope.SameNames other) :
    FailAlike LineError.AboutForm
      (Reader.accept files { reader with scope } location line)
      (Reader.accept files { reader with scope := other } location line) := by
  have besides : ∀ {α : Type} {result : Except LineError α},
      FailsWith LineError.AboutEffect result →
      FailsWith (fun cause => ¬ cause.AboutForm) result :=
    fun fails => fails.mono fun _ about => about.not_aboutForm
  refine .bind ?_ (fun effect => besides (Reader.apply_failsWith _ location effect))
    (fun effect => besides (Reader.apply_failsWith _ location effect))
  simp only [Reader.lineEffect]
  split
  · exact .error _
  · next command known =>
      split
      · exact .error _
      · exact (Statement.read_failAlike same (Command.ne_of_ofKeyword? known noAssertion)
          (Command.ne_of_ofKeyword? known noModifier) _).bind
          (fun statement => besides (statement.effect_failsWith files location))
          (fun statement => besides (statement.effect_failsWith files location))

end PageCheck
