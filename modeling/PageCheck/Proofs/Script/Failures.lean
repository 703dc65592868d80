import PageCheck.Proofs.Script.Quotes
import PageCheck.Proofs.Script.References

/-!
# What lines fail with

A token that is found in a text has a value as soon as the variables that it refers to
have one: a fault in quotes shows when a line is taken apart into tokens, or there is none.
The syntax of a line is therefore right or wrong as it is written, whatever the variables
are.
-/

namespace PageCheck

open Results

/-! ## Values -/

/-- Only a variable can be missing when values are put in the place of references. -/
theorem Value.substitute_failsWith
    (scope : Variables)
    (text : Text) :
    FailsWith (fun error => ∃ name, error = .missingVariable name)
      (substitute scope text) := by
  obtain ⟨parts, scans⟩ := exists_scans text
  have fills : Fills scope parts (substitute scope text) := scans.fills
  intro error failed
  rw [failed] at fills
  cases fills with
  | missing _ _ => exact ⟨_, rfl⟩

namespace Statement

variable {scope : Variables} {command : Command}

/-- Looking up the value of a token that can be written fails for want of a variable
only. -/
theorem value_failsWith
    {token : Token}
    (wellFormed : token.WellFormed)
    (scope : Variables) :
    FailsWith (fun cause => ∃ name, cause = .variableMissing name) (value scope token) := by
  obtain ⟨text, stands⟩ := wellFormed.exists_standsFor
  intro cause failed
  rw [value, stands.resolve_eq wellFormed] at failed
  obtain ⟨error, missing, rfl⟩ := mapError_eq_error_iff.1 failed
  obtain ⟨name, rfl⟩ := Value.substitute_failsWith scope text error missing
  exact ⟨name, rfl⟩

/-! ## Arguments

Behind tokenizing, nothing that a line fails with is about syntax. -/

/-- Whatever the result fails with is not about syntax. -/
abbrev BesidesSyntax {α : Type} (result : Except LineError α) : Prop :=
  FailsWith (fun cause => cause.kind ≠ .syntaxError) result

theorem value_besidesSyntax
    {token : Token}
    (wellFormed : token.WellFormed) :
    BesidesSyntax (value scope token) :=
  (value_failsWith wellFormed scope).mono fun _ ⟨_, same⟩ => by simp [same, LineError.kind]

/-- What follows taking an argument is about a token that can be written and others that
can be. -/
theorem takeArgument_bind_besidesSyntax
    {α : Type}
    {arguments : List Token}
    {next : Token × List Token → Except LineError α}
    (written : ∀ token ∈ arguments, token.WellFormed)
    (name : Text)
    (later : ∀ argument rest, argument.WellFormed → (∀ token ∈ rest, token.WellFormed) →
      BesidesSyntax (next (argument, rest))) :
    BesidesSyntax ((takeArgument command name arguments).bind next) := by
  cases arguments with
  | nil => exact .error (by simp [LineError.kind])
  | cons token rest =>
      rw [List.forall_mem_cons] at written
      exact later token rest written.1 written.2

theorem rejectExtra_besidesSyntax
    (arguments : List Token) :
    BesidesSyntax (rejectExtra command arguments) := by
  cases arguments with
  | nil => exact .ok _
  | cons token rest => exact .error (by simp [LineError.kind])

theorem readModifiers_besidesSyntax
    (seen : Modifiers)
    (arguments : List Token) :
    BesidesSyntax (readModifiers command seen arguments) := by
  induction arguments generalizing seen with
  | nil => exact .ok _
  | cons token rest hypothesis =>
      rw [readModifiers]
      split
      · exact .error (by simp [LineError.kind])
      · split
        · exact .error (by simp [LineError.kind])
        · exact hypothesis _

theorem readHeader_besidesSyntax
    {first : Token}
    {rest : List Token}
    (firstWritten : first.WellFormed)
    (written : ∀ token ∈ rest, token.WellFormed)
    (allowsModifiers : Bool) :
    BesidesSyntax (readHeader scope allowsModifiers first rest) := by
  refine .bind (value_besidesSyntax firstWritten) ?_
  intro header _
  cases rest with
  | nil => exact .ok _
  | cons second behind =>
      dsimp only
      split
      · exact .bind (value_besidesSyntax (written second List.mem_cons_self)) fun _ _ => .ok _
      · exact .ok _

theorem readStatusCode_besidesSyntax
    (text : Text) :
    BesidesSyntax (readStatusCode text) := by
  intro cause failed
  obtain ⟨_, _, rfl⟩ := mapError_eq_error_iff.1 failed
  simp [LineError.kind]

/-- Where one text and signs of modifiers are read, no error is about syntax. -/
theorem readText_besidesSyntax
    {arguments : List Token}
    {build : Text → Except LineError Expectation}
    (written : ∀ token ∈ arguments, token.WellFormed)
    (built : ∀ text, BesidesSyntax (build text))
    (name : Text) :
    BesidesSyntax (do
      let (argument, extra) <- takeArgument command name arguments
      let modifiers <- readModifiers command .none extra
      let text <- value scope argument
      let expectation <- build text
      return expect expectation modifiers) := by
  refine takeArgument_bind_besidesSyntax written name fun argument extra first _ => ?_
  refine .bind (readModifiers_besidesSyntax .none extra) fun modifiers _ => ?_
  refine .bind (value_besidesSyntax first) fun text _ => ?_
  exact .bind (built text) fun _ _ => .ok _

theorem readExpectation_besidesSyntax
    {kind : AssertionCommand}
    {arguments : List Token}
    (written : ∀ token ∈ arguments, token.WellFormed) :
    BesidesSyntax (readExpectation scope kind arguments) := by
  cases kind with
  | statusCode =>
      exact readText_besidesSyntax written
        (fun text => (readStatusCode_besidesSyntax text).map _) "status code"
  | contains | containsNot | equals =>
      exact readText_besidesSyntax written (fun _ => .ok _) "text"
  | empty => exact .bind (readModifiers_besidesSyntax .none arguments) fun _ _ => .ok _
  | header =>
      refine takeArgument_bind_besidesSyntax written "header" fun _ extra first others => ?_
      refine .bind (readHeader_besidesSyntax first others true) fun _ _ => ?_
      exact .bind (readModifiers_besidesSyntax .none _) fun _ _ => .ok _

/-- Where two texts are read, no error is about syntax. -/
theorem readTwo_besidesSyntax
    {arguments : List Token}
    {build : Text → Text → Change}
    (written : ∀ token ∈ arguments, token.WellFormed)
    (first second : Text) :
    BesidesSyntax (do
      let (nameToken, rest) <- takeArgument command first arguments
      let (valueToken, extra) <- takeArgument command second rest
      rejectExtra command extra
      let name <- value scope nameToken
      let text <- value scope valueToken
      return change (build name text)) := by
  refine takeArgument_bind_besidesSyntax written first fun nameToken rest named others => ?_
  refine takeArgument_bind_besidesSyntax others second fun valueToken extra valued _ => ?_
  refine .bind (rejectExtra_besidesSyntax extra) fun _ _ => ?_
  refine .bind (value_besidesSyntax named) fun _ _ => ?_
  exact .bind (value_besidesSyntax valued) fun _ _ => .ok _

theorem readChange_besidesSyntax
    {kind : ModifierCommand}
    {arguments : List Token}
    (written : ∀ token ∈ arguments, token.WellFormed) :
    BesidesSyntax (readChange scope kind arguments) := by
  cases kind with
  | header =>
      refine takeArgument_bind_besidesSyntax written "header" fun _ extra first others => ?_
      refine .bind (readHeader_besidesSyntax first others false) fun _ _ => ?_
      exact .bind (rejectExtra_besidesSyntax _) fun _ _ => .ok _
  | parameter | file => exact readTwo_besidesSyntax written _ _
  | raw =>
      refine takeArgument_bind_besidesSyntax written "content" fun argument extra first _ => ?_
      refine .bind (rejectExtra_besidesSyntax extra) fun _ _ => ?_
      exact .bind (value_besidesSyntax first) fun _ _ => .ok _

/-! ## Syntax of arguments -/

/-- If what is done with tokens does not fail for syntax, then a text fails for its syntax
exactly if it does not fall into tokens. -/
theorem tokens_bind_syntaxError_iff
    {α : Type}
    {text : Text}
    {next : List Token → Except LineError α}
    {cause : LineError}
    (later : ∀ arguments : List Token, (∀ token ∈ arguments, token.WellFormed) →
      BesidesSyntax (next arguments)) :
    (tokens text).bind next = .error cause ∧ cause.kind = .syntaxError ↔
      ∃ error, tokenize text = .error error ∧ cause = .token error := by
  constructor
  · rintro ⟨failed, wrong⟩
    rcases bind_eq_error_iff.1 failed with tokenized | ⟨arguments, tokenized, failedLater⟩
    · obtain ⟨error, untokenized, rfl⟩ := mapError_eq_error_iff.1 tokenized
      exact ⟨error, untokenized, rfl⟩
    · have written := Layout.wellFormed_of_tokenize (tokens_eq_ok_iff.1 tokenized)
      exact absurd wrong (later arguments written cause failedLater)
  · rintro ⟨error, untokenized, rfl⟩
    rw [tokens, untokenized]
    exact ⟨rfl, rfl⟩

theorem readOnly_syntaxError_iff
    {name text : Text}
    {cause : LineError} :
    readOnly scope command name text = .error cause ∧ cause.kind = .syntaxError ↔
      ∃ error, tokenize text = .error error ∧ cause = .token error := by
  refine tokens_bind_syntaxError_iff fun arguments written => ?_
  refine takeArgument_bind_besidesSyntax written name fun argument extra first _ => ?_
  exact .bind (rejectExtra_besidesSyntax extra) fun _ _ => value_besidesSyntax first

/-- What is wrong with the syntax of what follows a keyword: there is no equals sign where
one is needed, or the arguments do not fall into tokens. -/
inductive BadSyntax : Command → Text → LineError → Prop
  | equalsMissing
      {command : Command} {rest : Text}
      (setting : command = .set ∨ command = .setDefault)
      (absent : '=' ∉ rest) :
      BadSyntax command rest (.equalsMissing command)
  | value
      {command : Command} {front back : Text} {error : TokenError}
      (setting : command = .set ∨ command = .setDefault)
      (first : '=' ∉ front)
      (named : Variables.isName (Text.trim front) = true)
      (failed : tokenize back = .error error) :
      BadSyntax command (front ++ '=' :: back) (.token error)
  | arguments
      {command : Command} {rest : Text} {error : TokenError}
      (other : command ≠ .set ∧ command ≠ .setDefault)
      (failed : tokenize rest = .error error) :
      BadSyntax command rest (.token error)

/-- Where all of what follows a keyword is made of tokens, its syntax is wrong exactly if
it does not fall into tokens. -/
theorem badSyntax_arguments_iff
    {rest : Text}
    {cause : LineError}
    (other : command ≠ .set ∧ command ≠ .setDefault) :
    BadSyntax command rest cause ↔
      ∃ error, tokenize rest = .error error ∧ cause = .token error := by
  constructor
  · intro bad
    cases bad with
    | equalsMissing setting _ => exact absurd setting (not_or.2 other)
    | value setting _ _ _ => exact absurd setting (not_or.2 other)
    | arguments _ failed => exact ⟨_, failed, rfl⟩
  · rintro ⟨error, failed, rfl⟩
    exact .arguments other failed

/-- Setting a variable fails for its syntax exactly if that is wrong. -/
theorem readAssignment_syntaxError_iff
    {rest : Text}
    {cause : LineError}
    (setting : command = .set ∨ command = .setDefault) :
    readAssignment scope command rest = .error cause ∧ cause.kind = .syntaxError ↔
      BadSyntax command rest cause := by
  constructor
  · rintro ⟨failed, wrong⟩
    rw [readAssignment] at failed
    split at failed
    · next split =>
        cases failed
        exact .equalsMissing setting (Text.splitFirst?_eq_none_iff.1 split)
    · next front back split =>
        obtain ⟨rfl, first⟩ := Text.splitFirst?_eq_some_iff.1 split
        simp only at failed
        split at failed
        · next named =>
            obtain ⟨error, untokenized, rfl⟩ :=
              readOnly_syntaxError_iff.1 ⟨map_eq_error_iff.1 failed, wrong⟩
            exact .value setting first named untokenized
        · cases failed
          cases wrong
  · intro bad
    cases bad with
    | equalsMissing _ absent =>
        rw [readAssignment, Text.splitFirst?_eq_none_iff.2 absent]
        exact ⟨rfl, rfl⟩
    | value _ first named untokenized =>
        rw [readAssignment, Text.splitFirst?_eq_some_iff.2 ⟨rfl, first⟩]
        simp only [named, if_true, map_eq_error_iff]
        exact readOnly_syntaxError_iff.2 ⟨_, untokenized, rfl⟩
    | arguments other _ => exact absurd setting (not_or.2 other)

/-- Reading fails for the syntax of what follows a keyword exactly if that is wrong,
whatever the variables are. -/
theorem read_syntaxError_iff
    {rest : Text}
    {cause : LineError}
    (scope : Variables)
    (command : Command) :
    read scope command rest = .error cause ∧ cause.kind = .syntaxError ↔
      BadSyntax command rest cause := by
  cases command with
  | set =>
      rw [← @readAssignment_syntaxError_iff scope _ _ _ (.inl rfl), read, map_eq_error_iff]
  | setDefault =>
      rw [← @readAssignment_syntaxError_iff scope _ _ _ (.inr rfl), read, map_eq_error_iff]
  | request method =>
      rw [@badSyntax_arguments_iff (.request method) _ _ (by simp), read, map_eq_error_iff]
      exact readOnly_syntaxError_iff
  | assertion kind =>
      rw [@badSyntax_arguments_iff (.assertion kind) _ _ (by simp)]
      exact tokens_bind_syntaxError_iff fun _ written => readExpectation_besidesSyntax written
  | modifier kind =>
      rw [@badSyntax_arguments_iff (.modifier kind) _ _ (by simp)]
      exact tokens_bind_syntaxError_iff fun _ written => readChange_besidesSyntax written

end Statement

/-! ## Effects -/

/-- An error about what a line that has been read asks for: its URL, or a rule of what it
builds. -/
inductive LineError.AboutEffect : LineError → Prop
  | url (text : Text) (error : Url.Error) : AboutEffect (.urlInvalid text error)
  | build (error : BuildError) : AboutEffect (.build error)

theorem LineError.AboutEffect.kind_ne_syntaxError
    {cause : LineError}
    (about : cause.AboutEffect) :
    cause.kind ≠ .syntaxError := by
  cases about with
  | url text error => simp [LineError.kind]
  | build error => cases error <;> simp [LineError.kind, LineError.kindOfBuildError]

theorem Statement.effect_failsWith
    (files : FileSystem)
    (location : Location)
    (statement : Statement) :
    FailsWith LineError.AboutEffect (statement.effect files location) := by
  intro cause failed
  cases statement with
  | request method address =>
      rw [effect] at failed
      split at failed <;> cases failed
      exact .url _ _
  | set name value => cases failed
  | setDefault name value => cases failed
  | expect expectation modifiers =>
      obtain ⟨_, _, rfl⟩ := mapError_eq_error_iff.1 failed
      exact .build _
  | change wanted =>
      obtain ⟨_, _, rfl⟩ := mapError_eq_error_iff.1 failed
      exact .build _

namespace Reader

theorem apply_failsWith
    (reader : Reader)
    (location : Location)
    (effect : Effect) :
    FailsWith LineError.AboutEffect (reader.apply location effect) := by
  intro cause failed
  cases effect with
  | openCase method url => cases failed
  | set name value => cases failed
  | setDefault name value => cases failed
  | addAssertion assertion =>
      rw [apply] at failed
      split at failed <;> cases failed
  | addModifier modifier =>
      rw [apply] at failed
      split at failed
      · split at failed <;> cases failed
        exact .build _
      · cases failed

/-! ## Syntax of lines -/

/-- What is wrong with the syntax of a line: its command is unknown, a request has to come
first, or the syntax of what follows the keyword is wrong.  Variables have no part in it. -/
inductive BadLine (current : Current) (line : Text) : LineError → Prop
  | unknown
      (unknown : Command.ofKeyword? (splitKeyword line).1 = none) :
      BadLine current line (.unknownCommand (splitKeyword line).1)
  | requestMissing
      {command : Command}
      (known : Command.ofKeyword? (splitKeyword line).1 = some command)
      (refused : (command.needsRequest && current.isMissing) = true) :
      BadLine current line (.requestMissing command)
  | statement
      {command : Command} {cause : LineError}
      (known : Command.ofKeyword? (splitKeyword line).1 = some command)
      (allowed : (command.needsRequest && current.isMissing) = false)
      (bad : Statement.BadSyntax command (splitKeyword line).2 cause) :
      BadLine current line cause

/-- A line is refused for its syntax exactly if that is wrong. -/
theorem accept_syntaxError_iff
    {files : FileSystem}
    {reader : Reader}
    {location : Location}
    {line : Text}
    {cause : LineError} :
    reader.accept files location line = .error cause ∧ cause.kind = .syntaxError ↔
      BadLine reader.current line cause := by
  have besides : ∀ {cause : LineError}, cause.AboutEffect → cause.kind ≠ .syntaxError :=
    LineError.AboutEffect.kind_ne_syntaxError
  constructor
  · rintro ⟨failed, wrong⟩
    rcases bind_eq_error_iff.1 failed with refused | ⟨effect, _, refused⟩
    · simp only [lineEffect] at refused
      split at refused
      · next unknown =>
          cases refused
          exact .unknown unknown
      · next command known =>
          split at refused
          · next guarded =>
              cases refused
              exact .requestMissing known guarded
          · next allowed =>
              rcases bind_eq_error_iff.1 refused with unread | ⟨statement, _, refused⟩
              · exact .statement known (Bool.eq_false_iff.2 allowed)
                  ((Statement.read_syntaxError_iff _ command).1 ⟨unread, wrong⟩)
              · exact absurd wrong (besides (statement.effect_failsWith _ _ _ refused))
    · exact absurd wrong (besides (reader.apply_failsWith location effect _ refused))
  · intro bad
    cases bad with
    | unknown unknown => simp [accept, lineEffect, unknown, Except.bind, LineError.kind]
    | requestMissing known refused =>
        simp [accept, lineEffect, known, refused, Except.bind, LineError.kind]
    | statement known allowed bad =>
        obtain ⟨unread, wrong⟩ := (Statement.read_syntaxError_iff reader.scope _).2 bad
        simp [accept, lineEffect, known, allowed, unread, wrong, Except.bind]

end Reader

/-- Tokens that are found have nothing to trim and can be taken out of their quotes, so that
only a variable can be missing from their values.  What is wrong with the syntax of a line
is therefore never found out by looking up a value. -/
theorem tokenize_unquotes :
    (∀ text tokens, tokenize text = .ok tokens → ∀ token ∈ tokens,
      Text.trim token.raw = token.raw ∧
      (∃ inner, token.StandsFor inner ∧ Value.unquote token.raw = .ok inner ∧
        ∀ scope, Value.resolve scope token.raw = Value.substitute scope inner) ∧
      (∀ scope, (∃ value, Value.resolve scope token.raw = .ok value) ∨
        ∃ name, Value.resolve scope token.raw = .error (.missingVariable name)) ∧
      ∀ scope cause, Statement.value scope token = .error cause →
        cause.kind = .missingVariable) ∧
    ∀ files location line cause, ∀ reader : Reader,
      reader.accept files location line = .error cause ∧ cause.kind = .syntaxError ↔
        Reader.BadLine reader.current line cause := by
  refine ⟨?_, fun _ _ _ _ _ => Reader.accept_syntaxError_iff⟩
  intro text tokens found token inside
  have wellFormed := Layout.wellFormed_of_tokenize found token inside
  obtain ⟨inner, stands⟩ := wellFormed.exists_standsFor
  have resolved := stands.resolve_eq wellFormed
  refine ⟨wellFormed.isTrimmed.trim_eq,
    ⟨inner, stands, stands.unquote_eq wellFormed, resolved⟩, ?_, ?_⟩
  · intro scope
    rw [resolved]
    cases outcome : Value.substitute scope inner with
    | ok value => exact .inl ⟨value, rfl⟩
    | error error =>
        obtain ⟨name, rfl⟩ := Value.substitute_failsWith scope inner error outcome
        exact .inr ⟨name, rfl⟩
  · intro scope cause failed
    obtain ⟨name, rfl⟩ := Statement.value_failsWith wellFormed scope cause failed
    rfl

/-- A reference between quotes is looked up, and only its variable can be missing; a quote
that is never closed is found before any value is looked up. -/
theorem tokenize_unquotes_reference :
    let token : Token := ⟨"\"\x7bA\x7d\\\"\"", true⟩
    let reader : Reader := { scope := ⟨[("A", "'")]⟩ }
    let files : FileSystem := (FileNode.directory []).toFileSystem []
    let line : Text := "set B = '\x7bC\x7d"
    let cause : LineError := .token (.unterminatedQuote "'\x7bC\x7d")
    tokenize "x \"\x7bA\x7d\\\"\"" = .ok [⟨"x", false⟩, token] ∧
    Value.resolve {} token.raw = .error (.missingVariable "A") ∧
    Text.trim token.raw = token.raw ∧
    (∃ inner, token.StandsFor inner ∧ Value.unquote token.raw = .ok inner ∧
      ∀ scope, Value.resolve scope token.raw = Value.substitute scope inner) ∧
    Reader.BadLine reader.current line cause ∧
    reader.accept files ⟨"t", 1⟩ line = .error cause ∧ cause.kind = .syntaxError := by
  intro token reader files line cause
  have found : tokenize "x \"\x7bA\x7d\\\"\"" = .ok [⟨"x", false⟩, token] := by decide +kernel
  have missing : Value.resolve {} token.raw = .error (.missingVariable "A") := by
    decide +kernel
  obtain ⟨trimmed, inner, -, -⟩ := tokenize_unquotes.1 _ _ found token (by decide)
  have untokenized : tokenize " '\x7bC\x7d" = .error (.unterminatedQuote "'\x7bC\x7d") := by
    decide +kernel
  have bad : Statement.BadSyntax .set "B = '\x7bC\x7d" cause :=
    @Statement.BadSyntax.value .set "B " _ _ (.inl rfl) (by decide) (by decide) untokenized
  have badLine : Reader.BadLine reader.current line cause :=
    @Reader.BadLine.statement _ line .set cause (by decide +kernel) rfl bad
  exact ⟨found, missing, trimmed, inner, badLine,
    (tokenize_unquotes.2 files ⟨"t", 1⟩ line cause reader).2 badLine⟩

end PageCheck
