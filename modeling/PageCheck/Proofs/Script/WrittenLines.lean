import PageCheck.Proofs.Script.Statements
import PageCheck.Proofs.Script.Steps

/-!
# Written lines and the steps over them

A line of a keyword and tokens that stand alone is split into that keyword and these
tokens again.  When the tokens render a statement, the step over the line applies the
effect of that statement, whatever the variables are.
-/

namespace PageCheck

open Results

/-! ## Keywords -/

namespace Command

/-- Every command is found by its keyword. -/
theorem ofKeyword?_keyword (command : Command) :
    ofKeyword? command.keyword = some command := by
  cases command with
  | request method => cases method <;> decide +kernel
  | assertion kind => cases kind <;> decide +kernel
  | modifier kind => cases kind <;> decide +kernel
  | set => decide +kernel
  | setDefault => decide +kernel

theorem ofKeyword?_eq_some_iff
    {command : Command}
    {keyword : Text} :
    ofKeyword? keyword = some command ↔ command.keyword = keyword := by
  constructor
  · intro known
    simpa using List.find?_some known
  · rintro rfl
    exact command.ofKeyword?_keyword

theorem keyword_ne_nil (command : Command) :
    command.keyword ≠ [] := by
  intro hollow
  have known := command.ofKeyword?_keyword
  rw [hollow] at known
  cases known

/-- A keyword has no blank. -/
theorem keyword_visible (command : Command) :
    ∀ c ∈ command.keyword, Text.isBlank c = false := by
  apply Text.visible_of_any_eq_false
  cases command with
  | request method => cases method <;> rfl
  | assertion kind => cases kind <;> rfl
  | modifier kind => cases kind <;> rfl
  | set => rfl
  | setDefault => rfl

/-- A line of a keyword and words has a blank in front of each word. -/
theorem write_eq (command : Command) (words : List Text) :
    command.write words = command.keyword ++ words.flatMap fun word => ' ' :: word :=
  Text.joinWith_cons command.keyword words

end Command

/-! ## Lines -/

section

variable {command : Command} {tokens : List Token}

/-- Words and a keyword make a line that is not blank and has no blank at its ends. -/
theorem Command.isTrimmed_write
    (alone : ∀ token ∈ tokens, token.StandsAlone) :
    Text.IsTrimmed (command.write (tokens.map Token.raw)) := by
  apply Text.isTrimmed_joinWith
  · rw [List.forall_mem_cons, List.forall_mem_map]
    exact ⟨command.keyword_ne_nil, fun token inside => (alone token inside).filled⟩
  · rw [List.forall_mem_cons, List.forall_mem_map]
    exact ⟨Text.isTrimmed_of_visible command.keyword_visible,
      fun token inside => (alone token inside).trimmed⟩

theorem Command.write_ne_nil
    (command : Command)
    (words : List Text) :
    command.write words ≠ [] := by
  rw [write_eq]
  intro hollow
  exact command.keyword_ne_nil (List.append_eq_nil_iff.1 hollow).1

/-- A line of a keyword and tokens is split behind the keyword. -/
theorem Reader.splitKeyword_write
    (alone : ∀ token ∈ tokens, token.StandsAlone) :
    splitKeyword (command.write (tokens.map Token.raw)) =
      (command.keyword, Text.joinWith [' '] (tokens.map Token.raw)) := by
  have visible := command.keyword_visible
  rw [splitKeyword, Command.write_eq]
  cases tokens with
  | nil =>
      rw [List.map_nil, List.flatMap_nil, List.append_nil, Text.firstWord_eq_self visible,
        Text.afterFirstWord_eq_nil visible]
      rfl
  | cons token tokens =>
      have blank : Text.isBlank ' ' = true := by decide
      have trimmed : Text.IsTrimmed (Text.joinWith [' '] ((token :: tokens).map Token.raw)) := by
        apply Text.isTrimmed_joinWith
        · rw [List.forall_mem_map]
          exact fun token inside => (alone token inside).filled
        · rw [List.forall_mem_map]
          exact fun token inside => (alone token inside).trimmed
      rw [List.map_cons, List.flatMap_cons, List.cons_append,
        Text.firstWord_append_cons visible blank, Text.afterFirstWord_append_cons visible blank,
        Text.trim_cons_of_isBlank blank, ← Text.joinWith_cons, ← List.map_cons,
        trimmed.trim_eq]

/-- A line of a keyword and tokens without line feeds is one line. -/
theorem Command.lineFeed_notMem_write
    (whole : ∀ token ∈ tokens, '\n' ∉ token.raw) :
    '\n' ∉ command.write (tokens.map Token.raw) := by
  rw [write_eq, List.mem_append, not_or]
  refine ⟨?_, ?_⟩
  · intro inside
    exact absurd (command.keyword_visible '\n' inside) (by decide)
  · rw [List.flatMap_map, List.mem_flatMap]
    rintro ⟨token, member, inside⟩
    rcases List.mem_cons.1 inside with blank | inToken
    · exact absurd blank (by decide)
    · exact whole token member inToken

end

/-! ## Tokens that render a statement -/

/-- A text that can be written as one argument: it has no line feed, and it refers to no
variable. -/
structure Text.IsPlain (text : Text) : Prop where
  whole : '\n' ∉ text
  literal : ¬ Value.HasReference text

/-- Escaping adds backslashes and nothing else. -/
theorem Quoted.lineFeed_notMem_write
    {text : Text}
    (whole : '\n' ∉ text) :
    '\n' ∉ write text := by
  have escaped : '\n' ∉ escape text := by
    rw [escape, List.mem_flatMap]
    rintro ⟨c, member, inside⟩
    have other : '\n' ≠ c := by
      rintro rfl
      exact whole member
    rw [escapeChar] at inside
    split at inside <;> simp [other] at inside
  simp [write, escaped]

/-- A text without a line feed and an opening brace is plain. -/
theorem Text.isPlain_of_notMem
    {text : Text}
    (absent : '\n' ∉ text ∧ '\x7b' ∉ text) :
    text.IsPlain :=
  ⟨absent.1, Value.not_hasReference_of_notMem absent.2⟩

/-- A token that stands alone and stays on one line. -/
structure Token.FitsOnLine (token : Token) : Prop where
  alone : token.StandsAlone
  whole : '\n' ∉ token.raw

namespace Token

/-- Plain texts in quotes fit on a line. -/
theorem fitsOnLine_ofText
    {texts : List Text}
    (plain : ∀ text ∈ texts, text.IsPlain) :
    ∀ token ∈ texts.map ofText, token.FitsOnLine := by
  rw [List.forall_mem_map]
  intro text inside
  exact ⟨standsAlone_ofText text, Quoted.lineFeed_notMem_write (plain text inside).whole⟩

/-- Signs fit on a line. -/
theorem fitsOnLine_ofSign
    (signs : List Modifier) :
    ∀ token ∈ signs.map ofSign, token.FitsOnLine := by
  rw [List.forall_mem_map]
  intro sign _
  refine ⟨standsAlone_ofSign sign, ?_⟩
  cases sign <;> decide

end Token

/-- The tokens that a statement is read from when they stand behind the keyword of its
command, whatever the variables are. -/
structure Statement.RenderedBy (statement : Statement) (tokens : List Token) : Prop where
  fits : ∀ token ∈ tokens, token.FitsOnLine
  read_eq : ∀ (scope : Variables) (text : Text), tokenize text = .ok tokens →
    Statement.read scope statement.command text = .ok statement

namespace Statement

/-- A request is rendered by its address. -/
theorem renderedBy_request
    {address : Text}
    (method : Method)
    (plain : address.IsPlain) :
    (Statement.request method address).RenderedBy [Token.ofText address] where
  fits := by
    rw [List.forall_mem_singleton]
    exact ⟨Token.standsAlone_ofText address, Quoted.lineFeed_notMem_write plain.whole⟩
  read_eq := by
    intro scope text shown
    have valued := @value_ofText scope address plain.literal
    simp only [command, read, readOnly, tokens, shown, ok_mapError, ok_do, takeArgument,
      rejectExtra, valued, ok_map]

/-- An expectation is rendered by its texts and the signs of its modifiers. -/
theorem renderedBy_expect
    {expectation : Expectation}
    {modifiers : Modifiers}
    {signs : List Modifier}
    (plain : ∀ text ∈ expectation.arguments, text.IsPlain)
    (bounded : ∀ code, expectation = .statusCode code → code ≤ statusCodeLimit)
    (signed : modifiers.SignedBy signs) :
    (Statement.expect expectation modifiers).RenderedBy
      (expectation.arguments.map Token.ofText ++ signs.map Token.ofSign) where
  fits := by
    rw [List.forall_mem_append]
    exact ⟨Token.fitsOnLine_ofText plain, Token.fitsOnLine_ofSign signs⟩
  read_eq := by
    intro scope text shown
    have known : ∃ kind, expectation.command = .assertion kind := by
      cases expectation <;> exact ⟨_, rfl⟩
    obtain ⟨kind, same⟩ := known
    rw [command, same, read, tokens, shown, ok_mapError, ok_bind]
    exact readExpectation_tokens same (fun text inside => (plain text inside).literal)
      bounded signed

/-- A change is rendered by its texts. -/
theorem renderedBy_change
    {wanted : Change}
    (plain : ∀ text ∈ wanted.arguments, text.IsPlain) :
    (Statement.change wanted).RenderedBy (wanted.arguments.map Token.ofText) where
  fits := Token.fitsOnLine_ofText plain
  read_eq := by
    intro scope text shown
    have known : ∃ kind, wanted.command = .modifier kind := by
      cases wanted <;> exact ⟨_, rfl⟩
    obtain ⟨kind, same⟩ := known
    rw [command, same, read, tokens, shown, ok_mapError, ok_bind]
    exact readChange_tokens same fun text inside => (plain text inside).literal

/-- The line of a statement that is rendered by tokens. -/
def lineOf (statement : Statement) (tokens : List Token) : Text :=
  statement.command.write (tokens.map Token.raw)

/-- The line of a statement has no line feed. -/
theorem RenderedBy.lineFeed_notMem
    {statement : Statement}
    {tokens : List Token}
    (rendered : statement.RenderedBy tokens) :
    '\n' ∉ statement.lineOf tokens :=
  Command.lineFeed_notMem_write fun token inside => (rendered.fits token inside).whole

end Statement

namespace Reader

variable {files : FileSystem} {path : Text} {reader next : Reader} {number : Nat}
variable {statement : Statement} {tokens : List Token} {effect : Effect}

/-- The effect of a line of a keyword and tokens is that of what is read from the tokens, once
there is a test case for those that need one. -/
theorem lineEffect_write
    {location : Location}
    {command : Command}
    (alone : ∀ token ∈ tokens, token.StandsAlone) :
    reader.lineEffect files location (command.write (tokens.map Token.raw)) =
      if command.needsRequest && reader.current.isMissing then
        .error (.requestMissing command)
      else
        (Statement.read reader.scope command
          (Text.joinWith [' '] (tokens.map Token.raw))).bind fun statement =>
            statement.effect files location := by
  simp only [lineEffect, splitKeyword_write alone, Command.ofKeyword?_keyword]

/-- The line of a statement has the effect of the statement, once there is a test case
for those that need one. -/
theorem lineEffect_lineOf
    {location : Location}
    (rendered : statement.RenderedBy tokens)
    (ready : (statement.command.needsRequest && reader.current.isMissing) = false)
    (caused : statement.Causes files location effect) :
    reader.lineEffect files location (statement.lineOf tokens) = .ok effect := by
  have alone : ∀ token ∈ tokens, token.StandsAlone := fun token inside =>
    (rendered.fits token inside).alone
  rw [lineEffect_eq_ok_iff, Statement.lineOf, splitKeyword_write alone]
  refine ⟨statement.command, statement, Command.ofKeyword?_keyword _, ready, ?_, caused⟩
  exact rendered.read_eq reader.scope _ (tokenize_joinWith alone)

/-- The step over a written line applies the effect of the line. -/
theorem step_write
    {command : Command}
    (alone : ∀ token ∈ tokens, token.StandsAlone)
    (effected : reader.lineEffect files ⟨path, number⟩ (command.write (tokens.map Token.raw)) =
      .ok effect)
    (applied : reader.apply ⟨path, number⟩ effect = .ok next) :
    reader.step files path (command.write (tokens.map Token.raw), number) = next := by
  have trimmed := (@Command.isTrimmed_write command _ alone).trim_eq
  apply step_of_accept
  · rw [trimmed]
    exact command.write_ne_nil _
  · rw [trimmed, accept, effected, ok_bind]
    exact applied

/-- The step over the line of a statement applies the effect of the statement. -/
theorem step_lineOf
    (rendered : statement.RenderedBy tokens)
    (ready : (statement.command.needsRequest && reader.current.isMissing) = false)
    (caused : statement.Causes files ⟨path, number⟩ effect)
    (applied : reader.apply ⟨path, number⟩ effect = .ok next) :
    reader.step files path (statement.lineOf tokens, number) = next :=
  step_write (fun token inside => (rendered.fits token inside).alone)
    (lineEffect_lineOf rendered ready caused) applied

/-- Lines of one command lead to the same reader if they are accepted with the same result or
refused for the same cause. -/
theorem step_write_congr
    {command : Command}
    {others : List Token}
    (alone : ∀ token ∈ tokens, token.StandsAlone)
    (aloneToo : ∀ token ∈ others, token.StandsAlone)
    (same : reader.accept files ⟨path, number⟩ (command.write (tokens.map Token.raw)) =
      reader.accept files ⟨path, number⟩ (command.write (others.map Token.raw))) :
    reader.step files path (command.write (tokens.map Token.raw), number) =
      reader.step files path (command.write (others.map Token.raw), number) := by
  have trimmed := (@Command.isTrimmed_write command _ alone).trim_eq
  have trimmedToo := (@Command.isTrimmed_write command _ aloneToo).trim_eq
  apply step_congr
  · rw [trimmed]
    exact command.write_ne_nil _
  · rw [trimmedToo]
    exact command.write_ne_nil _
  · rw [trimmed, trimmedToo, isRequestLine, isRequestLine, splitKeyword_write alone,
      splitKeyword_write aloneToo]
  · rw [trimmed, trimmedToo, same]

end Reader
end PageCheck
