import PageCheck.Proofs.Script.Arguments
import PageCheck.Proofs.Script.WrittenLines
import PageCheck.Proofs.Suite.Building

/-!
# The grammar of lines

For every command it is said which arguments it takes, and what a request modifier needs
apart from its arguments in order to be attached.  A line is accepted exactly if its
command takes what follows the keyword, so that no argument is left unread and no
legal line is refused.  Header lines, whose argument may be two tokens, are left out.
-/

namespace PageCheck

open Results

/-! ## Signs -/

namespace Modifiers

/-- Signs without repetition are those of a set of modifiers. -/
theorem exists_signedBy
    {signs : List Modifier}
    (distinct : signs.Nodup) :
    ∃ modifiers : Modifiers, modifiers.SignedBy signs := by
  refine ⟨⟨decide (.negated ∈ signs), decide (.caseInsensitive ∈ signs),
    decide (.regexp ∈ signs)⟩, distinct, ?_⟩
  intro modifier
  cases modifier <;> exact decide_eq_true_iff

end Modifiers

variable {modifiers : Modifiers} {signs : List Modifier}

/-- A set of modifiers is allowed exactly if all of its signs are. -/
theorem Check.allows_iff
    {check : Check}
    (signed : modifiers.SignedBy signs) :
    check.Allows modifiers ↔ ∀ sign ∈ signs, check.allowed.has sign = true := by
  simp only [Check.Allows, signed.complete]

/-- A text can be compared with if it is a pattern, on its own and in the mode of the
comparison, or if the sign of patterns is not given. -/
def Matcher.Readable (mode : MatchMode) (signs : List Modifier) (text : Text) : Prop :=
  .regexp ∈ signs →
    (Pattern.compile? false text).isSome = true ∧
    (compile? mode (decide (.caseInsensitive ∈ signs)) text).isSome = true

/-- A matcher is built exactly of the texts that can be compared with. -/
theorem Matcher.exists_build_iff
    {mode : MatchMode}
    {text : Text}
    (signed : modifiers.SignedBy signs) :
    (∃ matcher, build text mode modifiers = .ok matcher) ↔ Readable mode signs text := by
  have ignoring : decide (.caseInsensitive ∈ signs) = modifiers.caseInsensitive := by
    rw [Bool.eq_iff_iff, decide_eq_true_iff, ← signed.complete]
    rfl
  rw [Readable, ← signed.complete, ignoring, build]
  cases regexp : modifiers.regexp with
  | false => simp [Modifiers.has, regexp]
  | true =>
      cases Pattern.compile? false text <;>
        cases compile? mode modifiers.caseInsensitive text <;> simp [Modifiers.has, regexp]

/-! ## What commands take -/

/-- The texts that an assertion command takes when some signs follow them. -/
inductive AssertionCommand.Takes (signs : List Modifier) : AssertionCommand → List Text → Prop
  | statusCode
      {text : Text} {code : Nat}
      (denotes : text.Denotes code)
      (low : 100 ≤ code)
      (high : code ≤ 599)
      (allowed : ∀ sign ∈ signs, sign = .negated) :
      Takes signs .statusCode [text]
  | contains
      {text : Text}
      (readable : Matcher.Readable .substring signs text) :
      Takes signs .contains [text]
  | containsNot
      {text : Text}
      (readable : Matcher.Readable .substring signs text)
      (allowed : .negated ∉ signs) :
      Takes signs .containsNot [text]
  | equals
      {text : Text}
      (readable : Matcher.Readable .exact signs text) :
      Takes signs .equals [text]
  | empty
      (allowed : ∀ sign ∈ signs, sign = .negated) :
      Takes signs .empty []

/-- The texts that a request modifier command takes, and what they make. -/
inductive ModifierCommand.Takes (files : FileSystem) :
    ModifierCommand → List Text → RequestModifier → Prop
  | parameter
      {name value : Text}
      (named : name ≠ []) :
      Takes files .parameter [name, value] (.parameter name value)
  | file
      {name path : Text}
      (named : name ≠ [])
      (absolute : isAbsolutePath path = true)
      (regular : files.isRegular path = true) :
      Takes files .file [name, path] (.file name path)
  | raw
      {content : Text} :
      Takes files .raw [content] (.raw content)

/-- Whether a request modifier can be attached.  If a test case is open, its method and
its request modifiers have to admit it; behind a refused request line nothing is
attached, and nothing is wrong with that. -/
def Current.Admits (modifier : RequestModifier) : Current → Prop
  | .missing => False
  | .broken => True
  | .reading testCase =>
      modifier.isAllowedFor testCase.method = true ∧
      ∀ other ∈ testCase.modifiers, modifier.isCompatibleWith other = true

theorem Current.isMissing_of_admits
    {current : Current}
    {modifier : RequestModifier}
    (admitted : current.Admits modifier) :
    current.isMissing = false := by
  cases current with
  | missing => exact admitted.elim
  | broken => rfl
  | reading testCase => rfl

/-- What a command takes behind its keyword, one rule for each form of commands. -/
inductive Reader.Takes (files : FileSystem) (reader : Reader) : Command → Text → Prop
  | request
      {method : Method} {rest address : Text} {url : Url}
      (argument : Statement.IsArgument reader.scope rest address)
      (read : Url.read address = .ok url) :
      Takes files reader (.request method) rest
  | set
      {rest name value : Text}
      (assigns : Statement.Assigns reader.scope rest name value) :
      Takes files reader .set rest
  | setDefault
      {rest name value : Text}
      (assigns : Statement.Assigns reader.scope rest name value) :
      Takes files reader .setDefault rest
  | assertion
      {kind : AssertionCommand} {rest : Text}
      {positional : List Token} {texts : List Text} {signs : List Modifier}
      (met : reader.current.isMissing = false)
      (found : tokenize rest = .ok (positional ++ signs.map Token.ofSign))
      (valued : List.Forall₂ (Token.HasValue reader.scope) positional texts)
      (distinct : signs.Nodup)
      (takes : kind.Takes signs texts) :
      Takes files reader (.assertion kind) rest
  | modifier
      {kind : ModifierCommand} {rest : Text}
      {arguments : List Token} {texts : List Text} {modifier : RequestModifier}
      (found : tokenize rest = .ok arguments)
      (valued : List.Forall₂ (Token.HasValue reader.scope) arguments texts)
      (takes : kind.Takes files texts modifier)
      (admitted : reader.current.Admits modifier) :
      Takes files reader (.modifier kind) rest

/-! ## Rules of what is built -/

/-- Only the negation is in the set of it alone. -/
theorem Modifiers.forall_has_only_iff
    {allowed : Modifier} :
    (∀ sign ∈ signs, (only allowed).has sign = true) ↔ ∀ sign ∈ signs, sign = allowed := by
  simp only [has_only, decide_eq_true_eq, @eq_comm _ allowed]

/-- Checks that imply their own negation allow every other modifier. -/
theorem Check.forall_has_unnegatable_iff :
    (∀ sign ∈ signs, unnegatable.has sign = true) ↔ .negated ∉ signs := by
  constructor
  · intro allowed inside
    cases allowed .negated inside
  · intro absent sign inside
    cases sign with
    | negated => exact absurd inside absent
    | caseInsensitive => rfl
    | regexp => rfl

theorem Modifiers.has_all (modifier : Modifier) : all.has modifier = true := by
  cases modifier <;> rfl

/-- An assertion command takes exactly the texts that ask for an assertion which can be
built. -/
theorem AssertionCommand.takes_iff
    {kind : AssertionCommand}
    {texts : List Text}
    (location : Location)
    (signed : modifiers.SignedBy signs) :
    kind.Takes signs texts ↔
      ∃ expectation assertion, Statement.Asks kind texts expectation ∧
        Expectation.Builds location modifiers expectation assertion := by
  constructor
  · intro takes
    cases takes with
    | @statusCode text code denotes low high allowed =>
        have bounded : code ≤ Statement.statusCodeLimit := Nat.le_trans high (by decide)
        exact ⟨_, _, .statusCode denotes bounded, .statusCode low high
          ((Check.allows_iff signed).2 (Modifiers.forall_has_only_iff.2 allowed))⟩
    | contains readable =>
        obtain ⟨matcher, matched⟩ := (Matcher.exists_build_iff signed).2 readable
        exact ⟨_, _, .contains, .contains matched fun other _ => Modifiers.has_all other⟩
    | containsNot readable allowed =>
        obtain ⟨matcher, matched⟩ := (Matcher.exists_build_iff signed).2 readable
        exact ⟨_, _, .containsNot, .containsNot matched
          ((Check.allows_iff signed).2 (Check.forall_has_unnegatable_iff.2 allowed))⟩
    | equals readable =>
        obtain ⟨matcher, matched⟩ := (Matcher.exists_build_iff signed).2 readable
        exact ⟨_, _, .equals, .equals matched fun other _ => Modifiers.has_all other⟩
    | empty allowed =>
        exact ⟨_, _, .empty, .empty
          ((Check.allows_iff signed).2 (Modifiers.forall_has_only_iff.2 allowed))⟩
  · rintro ⟨expectation, assertion, asks, builds⟩
    cases builds with
    | statusCode low high allowed =>
        cases asks with
        | statusCode denotes _ =>
            exact .statusCode denotes low high
              (Modifiers.forall_has_only_iff.1 ((Check.allows_iff signed).1 allowed))
    | contains matched _ =>
        cases asks
        exact .contains ((Matcher.exists_build_iff signed).1 ⟨_, matched⟩)
    | containsNot matched allowed =>
        cases asks
        exact .containsNot ((Matcher.exists_build_iff signed).1 ⟨_, matched⟩)
          (Check.forall_has_unnegatable_iff.1 ((Check.allows_iff signed).1 allowed))
    | equals matched _ =>
        cases asks
        exact .equals ((Matcher.exists_build_iff signed).1 ⟨_, matched⟩)
    | empty allowed =>
        cases asks
        exact .empty
          (Modifiers.forall_has_only_iff.1 ((Check.allows_iff signed).1 allowed))
    | header _ _ _ => cases asks
    | headerValue _ _ _ _ => cases asks

/-- A request modifier command takes exactly the texts of a change that can be built. -/
theorem ModifierCommand.takes_iff
    {files : FileSystem}
    {kind : ModifierCommand}
    {texts : List Text}
    {modifier : RequestModifier}
    (noHeader : kind ≠ .header) :
    kind.Takes files texts modifier ↔
      ∃ wanted : Change, wanted.command = .modifier kind ∧ wanted.arguments = texts ∧
        wanted.Builds files modifier := by
  constructor
  · intro takes
    cases takes with
    | parameter named => exact ⟨_, rfl, rfl, .parameter named⟩
    | file named absolute regular => exact ⟨_, rfl, rfl, .file named absolute regular⟩
    | raw => exact ⟨_, rfl, rfl, .raw⟩
  · rintro ⟨wanted, known, rfl, builds⟩
    cases builds with
    | header _ _ _ =>
        cases known
        exact absurd rfl noHeader
    | parameter named =>
        cases known
        exact .parameter named
    | file named absolute regular =>
        cases known
        exact .file named absolute regular
    | raw =>
        cases known
        exact .raw

/-! ## Accepted lines -/

namespace Reader

variable {files : FileSystem} {location : Location} {reader : Reader}

/-- An effect goes through unless it is a request modifier that cannot be attached. -/
theorem exists_apply_iff
    {modifier : RequestModifier}
    (met : reader.current.isMissing = false) :
    (∃ next, reader.apply location (.addModifier modifier) = .ok next) ↔
      reader.current.Admits modifier := by
  rcases broken_or_reading met with current | ⟨testCase, current⟩
  · simp [apply, current, Current.Admits]
  · simp only [apply, current, Current.Admits]
    constructor
    · rintro ⟨next, applied⟩
      split at applied
      · next extended attached =>
          obtain ⟨allowed, compatible, -⟩ := TestCase.addModifier_eq_ok_iff.1 attached
          exact ⟨allowed, compatible⟩
      · cases applied
    · rintro ⟨allowed, compatible⟩
      rw [TestCase.addModifier_eq_ok_iff.2 ⟨allowed, compatible, rfl⟩]
      exact ⟨_, rfl⟩

/-- Once a request line has been met, an assertion always goes through. -/
theorem exists_apply_addAssertion
    (location : Location)
    (reader : Reader)
    (assertion : Assertion) :
    ∃ next, reader.apply location (.addAssertion assertion) = .ok next := by
  rw [apply]
  split <;> exact ⟨_, rfl⟩

/-- A command takes its arguments exactly if they make a statement whose effect goes
through, and there is a request before it if it needs one. -/
theorem takes_iff
    {command : Command}
    {rest : Text}
    (location : Location)
    (noAssertion : command ≠ .assertion .header)
    (noModifier : command ≠ .modifier .header) :
    reader.Takes files command rest ↔
      (command.needsRequest && reader.current.isMissing) = false ∧
      ∃ statement effect, Statement.Makes reader.scope command rest statement ∧
        statement.Causes files location effect ∧
        ∃ next, reader.apply location effect = .ok next := by
  constructor
  · intro takes
    cases takes with
    | request argument read => exact ⟨rfl, _, _, .request argument, .request read, _, rfl⟩
    | set assigns => exact ⟨rfl, _, _, .set assigns, .set, _, rfl⟩
    | setDefault assigns => exact ⟨rfl, _, _, .setDefault assigns, .setDefault, _, rfl⟩
    | assertion met found valued distinct takes =>
        obtain ⟨modifiers, signed⟩ := Modifiers.exists_signedBy distinct
        obtain ⟨expectation, assertion, asks, builds⟩ :=
          (AssertionCommand.takes_iff location signed).1 takes
        exact ⟨met, _, _, .expect found valued asks signed,
          .expect (Expectation.build_eq_ok_iff.2 builds),
          exists_apply_addAssertion location reader assertion⟩
    | modifier found valued takes admitted =>
        have noHeader := fun same => noModifier (congrArg Command.modifier same)
        have met := Current.isMissing_of_admits admitted
        obtain ⟨wanted, known, rfl, builds⟩ := (ModifierCommand.takes_iff noHeader).1 takes
        exact ⟨met, _, _, .change known found valued,
          .change (Change.build_eq_ok_iff.2 builds), (exists_apply_iff met).2 admitted⟩
  · rintro ⟨allowed, statement, effect, makes, caused, applied⟩
    cases makes with
    | request argument =>
        cases caused with
        | request read => exact .request argument read
    | set assigns => exact .set assigns
    | setDefault assigns => exact .setDefault assigns
    | expect found valued asks signed =>
        cases caused with
        | expect built =>
            have takes := (AssertionCommand.takes_iff location signed).2
              ⟨_, _, asks, Expectation.build_eq_ok_iff.1 built⟩
            exact .assertion allowed found valued signed.distinct takes
    | change known found valued =>
        have noHeader := fun same => noModifier (congrArg Command.modifier same)
        cases caused with
        | change built =>
            have takes := (ModifierCommand.takes_iff noHeader).2
              ⟨_, known, rfl, Change.build_eq_ok_iff.1 built⟩
            exact .modifier found valued takes ((exists_apply_iff allowed).1 applied)

/-- A line is accepted exactly if its first word is the keyword of a command that takes what
follows it.  This holds whether a test case is open, the last request line was refused, or
there has been none; the command says what it needs of these. -/
theorem exists_accept_iff
    (files : FileSystem)
    (reader : Reader)
    (location : Location)
    {line : Text}
    (noAssertion : Text.firstWord line ≠ (Command.assertion .header).keyword)
    (noModifier : Text.firstWord line ≠ (Command.modifier .header).keyword) :
    (∃ next, reader.accept files location line = .ok next) ↔
      ∃ command, command.keyword = Text.firstWord line ∧
        reader.Takes files command (Text.trim (Text.afterFirstWord line)) := by
  have others : ∀ command : Command, command.keyword = Text.firstWord line →
      command ≠ .assertion .header ∧ command ≠ .modifier .header := by
    intro command same
    rw [← same] at noAssertion noModifier
    exact ⟨fun known => noAssertion (congrArg _ known),
      fun known => noModifier (congrArg _ known)⟩
  constructor
  · rintro ⟨next, accepted⟩
    obtain ⟨effect, found, applied⟩ := bind_eq_ok_iff.1 accepted
    obtain ⟨command, statement, known, allowed, read, caused⟩ := lineEffect_eq_ok_iff.1 found
    have same := Command.ofKeyword?_eq_some_iff.1 known
    obtain ⟨noAssertion, noModifier⟩ := others command same
    have makes := (Statement.read_eq_ok_iff noAssertion noModifier).1 read
    exact ⟨command, same, (takes_iff location noAssertion noModifier).2
      ⟨allowed, statement, effect, makes, caused, next, applied⟩⟩
  · rintro ⟨command, same, takes⟩
    obtain ⟨noAssertion, noModifier⟩ := others command same
    obtain ⟨allowed, statement, effect, makes, caused, next, applied⟩ :=
      (takes_iff location noAssertion noModifier).1 takes
    have read := (Statement.read_eq_ok_iff noAssertion noModifier).2 makes
    have known := Command.ofKeyword?_eq_some_iff.2 same
    have found := lineEffect_eq_ok_iff.2 ⟨command, statement, known, allowed, read, caused⟩
    exact ⟨next, bind_eq_ok_iff.2 ⟨effect, found, applied⟩⟩

/-- An assertion whose pattern comes from a variable, behind a request with a raw body. -/
theorem exists_accept_pattern :
    let testCase : TestCase :=
      { location := ⟨"t", 1⟩, method := .post, url := default, modifiers := [.raw "body"] }
    let reader : Reader := { scope := ⟨[("A", "x+")]⟩, current := .reading testCase }
    let files : FileSystem := (FileNode.directory []).toFileSystem []
    let line : Text := "assert-contains-not '{A}'  /"
    Text.firstWord line ≠ (Command.assertion .header).keyword ∧
    Text.firstWord line ≠ (Command.modifier .header).keyword ∧
    ∃ next, reader.accept files ⟨"t", 2⟩ line = .ok next := by
  intro testCase reader files line
  have noAssertion : Text.firstWord line ≠ (Command.assertion .header).keyword := by decide
  have noModifier : Text.firstWord line ≠ (Command.modifier .header).keyword := by decide
  have found : tokenize (Text.trim (Text.afterFirstWord line)) =
      .ok ([⟨"'{A}'", true⟩] ++ [Modifier.regexp].map Token.ofSign) := by
    decide +kernel
  have resolved : Value.resolve reader.scope "'{A}'" = .ok "x+" := by decide +kernel
  have readable : Matcher.Readable .substring [.regexp] "x+" := by
    intro _
    decide +kernel
  have takes : reader.Takes files (.assertion .containsNot)
      (Text.trim (Text.afterFirstWord line)) :=
    .assertion rfl found (.cons resolved .nil) (by decide) (.containsNot readable (by decide))
  exact ⟨noAssertion, noModifier,
    (exists_accept_iff files reader ⟨"t", 2⟩ noAssertion noModifier).2
      ⟨.assertion .containsNot, by decide, takes⟩⟩

end Reader
end PageCheck
