import PageCheck.Proofs.Script.LineGrammar
import PageCheck.Proofs.Script.SameNames

/-!
# What variables cannot change

A line is written in one form, which is settled before any variable is looked up: its
command, which of its tokens are arguments, and its modifiers.  Runs of an accepted line
with other values for the same variables differ only in the texts that the references in
the arguments give way to, and in what is made of these.
-/

namespace PageCheck

open Results

/-! ## Signs -/

theorem Token.ofSign_injective : Function.Injective ofSign := by
  intro modifier other same
  have read := modifier?_ofSign modifier
  rw [same, modifier?_ofSign] at read
  cases read
  rfl

/-- Signs stand for one set of modifiers. -/
theorem Modifiers.SignedBy.unique
    {modifiers others : Modifiers}
    {signs : List Modifier}
    (signed : modifiers.SignedBy signs)
    (signedToo : others.SignedBy signs) :
    modifiers = others := by
  apply Modifiers.ext_has
  intro modifier
  rw [Bool.eq_iff_iff, signed.complete, signedToo.complete]

/-! ## Forms of lines -/

/-- How many arguments stand in front of the signs of modifiers. -/
def AssertionCommand.arity : AssertionCommand → Nat
  | .empty => 0
  | _ => 1

theorem Statement.Asks.length_eq
    {kind : AssertionCommand}
    {texts : List Text}
    {expectation : Expectation}
    (asks : Asks kind texts expectation) :
    texts.length = kind.arity := by
  cases asks <;> rfl

/-- What a line asks for, apart from the texts of its arguments. -/
inductive LineForm
  | request (method : Method)
  | set (name : Text)
  | setDefault (name : Text)
  | expect (kind : AssertionCommand) (modifiers : Modifiers)
  | change (kind : ModifierCommand)
deriving DecidableEq, Repr

namespace LineForm

/-- The name and the token that a text assigns.  The name stands in front of the first
equals sign, where blanks around it do not count, and the token behind that sign. -/
inductive Assigned (rest : Text) : Text → Token → Prop
  | intro
      {front back : Text} {argument : Token}
      (shape : rest = front ++ '=' :: back)
      (first : '=' ∉ front)
      (named : Variables.isName (Text.trim front) = true)
      (found : tokenize back = .ok [argument]) :
      Assigned rest (Text.trim front) argument

theorem Assigned.unique
    {rest name other : Text}
    {argument token : Token}
    (assigned : Assigned rest name argument)
    (assignedToo : Assigned rest other token) :
    name = other ∧ argument = token := by
  obtain ⟨shape, first, _, found⟩ := assigned
  obtain ⟨shapeToo, firstToo, _, foundToo⟩ := assignedToo
  have split := Text.splitFirst?_eq_some_iff.2 ⟨shape, first⟩
  rw [Text.splitFirst?_eq_some_iff.2 ⟨shapeToo, firstToo⟩] at split
  cases split
  rw [found] at foundToo
  cases foundToo
  exact ⟨rfl, rfl⟩

/-- The form that a command and what follows its keyword are written in, with the tokens of
the arguments. -/
inductive Written : Command → Text → LineForm → List Token → Prop
  | request
      {method : Method} {rest : Text} {argument : Token}
      (found : tokenize rest = .ok [argument]) :
      Written (.request method) rest (.request method) [argument]
  | set
      {rest name : Text} {argument : Token}
      (assigned : Assigned rest name argument) :
      Written .set rest (.set name) [argument]
  | setDefault
      {rest name : Text} {argument : Token}
      (assigned : Assigned rest name argument) :
      Written .setDefault rest (.setDefault name) [argument]
  | expect
      {kind : AssertionCommand} {rest : Text} {arguments : List Token}
      {signs : List Modifier} {modifiers : Modifiers}
      (found : tokenize rest = .ok (arguments ++ signs.map Token.ofSign))
      (counted : arguments.length = kind.arity)
      (signed : modifiers.SignedBy signs) :
      Written (.assertion kind) rest (.expect kind modifiers) arguments
  | change
      {kind : ModifierCommand} {rest : Text} {arguments : List Token}
      (found : tokenize rest = .ok arguments) :
      Written (.modifier kind) rest (.change kind) arguments

/-- What a line of a form says when its arguments have some texts. -/
inductive Says : LineForm → List Text → Statement → Prop
  | request {method : Method} {address : Text} :
      Says (.request method) [address] (.request method address)
  | set {name value : Text} :
      Says (.set name) [value] (.set name value)
  | setDefault {name value : Text} :
      Says (.setDefault name) [value] (.setDefault name value)
  | expect
      {kind : AssertionCommand} {modifiers : Modifiers} {texts : List Text}
      {expectation : Expectation}
      (asks : Statement.Asks kind texts expectation) :
      Says (.expect kind modifiers) texts (.expect expectation modifiers)
  | change
      {kind : ModifierCommand} {wanted : Change}
      (known : wanted.command = .modifier kind) :
      Says (.change kind) wanted.arguments (.change wanted)

variable {command : Command} {rest : Text} {form : LineForm} {arguments : List Token}

theorem Written.wellFormed
    (written : Written command rest form arguments) :
    ∀ token ∈ arguments, token.WellFormed := by
  cases written with
  | request found | change found => exact Layout.wellFormed_of_tokenize found
  | set assigned | setDefault assigned =>
      obtain ⟨_, _, _, found⟩ := assigned
      exact Layout.wellFormed_of_tokenize found
  | expect found _ _ =>
      exact fun token inside =>
        Layout.wellFormed_of_tokenize found token (List.mem_append_left _ inside)

/-- What follows a keyword is written in one form only. -/
theorem Written.unique
    {other : LineForm}
    {tokens : List Token}
    (written : Written command rest form arguments)
    (writtenToo : Written command rest other tokens) :
    form = other ∧ arguments = tokens := by
  cases written with
  | request found =>
      cases writtenToo with
      | request foundToo =>
          rw [found] at foundToo
          cases foundToo
          exact ⟨rfl, rfl⟩
  | set assigned =>
      cases writtenToo with
      | set assignedToo =>
          obtain ⟨rfl, rfl⟩ := assigned.unique assignedToo
          exact ⟨rfl, rfl⟩
  | setDefault assigned =>
      cases writtenToo with
      | setDefault assignedToo =>
          obtain ⟨rfl, rfl⟩ := assigned.unique assignedToo
          exact ⟨rfl, rfl⟩
  | expect found counted signed =>
      cases writtenToo with
      | expect foundToo countedToo signedToo =>
          -- The command says how many tokens are arguments, whatever their texts are.
          rw [found, Except.ok.injEq] at foundToo
          obtain ⟨sameArguments, sameSigns⟩ :=
            List.append_inj foundToo (counted.trans countedToo.symm)
          have signs := List.map_injective_iff.2 Token.ofSign_injective sameSigns
          rw [signs] at signed
          exact ⟨by rw [signed.unique signedToo], sameArguments⟩
  | change found =>
      cases writtenToo with
      | change foundToo =>
          rw [found] at foundToo
          cases foundToo
          exact ⟨rfl, rfl⟩

/-- A statement that is made by a line is said in the form of the line. -/
theorem exists_written_of_makes
    {scope : Variables}
    {statement : Statement}
    (makes : Statement.Makes scope command rest statement) :
    ∃ form arguments texts, Written command rest form arguments ∧
      List.Forall₂ (Token.HasValue scope) arguments texts ∧ form.Says texts statement := by
  cases makes with
  | request argument =>
      obtain ⟨token, found, valued⟩ := argument
      exact ⟨_, _, _, .request found, .cons valued .nil, .request⟩
  | set assigns =>
      obtain ⟨first, named, token, found, valued⟩ := assigns
      exact ⟨_, _, _, .set (.intro rfl first named found), .cons valued .nil, .set⟩
  | setDefault assigns =>
      obtain ⟨first, named, token, found, valued⟩ := assigns
      exact ⟨_, _, _, .setDefault (.intro rfl first named found), .cons valued .nil,
        .setDefault⟩
  | expect found valued asks signed =>
      have counted := valued.length_eq.trans asks.length_eq
      exact ⟨_, _, _, .expect found counted signed, valued, .expect asks⟩
  | change known found valued => exact ⟨_, _, _, .change found, valued, .change known⟩

end LineForm

/-! ## Pieces of arguments -/

/-- A token falls into the parts of the text between its quotes. -/
def Token.FallsInto (token : Token) (parts : List Value.Part) : Prop :=
  ∃ inner, token.StandsFor inner ∧ Value.Scans inner parts

/-- Tokens fall into parts that their values are filled from, whatever the variables are. -/
theorem Token.exists_fallsInto
    {arguments : List Token}
    (wellFormed : ∀ token ∈ arguments, token.WellFormed) :
    ∃ pieces, List.Forall₂ FallsInto arguments pieces ∧
      ∀ scope texts, List.Forall₂ (HasValue scope) arguments texts →
        List.Forall₂ (fun parts text => Value.Fills scope parts (.ok text)) pieces texts := by
  induction arguments with
  | nil =>
      refine ⟨[], .nil, fun scope texts valued => ?_⟩
      cases valued
      exact .nil
  | cons token rest hypothesis =>
      rw [List.forall_mem_cons] at wellFormed
      obtain ⟨inner, stands⟩ := wellFormed.1.exists_standsFor
      obtain ⟨parts, scans⟩ := Value.exists_scans inner
      obtain ⟨pieces, falls, fills⟩ := hypothesis wellFormed.2
      refine ⟨parts :: pieces, .cons ⟨inner, stands, scans⟩ falls, fun scope texts valued => ?_⟩
      cases valued with
      | cons first others =>
          have substituted := (stands.resolve_eq wellFormed.1 scope).symm.trans first
          exact .cons (scans.substitute_eq_iff.1 substituted) (fills scope _ others)

/-! ## Effects of a form -/

/-- What a line of a form does with some variables: the pieces of its arguments are filled,
and it has an effect of what it then says. -/
inductive LineForm.Performs (files : FileSystem) (location : Location) (scope : Variables)
    (form : LineForm) (pieces : List (List Value.Part)) : Effect → Prop
  | intro
      {texts : List Text} {statement : Statement} {effect : Effect}
      (filled : List.Forall₂ (fun parts text => Value.Fills scope parts (.ok text))
        pieces texts)
      (said : form.Says texts statement)
      (causes : statement.Causes files location effect) :
      Performs files location scope form pieces effect

/-- Two effects differ in texts only, and in what is made of these. -/
inductive Effect.Resembles : Effect → Effect → Prop
  | openCase
      {method : Method} {url other : Url} :
      Resembles (.openCase method url) (.openCase method other)
  | set
      {name value other : Text} :
      Resembles (.set name value) (.set name other)
  | setDefault
      {name value other : Text} :
      Resembles (.setDefault name value) (.setDefault name other)
  | addAssertion
      {assertion other : Assertion}
      (command : assertion.command = other.command)
      (modifiers : assertion.modifiers = other.modifiers)
      (location : assertion.location = other.location) :
      Resembles (.addAssertion assertion) (.addAssertion other)
  | addModifier
      {modifier other : RequestModifier}
      (command : modifier.command = other.command) :
      Resembles (.addModifier modifier) (.addModifier other)

theorem Expectation.Builds.command_eq
    {location : Location}
    {modifiers : Modifiers}
    {kind : AssertionCommand}
    {texts : List Text}
    {expectation : Expectation}
    {assertion : Assertion}
    (builds : expectation.Builds location modifiers assertion)
    (asks : Statement.Asks kind texts expectation) :
    assertion.command = (Command.assertion kind).keyword := by
  cases asks <;> cases builds <;> rfl

theorem Change.Builds.command_eq
    {files : FileSystem}
    {kind : ModifierCommand}
    {wanted : Change}
    {modifier : RequestModifier}
    (builds : wanted.Builds files modifier)
    (known : wanted.command = .modifier kind) :
    modifier.command = (Command.modifier kind).keyword := by
  cases builds <;> cases known <;> rfl

/-- Effects of one form resemble each other. -/
theorem LineForm.Performs.resembles
    {files : FileSystem}
    {location : Location}
    {scope other : Variables}
    {form : LineForm}
    {pieces : List (List Value.Part)}
    {effect otherEffect : Effect}
    (performs : form.Performs files location scope pieces effect)
    (performsToo : form.Performs files location other pieces otherEffect) :
    effect.Resembles otherEffect := by
  obtain ⟨-, said, causes⟩ := performs
  obtain ⟨-, saidToo, causesToo⟩ := performsToo
  cases said with
  | request =>
      cases saidToo
      cases causes
      cases causesToo
      exact .openCase
  | set =>
      cases saidToo
      cases causes
      cases causesToo
      exact .set
  | setDefault =>
      cases saidToo
      cases causes
      cases causesToo
      exact .setDefault
  | expect asks =>
      cases saidToo with
      | expect asksToo =>
          cases causes with
          | expect built =>
              cases causesToo with
              | expect builtToo =>
                  have builds := Expectation.build_eq_ok_iff.1 built
                  have buildsToo := Expectation.build_eq_ok_iff.1 builtToo
                  exact .addAssertion
                    ((builds.command_eq asks).trans (buildsToo.command_eq asksToo).symm)
                    (builds.modifiers_eq.trans buildsToo.modifiers_eq.symm)
                    (builds.location_eq.trans buildsToo.location_eq.symm)
  | change known =>
      cases saidToo with
      | change knownToo =>
          cases causes with
          | change built =>
              cases causesToo with
              | change builtToo =>
                  have builds := Change.build_eq_ok_iff.1 built
                  have buildsToo := Change.build_eq_ok_iff.1 builtToo
                  exact .addModifier
                    ((builds.command_eq known).trans (buildsToo.command_eq knownToo).symm)

/-! ## Two runs of a line -/

namespace Reader

variable {files : FileSystem} {location : Location} {reader : Reader} {line : Text}

/-- An accepted line is written in a form and performs what the form says. -/
theorem exists_written_of_accept
    {next : Reader}
    (noAssertion : Text.firstWord line ≠ (Command.assertion .header).keyword)
    (noModifier : Text.firstWord line ≠ (Command.modifier .header).keyword)
    (accepted : reader.accept files location line = .ok next) :
    ∃ command form arguments texts statement effect,
      Command.ofKeyword? (Text.firstWord line) = some command ∧
      LineForm.Written command (Text.trim (Text.afterFirstWord line)) form arguments ∧
      List.Forall₂ (Token.HasValue reader.scope) arguments texts ∧
      form.Says texts statement ∧ statement.Causes files location effect ∧
      reader.apply location effect = .ok next := by
  obtain ⟨effect, found, applied⟩ := bind_eq_ok_iff.1 accepted
  obtain ⟨command, statement, known, -, read, causes⟩ := lineEffect_eq_ok_iff.1 found
  have makes := (Statement.read_eq_ok_iff (Command.ne_of_ofKeyword? known noAssertion)
    (Command.ne_of_ofKeyword? known noModifier)).1 read
  obtain ⟨form, arguments, texts, written, valued, said⟩ :=
    LineForm.exists_written_of_makes makes
  exact ⟨command, form, arguments, texts, statement, effect, known, written, valued, said,
    causes, applied⟩

/-- Two runs of a line with other values for the same variables are refused with the same
errors about the form of the line.  If both are accepted, the line is written in one form
with the same pieces, and each run performs what comes of filling these pieces with the
values of its own variables. -/
theorem accept_sameNames
    {scope other : Variables}
    (files : FileSystem)
    (reader : Reader)
    (location : Location)
    (noAssertion : Text.firstWord line ≠ (Command.assertion .header).keyword)
    (noModifier : Text.firstWord line ≠ (Command.modifier .header).keyword)
    (same : scope.SameNames other) :
    let left : Reader := { reader with scope }
    let right : Reader := { reader with scope := other }
    (∀ cause : LineError, cause.AboutForm →
      (left.accept files location line = .error cause ↔
        right.accept files location line = .error cause)) ∧
    ∀ next otherNext, left.accept files location line = .ok next →
      right.accept files location line = .ok otherNext →
      ∃ command form arguments pieces effect otherEffect,
        command.keyword = Text.firstWord line ∧
        LineForm.Written command (Text.trim (Text.afterFirstWord line)) form arguments ∧
        List.Forall₂ Token.FallsInto arguments pieces ∧
        form.Performs files location scope pieces effect ∧
        form.Performs files location other pieces otherEffect ∧
        effect.Resembles otherEffect ∧
        left.apply location effect = .ok next ∧
        right.apply location otherEffect = .ok otherNext := by
  intro left right
  refine ⟨accept_failAlike noAssertion noModifier same, ?_⟩
  intro next otherNext accepted otherAccepted
  obtain ⟨command, form, arguments, texts, statement, effect, known, written, valued, said,
    causes, applied⟩ := exists_written_of_accept noAssertion noModifier accepted
  obtain ⟨_, _, _, otherTexts, otherStatement, otherEffect, knownToo, writtenToo, otherValued,
    otherSaid, otherCauses, otherApplied⟩ :=
    exists_written_of_accept noAssertion noModifier otherAccepted
  rw [known] at knownToo
  cases knownToo
  obtain ⟨rfl, rfl⟩ := written.unique writtenToo
  obtain ⟨pieces, falls, fills⟩ := Token.exists_fallsInto written.wellFormed
  have performs : form.Performs files location scope pieces effect :=
    .intro (fills scope texts valued) said causes
  have otherPerforms : form.Performs files location other pieces otherEffect :=
    .intro (fills other otherTexts otherValued) otherSaid otherCauses
  exact ⟨command, form, arguments, pieces, effect, otherEffect,
    Command.ofKeyword?_eq_some_iff.1 known, written, falls, performs, otherPerforms,
    performs.resembles otherPerforms, applied, otherApplied⟩

/-- A value may hold quotes, signs of modifiers, equals signs, references and line ends: the
line still has one argument and one modifier. -/
theorem accept_sameNames_quotes_and_signs :
    let testCase : TestCase := { location := ⟨"t", 1⟩, method := .get, url := default }
    let reader : Reader := { current := .reading testCase }
    let files : FileSystem := (FileNode.directory []).toFileSystem []
    let line : Text := "assert-contains \"\x7bA\x7d.\" ~"
    let scope : Variables := ⟨[("A", "\" ! = \x7bB\x7d\n")]⟩
    let other : Variables := ⟨[("A", "a")]⟩
    let left : Reader := { reader with scope }
    let right : Reader := { reader with scope := other }
    Text.firstWord line ≠ (Command.assertion .header).keyword ∧
    Text.firstWord line ≠ (Command.modifier .header).keyword ∧
    scope.SameNames other ∧
    ∃ next otherNext, left.accept files ⟨"t", 2⟩ line = .ok next ∧
      right.accept files ⟨"t", 2⟩ line = .ok otherNext ∧
      ∃ command form arguments pieces effect otherEffect,
        command.keyword = Text.firstWord line ∧
        LineForm.Written command (Text.trim (Text.afterFirstWord line)) form arguments ∧
        List.Forall₂ Token.FallsInto arguments pieces ∧
        form.Performs files ⟨"t", 2⟩ scope pieces effect ∧
        form.Performs files ⟨"t", 2⟩ other pieces otherEffect ∧
        effect.Resembles otherEffect ∧
        left.apply ⟨"t", 2⟩ effect = .ok next ∧
        right.apply ⟨"t", 2⟩ otherEffect = .ok otherNext := by
  intro testCase reader files line scope other left right
  have noAssertion : Text.firstWord line ≠ (Command.assertion .header).keyword := by decide
  have noModifier : Text.firstWord line ≠ (Command.modifier .header).keyword := by decide
  have same : scope.SameNames other := by
    intro name
    by_cases known : ['A'] = name <;>
      simp [scope, other, Variables.has, Variables.get?, known]
  have exists_ok : ∀ {result : Except LineError Reader}, result.isOk = true →
      ∃ next, result = .ok next := by
    rintro (cause | next) fine
    · cases fine
    · exact ⟨next, rfl⟩
  have fine : (left.accept files ⟨"t", 2⟩ line).isOk = true := by decide +kernel
  have otherFine : (right.accept files ⟨"t", 2⟩ line).isOk = true := by decide +kernel
  obtain ⟨next, accepted⟩ := exists_ok fine
  obtain ⟨otherNext, otherAccepted⟩ := exists_ok otherFine
  exact ⟨noAssertion, noModifier, same, next, otherNext, accepted, otherAccepted,
    (accept_sameNames files reader ⟨"t", 2⟩ noAssertion noModifier same).2 next otherNext
      accepted otherAccepted⟩

end Reader
end PageCheck
