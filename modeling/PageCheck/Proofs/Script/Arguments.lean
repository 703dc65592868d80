import Mathlib.Data.List.Forall2
import PageCheck.Proofs.Script.Effects
import PageCheck.Proofs.Script.Statements

/-!
# What arguments say

The arguments of a command make a statement exactly if they are the tokens that the
command takes, each with a value, and nothing else.  Assertion commands take signs of
modifiers behind these, in any order and none of them twice.
-/

namespace PageCheck

open Results

/-! ## Tokens with values -/

/-- A token has a value if its text does, with the variables as they are. -/
def Token.HasValue (scope : Variables) (token : Token) (value : Text) : Prop :=
  Value.resolve scope token.raw = .ok value

/-- Only bare signs stand for modifiers. -/
theorem Token.modifier?_eq_some_iff
    {token : Token}
    {modifier : Modifier} :
    token.modifier? = some modifier ↔ token = ofSign modifier := by
  constructor
  · intro found
    obtain ⟨raw, quoted⟩ := token
    cases quoted with
    | true => cases found
    | false =>
        have sign : modifier.sign = raw := by
          simpa using List.find?_some (found : Modifier.ofSign? raw = some modifier)
        rw [ofSign, sign]
  · rintro rfl
    exact modifier?_ofSign modifier

/-- One text is the value of one token. -/
theorem Token.forall₂_singleton_iff
    {scope : Variables}
    {tokens : List Token}
    {text : Text} :
    List.Forall₂ (HasValue scope) tokens [text] ↔
      ∃ token : Token, tokens = [token] ∧ token.HasValue scope text := by
  rw [List.forall₂_cons_right_iff]
  constructor
  · rintro ⟨token, rest, valued, nothing, rfl⟩
    cases nothing
    exact ⟨token, rfl, valued⟩
  · rintro ⟨token, rfl, valued⟩
    exact ⟨token, [], valued, .nil, rfl⟩

namespace Statement

open Token (forall₂_singleton_iff)

variable {scope : Variables} {command : Command}

/-- A text that is a single token, and the value of this token. -/
def IsArgument (scope : Variables) (text value : Text) : Prop :=
  ∃ token, tokenize text = .ok [token] ∧ token.HasValue scope value

/-- How a text sets a variable.  The name stands in front of the first equals sign, where
blanks around it do not count, and one token behind that sign has the value. -/
inductive Assigns (scope : Variables) : Text → Text → Text → Prop
  | intro
      {front back value : Text}
      (first : '=' ∉ front)
      (named : Variables.isName (Text.trim front) = true)
      (argument : IsArgument scope back value) :
      Assigns scope (front ++ '=' :: back) (Text.trim front) value

/-! ## Arguments one by one -/

theorem tokens_eq_ok_iff
    {text : Text}
    {arguments : List Token} :
    tokens text = .ok arguments ↔ tokenize text = .ok arguments :=
  mapError_eq_ok_iff

theorem value_eq_ok_iff
    {token : Token}
    {text : Text} :
    value scope token = .ok text ↔ token.HasValue scope text :=
  mapError_eq_ok_iff

theorem takeArgument_eq_ok_iff
    {name : Text}
    {arguments : List Token}
    {taken : Token × List Token} :
    takeArgument command name arguments = .ok taken ↔ arguments = taken.1 :: taken.2 := by
  cases arguments with
  | nil => simp [takeArgument]
  | cons token rest => simp [takeArgument, Prod.ext_iff]

theorem rejectExtra_eq_ok_iff
    {arguments : List Token} :
    rejectExtra command arguments = .ok () ↔ arguments = [] := by
  cases arguments <;> simp [rejectExtra]

/-- Tokens are read as modifiers behind others exactly if they are signs that are neither
repeated nor those of the others. -/
theorem readModifiers_eq_ok_iff
    {seen modifiers : Modifiers}
    {arguments : List Token} :
    readModifiers command seen arguments = .ok modifiers ↔
      ∃ signs : List Modifier, arguments = signs.map Token.ofSign ∧ signs.Nodup ∧
        (∀ modifier ∈ signs, seen.has modifier = false) ∧
        ∀ modifier, modifiers.has modifier = true ↔
          seen.has modifier = true ∨ modifier ∈ signs := by
  constructor
  · intro read
    induction arguments generalizing seen with
    | nil =>
        cases read
        exact ⟨[], rfl, List.nodup_nil, by simp, by simp⟩
    | cons token rest hypothesis =>
        rw [readModifiers] at read
        split at read
        · cases read
        · next modifier found =>
            split at read
            · cases read
            · next fresh =>
                obtain ⟨signs, rfl, distinct, unseen, complete⟩ := hypothesis read
                simp only [Modifiers.has_insert, Bool.or_eq_false_iff,
                  decide_eq_false_iff_not] at unseen
                refine ⟨modifier :: signs, ?_, ?_, ?_, ?_⟩
                · rw [Token.modifier?_eq_some_iff.1 found, List.map_cons]
                · rw [List.nodup_cons]
                  exact ⟨fun inside => (unseen modifier inside).2 rfl, distinct⟩
                · rw [List.forall_mem_cons]
                  exact ⟨by simpa using fresh, fun other inside => (unseen other inside).1⟩
                · intro other
                  rw [complete, Modifiers.has_insert, List.mem_cons, Bool.or_eq_true,
                    decide_eq_true_eq, or_assoc, @eq_comm _ other modifier]
  · rintro ⟨signs, rfl, distinct, fresh, complete⟩
    exact readModifiers_ofSign distinct fresh complete

/-- Tokens are read as a set of modifiers exactly if they are its signs. -/
theorem readModifiers_none_eq_ok_iff
    {modifiers : Modifiers}
    {arguments : List Token} :
    readModifiers command .none arguments = .ok modifiers ↔
      ∃ signs : List Modifier, arguments = signs.map Token.ofSign ∧
        modifiers.SignedBy signs := by
  rw [readModifiers_eq_ok_iff]
  constructor
  · rintro ⟨signs, shape, distinct, _, complete⟩
    exact ⟨signs, shape, distinct, by simpa using complete⟩
  · rintro ⟨signs, shape, distinct, complete⟩
    exact ⟨signs, shape, distinct, fun modifier _ => Modifiers.has_none modifier,
      by simpa using complete⟩

theorem readOnly_eq_ok_iff
    {name text value : Text} :
    readOnly scope command name text = .ok value ↔ IsArgument scope text value := by
  simp only [readOnly, do_eq_ok_iff]
  constructor
  · rintro ⟨arguments, found, ⟨token, extra⟩, taken, ⟨⟩, nothing, valued⟩
    rw [takeArgument_eq_ok_iff.1 taken, rejectExtra_eq_ok_iff.1 nothing] at found
    exact ⟨token, tokens_eq_ok_iff.1 found, value_eq_ok_iff.1 valued⟩
  · rintro ⟨token, found, valued⟩
    exact ⟨[token], tokens_eq_ok_iff.2 found, (token, []), rfl, (), rfl,
      value_eq_ok_iff.2 valued⟩

theorem readAssignment_eq_ok_iff
    {text name value : Text} :
    readAssignment scope command text = .ok (name, value) ↔ Assigns scope text name value := by
  rw [readAssignment]
  constructor
  · intro read
    split at read
    · cases read
    · next front back split =>
        obtain ⟨rfl, first⟩ := Text.splitFirst?_eq_some_iff.1 split
        simp only at read
        split at read
        · next named =>
            obtain ⟨_, argument, same⟩ := map_eq_ok_iff.1 read
            cases same
            exact .intro first named (readOnly_eq_ok_iff.1 argument)
        · cases read
  · rintro ⟨first, named, argument⟩
    rw [Text.splitFirst?_eq_some_iff.2 ⟨rfl, first⟩]
    simp only [named, if_true, readOnly_eq_ok_iff.2 argument, ok_map]

/-! ## Assertions -/

/-- What the texts behind an assertion command ask for.  A header assertion is left out,
whose one text can come from two tokens. -/
inductive Asks : AssertionCommand → List Text → Expectation → Prop
  | statusCode
      {text : Text} {code : Nat}
      (denotes : text.Denotes code)
      (bounded : code ≤ statusCodeLimit) :
      Asks .statusCode [text] (.statusCode code)
  | contains {text : Text} : Asks .contains [text] (.contains text)
  | containsNot {text : Text} : Asks .containsNot [text] (.containsNot text)
  | equals {text : Text} : Asks .equals [text] (.equals text)
  | empty : Asks .empty [] .empty

theorem readStatusCode_eq_ok_iff
    {text : Text}
    {code : Nat} :
    readStatusCode text = .ok code ↔ text.Denotes code ∧ code ≤ statusCodeLimit := by
  rw [readStatusCode, mapError_eq_ok_iff, Text.readNumber_eq_ok_iff]

/-- Where one text and signs of modifiers are read, there is one token with that text, and
the signs follow it. -/
theorem readText_eq_ok_iff
    {name : Text}
    {build : Text → Except LineError Expectation}
    {arguments : List Token}
    {statement : Statement} :
    (do
      let (argument, extra) <- takeArgument command name arguments
      let modifiers <- readModifiers command .none extra
      let text <- value scope argument
      let expectation <- build text
      return expect expectation modifiers) = Except.ok statement ↔
      ∃ (token : Token) (text : Text) (signs : List Modifier) (expectation : Expectation)
        (modifiers : Modifiers),
        arguments = token :: signs.map Token.ofSign ∧ token.HasValue scope text ∧
        build text = .ok expectation ∧ modifiers.SignedBy signs ∧
        statement = .expect expectation modifiers := by
  simp only [do_eq_ok_iff]
  constructor
  · rintro ⟨⟨token, extra⟩, taken, modifiers, read, text, valued, expectation, built, same⟩
    obtain ⟨signs, shape, signed⟩ := readModifiers_none_eq_ok_iff.1 read
    cases same
    refine ⟨token, text, signs, expectation, modifiers, ?_, value_eq_ok_iff.1 valued, built,
      signed, rfl⟩
    rw [takeArgument_eq_ok_iff.1 taken, ← shape]
  · rintro ⟨token, text, signs, expectation, modifiers, rfl, valued, built, signed, rfl⟩
    exact ⟨(token, signs.map Token.ofSign), rfl, modifiers, readModifiers_of_signedBy signed,
      text, value_eq_ok_iff.2 valued, expectation, built, rfl⟩

/-- Tokens are read as an assertion exactly if they have the texts that ask for it, followed
by the signs of its modifiers. -/
theorem readExpectation_eq_ok_iff
    {kind : AssertionCommand}
    {arguments : List Token}
    {statement : Statement}
    (noHeader : kind ≠ .header) :
    readExpectation scope kind arguments = .ok statement ↔
      ∃ (positional : List Token) (texts : List Text) (signs : List Modifier)
        (expectation : Expectation) (modifiers : Modifiers),
        arguments = positional ++ signs.map Token.ofSign ∧
        List.Forall₂ (Token.HasValue scope) positional texts ∧
        Asks kind texts expectation ∧ modifiers.SignedBy signs ∧
        statement = .expect expectation modifiers := by
  constructor
  · intro found
    cases kind with
    | statusCode =>
        obtain ⟨token, text, signs, expectation, modifiers, rfl, valued, built, signed, rfl⟩ :=
          readText_eq_ok_iff.1 found
        obtain ⟨code, number, rfl⟩ := map_eq_ok_iff.1 built
        obtain ⟨denotes, bounded⟩ := readStatusCode_eq_ok_iff.1 number
        exact ⟨[token], [text], signs, .statusCode code, modifiers, rfl, .cons valued .nil,
          .statusCode denotes bounded, signed, rfl⟩
    | contains =>
        obtain ⟨token, text, signs, _, modifiers, rfl, valued, ⟨⟩, signed, rfl⟩ :=
          readText_eq_ok_iff.1 found
        exact ⟨[token], [text], signs, .contains text, modifiers, rfl, .cons valued .nil,
          .contains, signed, rfl⟩
    | containsNot =>
        obtain ⟨token, text, signs, _, modifiers, rfl, valued, ⟨⟩, signed, rfl⟩ :=
          readText_eq_ok_iff.1 found
        exact ⟨[token], [text], signs, .containsNot text, modifiers, rfl, .cons valued .nil,
          .containsNot, signed, rfl⟩
    | equals =>
        obtain ⟨token, text, signs, _, modifiers, rfl, valued, ⟨⟩, signed, rfl⟩ :=
          readText_eq_ok_iff.1 found
        exact ⟨[token], [text], signs, .equals text, modifiers, rfl, .cons valued .nil,
          .equals, signed, rfl⟩
    | empty =>
        obtain ⟨modifiers, read, same⟩ := do_eq_ok_iff.1 found
        obtain ⟨signs, rfl, signed⟩ := readModifiers_none_eq_ok_iff.1 read
        cases same
        exact ⟨[], [], signs, .empty, modifiers, rfl, .nil, .empty, signed, rfl⟩
    | header => exact absurd rfl noHeader
  · rintro ⟨positional, texts, signs, expectation, modifiers, rfl, valued, asks, signed, rfl⟩
    cases asks with
    | statusCode denotes bounded =>
        obtain ⟨token, rfl, single⟩ := forall₂_singleton_iff.1 valued
        have number := readStatusCode_eq_ok_iff.2 ⟨denotes, bounded⟩
        exact readText_eq_ok_iff.2 ⟨token, _, signs, _, modifiers, rfl, single,
          map_eq_ok_iff.2 ⟨_, number, rfl⟩, signed, rfl⟩
    | contains | containsNot | equals =>
        obtain ⟨token, rfl, single⟩ := forall₂_singleton_iff.1 valued
        exact readText_eq_ok_iff.2
          ⟨token, _, signs, _, modifiers, rfl, single, rfl, signed, rfl⟩
    | empty =>
        cases valued
        exact do_eq_ok_iff.2 ⟨modifiers, readModifiers_of_signedBy signed, rfl⟩

/-! ## Request modifiers -/

/-- Where two texts are read, there are two tokens with these texts. -/
theorem readTwo_eq_ok_iff
    {first second : Text}
    {build : Text → Text → Change}
    {arguments : List Token}
    {statement : Statement} :
    (do
      let (nameToken, rest) <- takeArgument command first arguments
      let (valueToken, extra) <- takeArgument command second rest
      rejectExtra command extra
      let name <- value scope nameToken
      let text <- value scope valueToken
      return change (build name text)) = Except.ok statement ↔
      ∃ name text, List.Forall₂ (Token.HasValue scope) arguments [name, text] ∧
        statement = .change (build name text) := by
  simp only [do_eq_ok_iff]
  constructor
  · rintro ⟨⟨nameToken, rest⟩, taken, ⟨valueToken, extra⟩, takenNext, ⟨⟩, nothing, name,
      named, text, valued, same⟩
    cases same
    refine ⟨name, text, ?_, rfl⟩
    rw [takeArgument_eq_ok_iff.1 taken, takeArgument_eq_ok_iff.1 takenNext,
      rejectExtra_eq_ok_iff.1 nothing]
    exact .cons (value_eq_ok_iff.1 named) (.cons (value_eq_ok_iff.1 valued) .nil)
  · rintro ⟨name, text, valued, rfl⟩
    obtain ⟨nameToken, rest, named, others, rfl⟩ := List.forall₂_cons_right_iff.1 valued
    obtain ⟨valueToken, rfl, single⟩ := forall₂_singleton_iff.1 others
    exact ⟨(nameToken, [valueToken]), rfl, (valueToken, []), rfl, (), rfl, name,
      value_eq_ok_iff.2 named, text, value_eq_ok_iff.2 single, rfl⟩

/-- Tokens are read as a change of the request exactly if they have the texts of that
change. -/
theorem readChange_eq_ok_iff
    {kind : ModifierCommand}
    {arguments : List Token}
    {statement : Statement}
    (noHeader : kind ≠ .header) :
    readChange scope kind arguments = .ok statement ↔
      ∃ wanted : Change, wanted.command = .modifier kind ∧
        List.Forall₂ (Token.HasValue scope) arguments wanted.arguments ∧
        statement = .change wanted := by
  constructor
  · intro found
    cases kind with
    | header => exact absurd rfl noHeader
    | parameter =>
        obtain ⟨name, text, valued, rfl⟩ := readTwo_eq_ok_iff.1 found
        exact ⟨.parameter name text, rfl, valued, rfl⟩
    | file =>
        obtain ⟨name, path, valued, rfl⟩ := readTwo_eq_ok_iff.1 found
        exact ⟨.file name path, rfl, valued, rfl⟩
    | raw =>
        simp only [readChange, do_eq_ok_iff] at found
        obtain ⟨⟨token, extra⟩, taken, ⟨⟩, nothing, content, valued, same⟩ := found
        cases same
        refine ⟨.raw content, rfl, ?_, rfl⟩
        rw [takeArgument_eq_ok_iff.1 taken, rejectExtra_eq_ok_iff.1 nothing]
        exact .cons (value_eq_ok_iff.1 valued) .nil
  · rintro ⟨wanted, known, valued, rfl⟩
    cases wanted with
    | header line =>
        cases known
        exact absurd rfl noHeader
    | parameter name text =>
        cases known
        exact readTwo_eq_ok_iff.2 ⟨name, text, valued, rfl⟩
    | file name path =>
        cases known
        exact readTwo_eq_ok_iff.2 ⟨name, path, valued, rfl⟩
    | raw content =>
        cases known
        obtain ⟨token, rfl, single⟩ := forall₂_singleton_iff.1 valued
        exact do_eq_ok_iff.2 ⟨(token, []), rfl, do_eq_ok_iff.2 ⟨(), rfl,
          do_eq_ok_iff.2 ⟨content, value_eq_ok_iff.2 single, rfl⟩⟩⟩

/-! ## Statements -/

/-- The statement that a command makes of what follows its keyword, one rule for each form
of statements. -/
inductive Makes (scope : Variables) : Command → Text → Statement → Prop
  | request
      {method : Method} {rest address : Text}
      (argument : IsArgument scope rest address) :
      Makes scope (.request method) rest (.request method address)
  | set
      {rest name value : Text}
      (assigns : Assigns scope rest name value) :
      Makes scope .set rest (.set name value)
  | setDefault
      {rest name value : Text}
      (assigns : Assigns scope rest name value) :
      Makes scope .setDefault rest (.setDefault name value)
  | expect
      {kind : AssertionCommand} {rest : Text}
      {positional : List Token} {texts : List Text} {signs : List Modifier}
      {expectation : Expectation} {modifiers : Modifiers}
      (found : tokenize rest = .ok (positional ++ signs.map Token.ofSign))
      (valued : List.Forall₂ (Token.HasValue scope) positional texts)
      (asks : Asks kind texts expectation)
      (signed : modifiers.SignedBy signs) :
      Makes scope (.assertion kind) rest (.expect expectation modifiers)
  | change
      {kind : ModifierCommand} {rest : Text} {arguments : List Token} {wanted : Change}
      (known : wanted.command = .modifier kind)
      (found : tokenize rest = .ok arguments)
      (valued : List.Forall₂ (Token.HasValue scope) arguments wanted.arguments) :
      Makes scope (.modifier kind) rest (.change wanted)

/-- Commands other than those of headers make exactly these statements. -/
theorem read_eq_ok_iff
    {rest : Text}
    {statement : Statement}
    (noAssertion : command ≠ .assertion .header)
    (noModifier : command ≠ .modifier .header) :
    read scope command rest = .ok statement ↔ Makes scope command rest statement := by
  constructor
  · intro found
    cases command with
    | request method =>
        obtain ⟨address, argument, rfl⟩ := map_eq_ok_iff.1 found
        exact .request (readOnly_eq_ok_iff.1 argument)
    | set =>
        obtain ⟨⟨name, value⟩, assigned, rfl⟩ := map_eq_ok_iff.1 found
        exact .set (readAssignment_eq_ok_iff.1 assigned)
    | setDefault =>
        obtain ⟨⟨name, value⟩, assigned, rfl⟩ := map_eq_ok_iff.1 found
        exact .setDefault (readAssignment_eq_ok_iff.1 assigned)
    | assertion kind =>
        have noHeader : kind ≠ .header := fun same => noAssertion (congrArg _ same)
        obtain ⟨arguments, tokenized, expected⟩ := bind_eq_ok_iff.1 found
        obtain ⟨positional, texts, signs, expectation, modifiers, rfl, valued, asks, signed,
          rfl⟩ := (readExpectation_eq_ok_iff noHeader).1 expected
        exact .expect (tokens_eq_ok_iff.1 tokenized) valued asks signed
    | modifier kind =>
        have noHeader : kind ≠ .header := fun same => noModifier (congrArg _ same)
        obtain ⟨arguments, tokenized, changed⟩ := bind_eq_ok_iff.1 found
        obtain ⟨wanted, known, valued, rfl⟩ := (readChange_eq_ok_iff noHeader).1 changed
        exact .change known (tokens_eq_ok_iff.1 tokenized) valued
  · intro makes
    cases makes with
    | request argument =>
        exact map_eq_ok_iff.2 ⟨_, readOnly_eq_ok_iff.2 argument, rfl⟩
    | set assigns | setDefault assigns =>
        exact map_eq_ok_iff.2 ⟨_, readAssignment_eq_ok_iff.2 assigns, rfl⟩
    | @expect kind _ positional texts signs expectation modifiers found valued asks signed =>
        have noHeader : kind ≠ .header := fun same => noAssertion (congrArg _ same)
        have expected := (readExpectation_eq_ok_iff noHeader).2
          ⟨positional, texts, signs, expectation, modifiers, rfl, valued, asks, signed, rfl⟩
        exact bind_eq_ok_iff.2 ⟨_, tokens_eq_ok_iff.2 found, expected⟩
    | @change kind _ arguments wanted known found valued =>
        have noHeader : kind ≠ .header := fun same => noModifier (congrArg _ same)
        have changed := (readChange_eq_ok_iff noHeader).2 ⟨wanted, known, valued, rfl⟩
        exact bind_eq_ok_iff.2 ⟨_, tokens_eq_ok_iff.2 found, changed⟩

end Statement
end PageCheck
