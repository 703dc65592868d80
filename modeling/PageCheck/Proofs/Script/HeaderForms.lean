import PageCheck.Proofs.Assertion.Headers
import PageCheck.Proofs.Script.Quotes
import PageCheck.Proofs.Script.WrittenLines

/-!
# Ways to write a header

The name and the value of a header are written as one token in quotes, as the name with its
colon in front of the value in quotes, or as one bare word.  In each way they are read as an
argument that is split into this name and this value again, and nothing else of the argument
shows in what the line does.
-/

namespace PageCheck

open Results

/-! ## Names and values in tokens -/

namespace Header

/-- A name and a value that can be written in every way: the name is one word, which no colon ends
early and no quote starts, the value has nothing to trim, and neither refers to a variable. -/
structure Spellable (name value : Text) : Prop where
  named : name ≠ []
  visible : ∀ c ∈ name, Text.isBlank c = false
  noColon : ':' ∉ name
  unquoted : Token.startsWithQuote name = false
  nameLiteral : ¬ Value.HasReference name
  filled : value ≠ []
  trimmed : Text.IsTrimmed value
  valueLiteral : ¬ Value.HasReference value

/-- The ways to write a name and a value as the tokens of an argument.  Only a value without a
blank can be written without quotes. -/
inductive Spells (name value : Text) : List Token → Prop
  | whole :
      Spells name value [Token.ofText (name ++ ": " ++ value)]
  | parted :
      Spells name value [⟨name ++ [':'], false⟩, Token.ofText value]
  | bare
      (visible : ∀ c ∈ value, Text.isBlank c = false) :
      Spells name value [⟨name ++ ':' :: value, false⟩]

variable {name value back : Text} {tokens : List Token} {scope : Variables}

namespace Spellable

/-- The name with its colon starts a bare word. -/
theorem wellFormed_word
    (spellable : Spellable name value)
    (visible : ∀ c ∈ back, Text.isBlank c = false) :
    Token.WellFormed ⟨name ++ ':' :: back, false⟩ := by
  refine .bare (by simp) ?_ ?_
  · intro c inside
    rcases List.mem_append.1 inside with inName | later
    · exact spellable.visible c inName
    · rcases List.mem_cons.1 later with rfl | inBack
      · decide
      · exact visible c inBack
  · rw [Token.startsWithQuote_append spellable.named, spellable.unquoted]

/-- The colon keeps references from reaching from the name into what follows. -/
theorem not_hasReference
    (spellable : Spellable name value)
    (literal : ¬ Value.HasReference back) :
    ¬ Value.HasReference (name ++ ':' :: back) :=
  Value.not_hasReference_append_cons spellable.nameLiteral literal (by decide) (by decide)

/-- Such a word is its own value. -/
theorem value_word
    (spellable : Spellable name value)
    (visible : ∀ c ∈ back, Text.isBlank c = false)
    (literal : ¬ Value.HasReference back)
    (scope : Variables) :
    Statement.value scope ⟨name ++ ':' :: back, false⟩ = .ok (name ++ ':' :: back) := by
  have resolved := Token.StandsFor.bare.resolve_eq (spellable.wellFormed_word visible) scope
  rw [Statement.value, resolved,
    Value.substitute_eq_self (spellable.not_hasReference literal), ok_mapError]

/-- The name and the value are the parts of any line that has the value behind the colon. -/
theorem split_eq
    (spellable : Spellable name value)
    (valued : Text.trim back = value) :
    split (name ++ ':' :: back) = (name, value) := by
  rw [split_append_cons spellable.noColon, valued,
    (Text.isTrimmed_of_visible spellable.visible).trim_eq]

end Spellable

namespace Spells

/-- What is written in one of the ways can be read token by token. -/
theorem standsAlone
    (spells : Spells name value tokens)
    (spellable : Spellable name value) :
    ∀ token ∈ tokens, token.StandsAlone := by
  cases spells with
  | whole =>
      rw [List.forall_mem_singleton]
      exact Token.standsAlone_ofText _
  | parted =>
      rw [List.forall_mem_cons, List.forall_mem_singleton]
      exact ⟨(spellable.wellFormed_word (List.forall_mem_nil _)).standsAlone,
        Token.standsAlone_ofText value⟩
  | bare visible =>
      rw [List.forall_mem_singleton]
      exact (spellable.wellFormed_word visible).standsAlone

/-- So can the signs of modifiers behind it. -/
theorem standsAlone_signed
    (spells : Spells name value tokens)
    (spellable : Spellable name value)
    (signs : List Modifier) :
    ∀ token ∈ tokens ++ signs.map Token.ofSign, token.StandsAlone := by
  rw [List.forall_mem_append, List.forall_mem_map]
  exact ⟨spells.standsAlone spellable, fun sign _ => Token.standsAlone_ofSign sign⟩

/-- In each way the tokens are read as an argument with the name and the value, up to the signs
of modifiers behind them. -/
theorem exists_readHeader
    (spells : Spells name value tokens)
    (spellable : Spellable name value)
    (scope : Variables)
    (allowsModifiers : Bool) :
    ∃ first more header, tokens = first :: more ∧
      ':' ∈ header ∧ split header = (name, value) ∧
      ∀ rest : List Token,
        (∀ second ∈ rest.head?, (allowsModifiers && second.modifier?.isSome) = true) →
        Statement.readHeader scope allowsModifiers first (more ++ rest) = .ok (header, rest) := by
  have blank : Text.isBlank ' ' = true := by decide
  have spaced : Text.trim (' ' :: value) = value := by
    rw [Text.trim_cons_of_isBlank blank, spellable.trimmed.trim_eq]
  have shape : name ++ (": " : Text) ++ value = name ++ ':' :: ' ' :: value := by simp
  cases spells with
  | whole =>
      have literal : ¬ Value.HasReference (name ++ (": " : Text) ++ value) := by
        rw [shape]
        apply spellable.not_hasReference
        exact @Value.not_hasReference_append_cons [] value ' '
          (Value.not_hasReference_of_notMem List.not_mem_nil) spellable.valueLiteral
          (by decide) (by decide)
      refine ⟨_, [], name ++ ": " ++ value, rfl, by simp, ?_, fun rest signs => ?_⟩
      · rw [shape]
        exact spellable.split_eq spaced
      · exact Statement.readHeader_of_value (Statement.value_ofText literal) signs
  | parted =>
      refine ⟨_, [Token.ofText value], name ++ [':'] ++ [' '] ++ value, rfl, by simp, ?_,
        fun rest _ => ?_⟩
      · have joined : name ++ [':'] ++ [' '] ++ value = name ++ ':' :: ' ' :: value := by simp
        rw [joined]
        exact spellable.split_eq spaced
      · -- The value is in quotes, so it is no modifier even if it looks like one.
        have named := spellable.value_word (List.forall_mem_nil _)
          (Value.not_hasReference_of_notMem List.not_mem_nil) scope
        have valued := @Statement.value_ofText scope value spellable.valueLiteral
        exact Statement.readHeader_of_colon named (by simp) rfl valued allowsModifiers
  | bare visible =>
      refine ⟨_, [], name ++ ':' :: value, rfl, by simp, ?_, fun rest signs => ?_⟩
      · exact spellable.split_eq spellable.trimmed.trim_eq
      · exact Statement.readHeader_of_value
          (spellable.value_word visible spellable.valueLiteral scope) signs

end Spells

/-! ## Lines of headers -/

/-- The line that asserts a header, with the signs of its modifiers behind the argument. -/
def assertionLine (argument : List Token) (signs : List Modifier) : Text :=
  Command.write (.assertion .header)
    ((argument ++ signs.map Token.ofSign).map Token.raw)

/-- The line that adds a header to a request. -/
def modifierLine (argument : List Token) : Text :=
  Command.write (.modifier .header) (argument.map Token.raw)

/-- The effect of asserting a header with some modifiers. -/
def assertionEffect (location : Location) (name value : Text) (modifiers : Modifiers) :
    Except LineError Effect :=
  ((Matcher.build value .exact modifiers).map fun matcher =>
    Effect.addAssertion ⟨location, modifiers, .header name (some matcher)⟩).mapError .build

end Header

namespace Statement

open Header (Spells Spellable)

variable {name value text : Text} {tokens : List Token} {scope : Variables}

/-- An argument with a name and a value asks for a header of this name and value. -/
theorem effect_header
    {header : Text}
    (spellable : Spellable name value)
    (parts : Header.split header = (name, value))
    (files : FileSystem)
    (location : Location)
    (modifiers : Modifiers) :
    effect files location (.expect (.header header) modifiers) =
      Header.assertionEffect location name value modifiers := by
  rw [effect, Expectation.build,
    Assertion.header_of_value parts spellable.named spellable.filled, Header.assertionEffect]
  cases Matcher.build value .exact modifiers <;> rfl

/-- An argument with a name and a value adds this header to a request. -/
theorem effect_headerLine
    {header : Text}
    (spellable : Spellable name value)
    (colon : ':' ∈ header)
    (parts : Header.split header = (name, value))
    (files : FileSystem)
    (location : Location) :
    effect files location (.change (.header header)) = .ok (.addModifier (.header name value)) := by
  have taken : RequestModifier.ofHeaderLine header = .ok (.header name value) := by
    rw [RequestModifier.ofHeaderLine_eq_ok_iff, parts]
    exact ⟨colon, spellable.named, spellable.visible, rfl⟩
  rw [effect, Change.build, taken]
  rfl

/-- A header assertion does the same in whatever way its argument is written. -/
theorem effect_of_read_assertion
    {signs : List Modifier}
    (spells : Spells name value tokens)
    (spellable : Spellable name value)
    (shown : tokenize text = .ok (tokens ++ signs.map Token.ofSign))
    (files : FileSystem)
    (location : Location) :
    ((read scope (.assertion .header) text).bind fun statement =>
        statement.effect files location) =
      (readModifiers (.assertion .header) .none (signs.map Token.ofSign)).bind
        (Header.assertionEffect location name value) := by
  obtain ⟨first, more, header, rfl, -, parts, reads⟩ :=
    spells.exists_readHeader spellable scope true
  have header_eq := reads (signs.map Token.ofSign) fun _ first =>
    isSome_modifier?_of_mem_head? first
  rw [read, Statement.tokens, shown, ok_mapError, ok_bind, readExpectation]
  simp only [List.cons_append, takeArgument, ok_do, header_eq]
  cases readModifiers (.assertion .header) .none (signs.map Token.ofSign) with
  | error cause => rfl
  | ok modifiers => exact effect_header spellable parts files location modifiers

/-- So does a header modifier. -/
theorem effect_of_read_modifier
    (spells : Spells name value tokens)
    (spellable : Spellable name value)
    (shown : tokenize text = .ok tokens)
    (files : FileSystem)
    (location : Location) :
    ((read scope (.modifier .header) text).bind fun statement =>
        statement.effect files location) =
      .ok (.addModifier (.header name value)) := by
  obtain ⟨first, more, header, rfl, colon, parts, reads⟩ :=
    spells.exists_readHeader spellable scope false
  have header_eq := reads [] (by simp)
  rw [List.append_nil] at header_eq
  rw [read, Statement.tokens, shown, ok_mapError, ok_bind, readChange]
  simp only [takeArgument, ok_do, header_eq, rejectExtra]
  exact effect_headerLine spellable colon parts files location

end Statement

namespace Reader

open Header (Spells Spellable)

variable {files : FileSystem} {path : Text} {number : Nat} {location : Location}
variable {reader : Reader} {testCase : TestCase}
variable {name value : Text} {tokens others : List Token}

/-- The effect of asserting a header does not show how the header is written. -/
theorem lineEffect_assertionLine
    (spells : Spells name value tokens)
    (spellable : Spellable name value)
    (signs : List Modifier) :
    reader.lineEffect files location (Header.assertionLine tokens signs) =
      if reader.current.isMissing then
        .error (.requestMissing (.assertion .header))
      else
        (Statement.readModifiers (.assertion .header) .none (signs.map Token.ofSign)).bind
          (Header.assertionEffect location name value) := by
  have alone := spells.standsAlone_signed spellable signs
  rw [Header.assertionLine, lineEffect_write alone,
    Statement.effect_of_read_assertion spells spellable (tokenize_joinWith alone)]
  rfl

/-- Neither does the effect of adding it to a request. -/
theorem lineEffect_modifierLine
    (spells : Spells name value tokens)
    (spellable : Spellable name value) :
    reader.lineEffect files location (Header.modifierLine tokens) =
      if reader.current.isMissing then
        .error (.requestMissing (.modifier .header))
      else
        .ok (.addModifier (.header name value)) := by
  have alone := spells.standsAlone spellable
  rw [Header.modifierLine, lineEffect_write alone,
    Statement.effect_of_read_modifier spells spellable (tokenize_joinWith alone)]
  rfl

/-- The step over the line of an assertion adds the assertion, if it can be built. -/
theorem step_assertionLine
    {signs : List Modifier}
    {modifiers : Modifiers}
    {matcher : Matcher}
    (spells : Spells name value tokens)
    (spellable : Spellable name value)
    (reading : reader.current = .reading testCase)
    (signed : modifiers.SignedBy signs)
    (built : Matcher.build value .exact modifiers = .ok matcher) :
    reader.step files path (Header.assertionLine tokens signs, number) =
      { reader with
        current := .reading (testCase.addAssertion
          ⟨⟨path, number⟩, modifiers, .header name (some matcher)⟩) } := by
  have present : ¬ reader.current.isMissing = true := by
    rw [reading]
    exact Bool.false_ne_true
  apply step_write (spells.standsAlone_signed spellable signs)
  · rw [← Header.assertionLine, lineEffect_assertionLine spells spellable, if_neg present,
      Statement.readModifiers_of_signedBy signed, ok_bind, Header.assertionEffect, built,
      ok_map, ok_mapError]
  · simp only [apply, reading]

/-- The step over the line of a modifier adds the header to the request. -/
theorem step_modifierLine
    (spells : Spells name value tokens)
    (spellable : Spellable name value)
    (reading : reader.current = .reading testCase) :
    reader.step files path (Header.modifierLine tokens, number) =
      { reader with
        current := .reading
          { testCase with modifiers := testCase.modifiers ++ [.header name value] } } := by
  have present : ¬ reader.current.isMissing = true := by
    rw [reading]
    exact Bool.false_ne_true
  have added : testCase.addModifier (.header name value) =
      .ok { testCase with modifiers := testCase.modifiers ++ [.header name value] } :=
    TestCase.addModifier_eq_ok_iff.2 ⟨rfl, fun _ _ => rfl, rfl⟩
  apply step_write (spells.standsAlone spellable)
  · rw [← Header.modifierLine, lineEffect_modifierLine spells spellable, if_neg present]
  · simp only [apply, reading, added]

/-- The way in which a header is written does not show in the reader: the lines of an assertion
with the same signs behind it lead to the same test cases and errors, and so do the lines of a
modifier.  In an open test case they add the header and its assertion. -/
theorem step_spelled
    (files : FileSystem)
    (path : Text)
    (reader : Reader)
    (number : Nat)
    (spellable : Spellable name value)
    (spells : Spells name value tokens)
    (spellsToo : Spells name value others) :
    (∀ signs : List Modifier,
      reader.step files path (Header.assertionLine tokens signs, number) =
        reader.step files path (Header.assertionLine others signs, number)) ∧
    reader.step files path (Header.modifierLine tokens, number) =
      reader.step files path (Header.modifierLine others, number) ∧
    ∀ testCase : TestCase, reader.current = .reading testCase →
      reader.step files path (Header.modifierLine tokens, number) =
        { reader with
          current := .reading
            { testCase with modifiers := testCase.modifiers ++ [.header name value] } } ∧
      ∀ (signs : List Modifier) (modifiers : Modifiers) (matcher : Matcher),
        modifiers.SignedBy signs → Matcher.build value .exact modifiers = .ok matcher →
        reader.step files path (Header.assertionLine tokens signs, number) =
          { reader with
            current := .reading (testCase.addAssertion
              ⟨⟨path, number⟩, modifiers, .header name (some matcher)⟩) } := by
  refine ⟨fun signs => ?_, ?_, fun testCase reading => ⟨?_, ?_⟩⟩
  · apply step_write_congr (spells.standsAlone_signed spellable signs)
      (spellsToo.standsAlone_signed spellable signs)
    rw [accept, accept, ← Header.assertionLine, ← Header.assertionLine,
      lineEffect_assertionLine spells spellable, lineEffect_assertionLine spellsToo spellable]
  · apply step_write_congr (spells.standsAlone spellable) (spellsToo.standsAlone spellable)
    rw [accept, accept, ← Header.modifierLine, ← Header.modifierLine,
      lineEffect_modifierLine spells spellable, lineEffect_modifierLine spellsToo spellable]
  · exact step_modifierLine spells spellable reading
  · intro signs modifiers matcher signed built
    exact step_assertionLine spells spellable reading signed built

/-- A name with a quote and a value that looks like the sign of a modifier.  Written without
quotes behind a blank, the value would be that modifier. -/
theorem step_spelled_quote_and_sign :
    let name : Text := "X\"Ref"
    let value : Text := "!"
    let modifiers : Modifiers := { negated := true, caseInsensitive := true }
    let matcher : Matcher := ⟨value, .exact, true, none⟩
    let testCase : TestCase := { location := ⟨"t", 1⟩, method := .get, url := default }
    let reader : Reader := { current := .reading testCase }
    let files : FileSystem := (FileNode.directory []).toFileSystem []
    let behind (line : Text) : Reader := reader.step files "t" (line, 2)
    Spellable name value ∧
    behind "assert-header \"X\\\"Ref: !\" ! ~" = behind "assert-header X\"Ref: \"!\" ! ~" ∧
    behind "with-header \"X\\\"Ref: !\"" = behind "with-header X\"Ref:!" ∧
    behind "with-header X\"Ref:!" =
      { reader with
        current := .reading { testCase with modifiers := [.header name value] } } ∧
    behind "assert-header X\"Ref:! ! ~" =
      { reader with
        current := .reading (testCase.addAssertion
          ⟨⟨"t", 2⟩, modifiers, .header name (some matcher)⟩) } := by
  intro name value modifiers matcher testCase reader files behind
  have spellable : Spellable name value :=
    { named := by decide
      visible := Text.visible_of_any_eq_false rfl
      noColon := by decide
      unquoted := rfl
      nameLiteral := Value.not_hasReference_of_notMem (by decide)
      filled := by decide
      trimmed := Text.isTrimmed_of_visible (Text.visible_of_any_eq_false rfl)
      valueLiteral := Value.not_hasReference_of_notMem (by decide) }
  have oneToken := @Spells.whole name value
  have twoTokens := @Spells.parted name value
  have oneWord := @Spells.bare name value (Text.visible_of_any_eq_false rfl)
  have signed : modifiers.SignedBy [.negated, .caseInsensitive] :=
    ⟨by decide, fun modifier => by cases modifier <;> decide⟩
  obtain ⟨assertions, -, -⟩ := step_spelled files "t" reader 2 spellable oneToken twoTokens
  obtain ⟨-, modifiersToo, -⟩ := step_spelled files "t" reader 2 spellable oneToken oneWord
  obtain ⟨-, -, adds⟩ := step_spelled files "t" reader 2 spellable oneWord twoTokens
  obtain ⟨added, asserted⟩ := adds testCase rfl
  exact ⟨spellable, assertions [.negated, .caseInsensitive], modifiersToo, added,
    asserted _ modifiers matcher signed rfl⟩

end Reader
end PageCheck
