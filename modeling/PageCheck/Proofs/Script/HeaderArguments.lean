import PageCheck.Proofs.Script.Arguments
import PageCheck.Proofs.Script.WrittenLines

/-!
# Header arguments of two tokens

The argument of a header command is its first token, and it takes the second one along if its
own text ends with a colon.  Otherwise a second token that is no sign of a modifier is one too
many, and the line leaves nothing but an error.

Only the last character of the text decides, wherever its first colon is.  So a value that ends
with a colon takes the next token along as well, although the argument was complete.
-/

namespace PageCheck

open Results

namespace Statement

variable {scope : Variables} {first : Token} {header : Text} {allowsModifiers : Bool}

/-- The command that takes a header, with modifiers of an assertion behind it or without. -/
def headerCommand (allowsModifiers : Bool) : Command :=
  if allowsModifiers then .assertion .header else .modifier .header

/-- What a header command makes of its whole argument and of the tokens behind it. -/
def ofHeader (allowsModifiers : Bool) (header : Text) (behind : List Token) :
    Except LineError Statement :=
  if allowsModifiers then
    (readModifiers (.assertion .header) .none behind).map (.expect (.header header))
  else
    (rejectExtra (.modifier .header) behind).map fun _ => .change (.header header)

/-- The arguments of a header command are its header argument and what is left behind it. -/
theorem read_headerCommand
    {text : Text}
    {rest : List Token}
    (shown : tokenize text = .ok (first :: rest)) :
    read scope (headerCommand allowsModifiers) text =
      (readHeader scope allowsModifiers first rest).bind fun taken =>
        ofHeader allowsModifiers taken.1 taken.2 := by
  cases allowsModifiers with
  | true =>
      change (tokens text).bind (readExpectation scope .header) = _
      rw [tokens, shown, ok_mapError, ok_bind, readExpectation]
      simp only [takeArgument, ok_do]
      cases readHeader scope true first rest with
      | error cause => rfl
      | ok taken =>
          rw [ok_bind, ok_do, ofHeader, if_pos rfl]
          cases readModifiers (.assertion .header) .none taken.2 <;> rfl
  | false =>
      change (tokens text).bind (readChange scope .header) = _
      rw [tokens, shown, ok_mapError, ok_bind, readChange]
      simp only [takeArgument, ok_do]
      cases readHeader scope false first rest with
      | error cause => rfl
      | ok taken =>
          rw [ok_bind, ok_do, ofHeader, if_neg Bool.false_ne_true]
          cases rejectExtra (.modifier .header) taken.2 <;> rfl

/-- A header argument that does not end with a colon is complete. -/
theorem readHeader_of_complete
    (valued : value scope first = .ok header)
    (complete : header.getLast? ≠ some ':')
    (rest : List Token) :
    readHeader scope allowsModifiers first rest = .ok (header, rest) := by
  rw [readHeader, valued, ok_do]
  cases rest with
  | nil => rfl
  | cons second behind =>
      simp only [complete, false_and, if_false]
      rfl

/-- Behind a whole argument, a token that is no sign of a modifier is one too many. -/
theorem ofHeader_of_plain
    {second : Token}
    (plain : second.modifier? = none)
    (header : Text)
    (behind : List Token) :
    ofHeader allowsModifiers header (second :: behind) =
      .error (.argumentExtra second.raw (headerCommand allowsModifiers)) := by
  cases allowsModifiers with
  | true =>
      rw [ofHeader, if_pos rfl, readModifiers, plain]
      rfl
  | false => rfl

end Statement

namespace Reader

open Statement (headerCommand ofHeader)

variable {reader : Reader} {allowsModifiers : Bool} {line header : Text} {second : Token}
variable {behind : List Token}

/-- A line of a header command behind a request line.  Its first token has a value, and the
second one is no sign of a modifier. -/
structure ShowsHeader (reader : Reader) (allowsModifiers : Bool) (line header : Text)
    (second : Token) (behind : List Token) : Prop where
  met : reader.current.isMissing = false
  keyword_eq : (splitKeyword (Text.trim line)).1 = (headerCommand allowsModifiers).keyword
  tokens : ∃ first : Token, first.HasValue reader.scope header ∧
    tokenize (splitKeyword (Text.trim line)).2 = .ok (first :: second :: behind)
  plain : second.modifier? = none

namespace ShowsHeader

/-- A line with a keyword is not blank. -/
theorem visible
    (shows : reader.ShowsHeader allowsModifiers line header second behind) :
    Text.trim line ≠ [] := by
  intro hollow
  have keyword_eq := shows.keyword_eq
  rw [hollow] at keyword_eq
  exact (headerCommand allowsModifiers).keyword_ne_nil keyword_eq.symm

/-- The keyword of a header command opens no test case. -/
theorem isRequestLine_eq
    (shows : reader.ShowsHeader allowsModifiers line header second behind) :
    isRequestLine (Text.trim line) = false := by
  rw [isRequestLine, shows.keyword_eq, Command.ofKeyword?_keyword]
  cases allowsModifiers <;> rfl

/-- The effect of the line is that of the header argument with what is left behind it. -/
theorem lineEffect_eq
    (shows : reader.ShowsHeader allowsModifiers line header second behind)
    (files : FileSystem)
    (location : Location) :
    ∃ first, Statement.value reader.scope first = .ok header ∧
      reader.lineEffect files location (Text.trim line) =
        ((Statement.readHeader reader.scope allowsModifiers first (second :: behind)).bind
          fun taken => ofHeader allowsModifiers taken.1 taken.2).bind
            fun statement => statement.effect files location := by
  obtain ⟨first, valued, shown⟩ := shows.tokens
  refine ⟨first, Statement.value_eq_ok_iff.2 valued, ?_⟩
  simp only [lineEffect, shows.keyword_eq, Command.ofKeyword?_keyword, shows.met,
    Bool.and_false, Bool.false_eq_true, if_false, Statement.read_headerCommand shown]

/-- Where the text of the first token does not end with a colon, the line has no effect. -/
theorem lineEffect_of_complete
    (shows : reader.ShowsHeader allowsModifiers line header second behind)
    (complete : header.getLast? ≠ some ':')
    (files : FileSystem)
    (location : Location) :
    reader.lineEffect files location (Text.trim line) =
      .error (.argumentExtra second.raw (headerCommand allowsModifiers)) := by
  obtain ⟨first, valued, effect_eq⟩ := shows.lineEffect_eq files location
  rw [effect_eq, Statement.readHeader_of_complete valued complete, ok_bind,
    Statement.ofHeader_of_plain shows.plain]
  rfl

/-- Where it does, the argument goes on in the second token. -/
theorem lineEffect_of_colon
    (shows : reader.ShowsHeader allowsModifiers line header second behind)
    (colon : header.getLast? = some ':')
    (files : FileSystem)
    (location : Location) :
    reader.lineEffect files location (Text.trim line) =
      (Statement.value reader.scope second).bind fun continuation =>
        (ofHeader allowsModifiers (header ++ [' '] ++ continuation) behind).bind
          fun statement => statement.effect files location := by
  obtain ⟨first, valued, effect_eq⟩ := shows.lineEffect_eq files location
  rw [effect_eq]
  cases valuedNext : Statement.value reader.scope second with
  | ok continuation =>
      rw [Statement.readHeader_of_colon valued colon shows.plain valuedNext, ok_bind, ok_bind]
  | error cause =>
      have failed : Statement.readHeader reader.scope allowsModifiers first (second :: behind) =
          .error cause := by
        rw [Statement.readHeader, valued, ok_do]
        simp only [colon, shows.plain, Option.isSome_none, Bool.and_false, Bool.not_false,
          and_self, if_true, valuedNext]
        rfl
      rw [failed]
      rfl

end ShowsHeader

/-- Behind the first token of a header command, a token that is no sign of a modifier is refused
unless the text of the first one ends with a colon: the reader gets an error about it and stays
as it is otherwise.  Only a text that ends with a colon goes on in the second token, with a blank
in between. -/
theorem step_refuses_unless_colon
    (files : FileSystem)
    (path : Text)
    (number : Nat)
    (shows : reader.ShowsHeader allowsModifiers line header second behind) :
    (header.getLast? ≠ some ':' →
      reader.step files path (line, number) =
        { reader with
          errors := reader.errors ++
            [⟨⟨path, number⟩, .argumentExtra second.raw (headerCommand allowsModifiers)⟩] }) ∧
    (header.getLast? = some ':' →
      reader.lineEffect files ⟨path, number⟩ (Text.trim line) =
        (Statement.value reader.scope second).bind fun continuation =>
          (ofHeader allowsModifiers (header ++ [' '] ++ continuation) behind).bind
            fun statement => statement.effect files ⟨path, number⟩) := by
  refine ⟨fun complete => ?_, fun colon => shows.lineEffect_of_colon colon files _⟩
  rw [step_of_lineEffect_error shows.visible (shows.lineEffect_of_complete complete files _),
    refuse_of_not_isRequestLine shows.isRequestLine_eq]

/-- A value that comes from a variable and holds a colon does not take a sign in quotes along.  A
name with nothing behind its colon takes the next token along. -/
theorem step_refuses_unless_colon_value_and_name :
    let testCase : TestCase := { location := ⟨"t", 1⟩, method := .get, url := default }
    let reader : Reader :=
      { scope := Variables.ofList [("V", "a:b")], current := .reading testCase }
    let files : FileSystem := (FileNode.directory []).toFileSystem []
    let valued : Text := "assert-header \"X: \x7bV\x7d\" '~'"
    let named : Text := "with-header X: 12:00"
    reader.ShowsHeader true valued "X: a:b" ⟨"'~'", true⟩ [] ∧
    reader.step files "t" (valued, 2) =
      { reader with errors := [⟨⟨"t", 2⟩, .argumentExtra "'~'" (.assertion .header)⟩] } ∧
    reader.ShowsHeader false named "X:" ⟨"12:00", false⟩ [] ∧
    reader.lineEffect files ⟨"t", 2⟩ (Text.trim named) =
      .ok (.addModifier (.header "X" "12:00")) := by
  intro testCase reader files valued named
  have showsValue : reader.ShowsHeader true valued "X: a:b" ⟨"'~'", true⟩ [] :=
    { met := rfl
      keyword_eq := by decide +kernel
      tokens := ⟨⟨"\"X: \x7bV\x7d\"", true⟩,
        Statement.value_eq_ok_iff.1 (by decide +kernel), by decide +kernel⟩
      plain := rfl }
  have showsName : reader.ShowsHeader false named "X:" ⟨"12:00", false⟩ [] :=
    { met := rfl
      keyword_eq := by decide +kernel
      tokens := ⟨⟨"X:", false⟩, Statement.value_eq_ok_iff.1 (by decide +kernel), by decide +kernel⟩
      plain := rfl }
  have next : Statement.value reader.scope ⟨"12:00", false⟩ = .ok "12:00" := by decide +kernel
  obtain ⟨refused, -⟩ := step_refuses_unless_colon files "t" 2 showsValue
  obtain ⟨-, completed⟩ := step_refuses_unless_colon files "t" 2 showsName
  refine ⟨showsValue, refused (by decide), showsName, ?_⟩
  rw [completed (by decide), next]
  rfl

/-- A value that is there already and ends with a colon takes the next token along, and the
request gets a header that no argument says. -/
theorem not_refuses_value_with_colon :
    let testCase : TestCase := { location := ⟨"t", 1⟩, method := .get, url := default }
    let reader : Reader := { current := .reading testCase }
    let files : FileSystem := (FileNode.directory []).toFileSystem []
    let line : Text := "with-header X:a: b"
    let second : Token := ⟨"b", false⟩
    reader.ShowsHeader false line ("X" ++ ':' :: "a:") second [] ∧
    ':' ∉ ("X" : Text) ∧ Text.trim "a:" ≠ [] ∧
    reader.step files "t" (line, 2) =
      { reader with
        current := .reading { testCase with modifiers := [.header "X" "a: b"] } } ∧
    reader.step files "t" (line, 2) ≠
      { reader with
        errors := [⟨⟨"t", 2⟩, .argumentExtra second.raw (.modifier .header)⟩] } := by
  intro testCase reader files line second
  have shows : reader.ShowsHeader false line ("X" ++ ':' :: "a:") second [] :=
    { met := rfl
      keyword_eq := by decide +kernel
      tokens := ⟨⟨"X:a:", false⟩, Statement.value_eq_ok_iff.1 (by decide +kernel),
        by decide +kernel⟩
      plain := rfl }
  have next : Statement.value reader.scope second = .ok "b" := by decide +kernel
  have found : reader.lineEffect files ⟨"t", 2⟩ (Text.trim line) =
      .ok (.addModifier (.header "X" "a: b")) := by
    rw [shows.lineEffect_of_colon (by decide), next]
    rfl
  have taken : reader.step files "t" (line, 2) =
      { reader with
        current := .reading { testCase with modifiers := [.header "X" "a: b"] } } :=
    step_of_apply shows.visible found rfl
  refine ⟨shows, by decide, by decide, taken, ?_⟩
  rw [taken]
  intro same
  cases congrArg errors same

end Reader
end PageCheck
