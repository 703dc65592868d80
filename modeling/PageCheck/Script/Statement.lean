import PageCheck.Script.LineError
import PageCheck.Text.Number

/-!
# Statements

A statement is what a line says once its arguments have their values: a command
with plain texts.  It is read from the tokens of the line from left to right.
-/

namespace PageCheck

/-- What an assertion line asks for. -/
inductive Expectation
  | statusCode (code : Nat)
  | contains (text : Text)
  | containsNot (text : Text)
  | equals (text : Text)
  | empty
  | header (argument : Text)
deriving DecidableEq, Repr

/-- What a request modifier line asks for. -/
inductive Change
  | header (line : Text)
  | parameter (name value : Text)
  | file (name path : Text)
  | raw (content : Text)
deriving DecidableEq, Repr

/-- What a line says. -/
inductive Statement
  | request (method : Method) (address : Text)
  | set (name value : Text)
  | setDefault (name value : Text)
  | expect (expectation : Expectation) (modifiers : Modifiers)
  | change (change : Change)
deriving DecidableEq, Repr

namespace Statement

/-! ## Arguments -/

/-- The tokens of the arguments of a command. -/
def tokens (text : Text) : Except LineError (List Token) :=
  (tokenize text).mapError .token

/-- The value of a token. -/
def value (scope : Variables) (token : Token) : Except LineError Text :=
  (Value.resolve scope token.raw).mapError .ofValueError

/-- Takes the argument with a name off the front of tokens. -/
def takeArgument (command : Command) (name : Text) :
    List Token → Except LineError (Token × List Token)
  | [] => .error (.argumentMissing name command)
  | token :: rest => .ok (token, rest)

/-- Refuses any token that is left. -/
def rejectExtra (command : Command) : List Token → Except LineError Unit
  | [] => .ok ()
  | token :: _ => .error (.argumentExtra token.raw command)

/-- Reads modifiers behind those that have been read. -/
def readModifiers (command : Command) (seen : Modifiers) :
    List Token → Except LineError Modifiers
  | [] => .ok seen
  | token :: rest =>
      match token.modifier? with
      | none => .error (.argumentExtra token.raw command)
      | some modifier =>
          if seen.has modifier then
            .error (.modifierRepeated token.raw command)
          else
            readModifiers command (seen.insert modifier) rest

/-- Reads a header argument and gives back the tokens behind it.  A value that
ends with a colon goes on in the next token, unless that one is a modifier where
modifiers are allowed. -/
def readHeader (scope : Variables) (allowsModifiers : Bool) (first : Token)
    (rest : List Token) : Except LineError (Text × List Token) := do
  let header <- value scope first
  match rest with
  | second :: behind =>
      if header.getLast? = some ':' ∧ !(allowsModifiers && second.modifier?.isSome) then
        let continuation <- value scope second
        return (header ++ [' '] ++ continuation, behind)
      else
        return (header, rest)
  | [] => return (header, rest)

/-! ## Lines -/

/-- The greatest number that is read as a status code. -/
def statusCodeLimit : Nat := 65535

/-- Reads the number of a status code. -/
def readStatusCode (text : Text) : Except LineError Nat :=
  (Text.readNumber statusCodeLimit text).mapError fun _ => .statusCodeInvalid text

/-- Reads the arguments of an assertion command. -/
def readExpectation (scope : Variables) (kind : AssertionCommand)
    (arguments : List Token) : Except LineError Statement := do
  let command := Command.assertion kind
  let withText (name : Text) (build : Text → Except LineError Expectation) :
      Except LineError Statement := do
    let (argument, extra) <- takeArgument command name arguments
    let modifiers <- readModifiers command .none extra
    let text <- value scope argument
    let expectation <- build text
    return .expect expectation modifiers
  match kind with
  | .statusCode => withText "status code" fun text => (readStatusCode text).map .statusCode
  | .contains => withText "text" fun text => .ok (.contains text)
  | .containsNot => withText "text" fun text => .ok (.containsNot text)
  | .equals => withText "text" fun text => .ok (.equals text)
  | .empty =>
      let modifiers <- readModifiers command .none arguments
      return .expect .empty modifiers
  | .header =>
      let (argument, extra) <- takeArgument command "header" arguments
      let (header, behind) <- readHeader scope true argument extra
      let modifiers <- readModifiers command .none behind
      return .expect (.header header) modifiers

/-- Reads the arguments of a request modifier command. -/
def readChange (scope : Variables) (kind : ModifierCommand) (arguments : List Token) :
    Except LineError Statement := do
  let command := Command.modifier kind
  let withTwo (second : Text) (build : Text → Text → Change) :
      Except LineError Statement := do
    let (nameToken, rest) <- takeArgument command "name" arguments
    let (valueToken, extra) <- takeArgument command second rest
    rejectExtra command extra
    let name <- value scope nameToken
    let text <- value scope valueToken
    return .change (build name text)
  match kind with
  | .header =>
      let (argument, extra) <- takeArgument command "header" arguments
      let (line, behind) <- readHeader scope false argument extra
      rejectExtra command behind
      return .change (.header line)
  | .parameter => withTwo "value" .parameter
  | .file => withTwo "path" .file
  | .raw =>
      let (argument, extra) <- takeArgument command "content" arguments
      rejectExtra command extra
      let content <- value scope argument
      return .change (.raw content)

/-- Reads the one argument of a command. -/
def readOnly (scope : Variables) (command : Command) (name text : Text) :
    Except LineError Text := do
  let arguments <- tokens text
  let (argument, extra) <- takeArgument command name arguments
  rejectExtra command extra
  value scope argument

/-- Reads the name and the value behind a command that sets a variable. -/
def readAssignment (scope : Variables) (command : Command) (text : Text) :
    Except LineError (Text × Text) :=
  match Text.splitFirst? '=' text with
  | none => .error (.equalsMissing command)
  | some (front, back) =>
      let name := Text.trim front
      if Variables.isName name then
        (readOnly scope command "value" back).map fun value => (name, value)
      else
        .error (.variableInvalid name)

/-- Reads what follows the keyword of a command. -/
def read (scope : Variables) (command : Command) (text : Text) :
    Except LineError Statement :=
  match command with
  | .request method => (readOnly scope command "URL" text).map (.request method)
  | .set => (readAssignment scope command text).map fun pair => .set pair.1 pair.2
  | .setDefault =>
      (readAssignment scope command text).map fun pair => .setDefault pair.1 pair.2
  | .assertion kind => (tokens text).bind (readExpectation scope kind)
  | .modifier kind => (tokens text).bind (readChange scope kind)

end Statement
end PageCheck
