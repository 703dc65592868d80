import PageCheck.BuildError
import PageCheck.Location
import PageCheck.Script.Command
import PageCheck.Script.Value

/-!
# Errors of lines

Why a line of a test file is refused.  Every cause belongs to one kind, and kinds
have a label.
-/

namespace PageCheck

/-- The kinds of errors that reports tell apart. -/
inductive ErrorKind
  | syntaxError
  | invalidArgument
  | extraArgument
  | missingVariable
  | invalidVariable
  | duplicateModifier
  | invalidModifier
  | invalidRequestModifier
deriving DecidableEq, Repr

/-- The label of a kind of errors. -/
def ErrorKind.label : ErrorKind → Text
  | .syntaxError => "Syntax error"
  | .invalidArgument => "Invalid argument"
  | .extraArgument => "Extra argument"
  | .missingVariable => "Missing variable"
  | .invalidVariable => "Invalid variable"
  | .duplicateModifier => "Duplicate modifier"
  | .invalidModifier => "Invalid modifier"
  | .invalidRequestModifier => "Invalid request modifier"

/-- Why a line is refused. -/
inductive LineError
  | unknownCommand (keyword : Text)
  | requestMissing (command : Command)
  | equalsMissing (command : Command)
  | token (error : TokenError)
  | argumentMissing (name : Text) (command : Command)
  | argumentExtra (raw : Text) (command : Command)
  | modifierRepeated (raw : Text) (command : Command)
  | variableMissing (name : Text)
  | variableInvalid (name : Text)
  | urlInvalid (text : Text) (error : Url.Error)
  | statusCodeInvalid (text : Text)
  | build (error : BuildError)
deriving DecidableEq, Repr

namespace LineError

/-- The error of a token without a value. -/
def ofValueError : ValueError → LineError
  | .missingVariable name => .variableMissing name
  | .token error => .token error

/-- The kind of a broken rule. -/
def kindOfBuildError : BuildError → ErrorKind
  | .modifiersNotAllowed _ _ => .invalidModifier
  | .incompatible _ _ => .invalidRequestModifier
  | .methodNotAllowed _ _ => .invalidRequestModifier
  | _ => .invalidArgument

/-- The kind of an error. -/
def kind : LineError → ErrorKind
  | .unknownCommand _ => .syntaxError
  | .requestMissing _ => .syntaxError
  | .equalsMissing _ => .syntaxError
  | .token _ => .syntaxError
  | .argumentMissing _ _ => .invalidArgument
  | .argumentExtra _ _ => .extraArgument
  | .modifierRepeated _ _ => .duplicateModifier
  | .variableMissing _ => .missingVariable
  | .variableInvalid _ => .invalidVariable
  | .urlInvalid _ _ => .invalidArgument
  | .statusCodeInvalid _ => .invalidArgument
  | .build error => kindOfBuildError error

/-- The wording of an error, without its label. -/
def message : LineError → Text
  | .unknownCommand keyword => "Invalid command " ++ keyword ++ "."
  | .requestMissing command =>
      "Command " ++ command.keyword ++ " must follow a request command."
  | .equalsMissing command => "Missing \"=\" in " ++ command.keyword ++ " command."
  | .token error => error.message
  | .argumentMissing name command =>
      "Missing argument " ++ name ++ " for " ++ command.keyword ++ "."
  | .argumentExtra raw command =>
      "Unexpected argument " ++ raw ++ " for " ++ command.keyword ++ "."
  | .modifierRepeated raw command =>
      "Modifier " ++ raw ++ " given more than once for " ++ command.keyword ++ "."
  | .variableMissing name => (ValueError.missingVariable name).message
  | .variableInvalid name => "Invalid variable name " ++ Text.inQuotes name ++ "."
  | .urlInvalid text error =>
      "Invalid URL " ++ Text.inQuotes text ++ ": " ++ error.message ++ "."
  | .statusCodeInvalid text => "Invalid status code " ++ Text.inQuotes text ++ "."
  | .build error => error.message

end LineError

/-- An error with the line that it is about. -/
structure ParseError where
  location : Location
  cause : LineError
deriving DecidableEq, Repr

/-- The written form of an error: its place, its label and its wording. -/
def ParseError.toText (error : ParseError) : Text :=
  error.location.toText ++ ": " ++ error.cause.kind.label ++ ": " ++ error.cause.message

end PageCheck
