import PageCheck.Text.Number

/-!
# Errors of command lines

Why a command line is refused.  Asking for help or for the version also ends the
reading of a command line, but is no failure.
-/

namespace PageCheck
namespace CommandLine

/-- The options that take a value. -/
inductive Setting
  | assignment
  | timeout
deriving DecidableEq, Repr

namespace Setting

/-- All options that take a value. -/
def all : List Setting := [.assignment, .timeout]

/-- The name of an option that takes a value. -/
def name : Setting → Text
  | .assignment => "set"
  | .timeout => "timeout"

/-- What messages write in the place of a value. -/
def placeholder : Setting → Text
  | .assignment => "NAME=VALUE"
  | .timeout => "SECONDS"

/-- The name of an option together with the place of its value. -/
def usage (setting : Setting) : Text :=
  "--" ++ setting.name ++ " <" ++ setting.placeholder ++ ">"

end Setting

/-- Why the value of an option is refused. -/
inductive ValueFault
  | equalsMissing (value : Text)
  | nameInvalid (name : Text)
  | number (error : Text.NumberError)
deriving DecidableEq, Repr

/-- The wording of the fault of a value. -/
def ValueFault.message : ValueFault → Text
  | .equalsMissing value => "expected NAME=VALUE, got " ++ Text.inQuotes value
  | .nameInvalid name => "invalid variable name " ++ Text.inQuotes name
  | .number error => error.message

/-- Why a command line names no run. -/
inductive Error
  | helpWanted
  | versionWanted
  | fileMissing
  | unknownArgument
  | valueMissing
  | valueUnexpected
  | repeated
  | valueRefused (setting : Setting) (value : Text) (fault : ValueFault)
deriving DecidableEq, Repr

namespace Error

/-- Whether an error is a failure. -/
def isFailure : Error → Bool
  | .helpWanted => false
  | .versionWanted => false
  | _ => true

/-- What is said about a value that is refused; other errors are left to the
usage text. -/
def message : Error → Text
  | .valueRefused setting value fault =>
      "error: invalid value '" ++ value ++ "' for '" ++ setting.usage ++ "': " ++ fault.message
  | _ => []

end Error
end CommandLine
end PageCheck
