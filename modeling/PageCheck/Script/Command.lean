import PageCheck.Request

/-!
# Commands

Every line of a test file starts with the keyword of a command.  A command opens
a test case, sets a variable, adds an assertion or changes the request.
-/

namespace PageCheck

/-- The kinds of assertions that commands ask for. -/
inductive AssertionCommand
  | statusCode
  | contains
  | containsNot
  | equals
  | empty
  | header
deriving DecidableEq, Repr

/-- The kinds of request modifiers that commands ask for. -/
inductive ModifierCommand
  | header
  | parameter
  | file
  | raw
deriving DecidableEq, Repr

/-- The commands of test files. -/
inductive Command
  | request (method : Method)
  | assertion (kind : AssertionCommand)
  | modifier (kind : ModifierCommand)
  | set
  | setDefault
deriving DecidableEq, Repr

namespace Command

/-- The keyword of a command. -/
def keyword : Command → Text
  | .request method => method.keyword
  | .assertion .statusCode => "assert-status-code"
  | .assertion .contains => "assert-contains"
  | .assertion .containsNot => "assert-contains-not"
  | .assertion .equals => "assert-equals"
  | .assertion .empty => "assert-empty"
  | .assertion .header => "assert-header"
  | .modifier .header => "with-header"
  | .modifier .parameter => "with-post-parameter"
  | .modifier .file => "with-post-file"
  | .modifier .raw => "with-raw-content"
  | .set => "set"
  | .setDefault => "set-default"

/-- All commands. -/
def all : List Command :=
  Method.all.map .request ++
    [ .assertion .statusCode, .assertion .contains, .assertion .containsNot,
      .assertion .equals, .assertion .empty, .assertion .header,
      .modifier .header, .modifier .parameter, .modifier .file, .modifier .raw,
      .set, .setDefault ]

/-- The command of a keyword. -/
def ofKeyword? (text : Text) : Option Command :=
  all.find? fun command => command.keyword = text

/-- Whether a command opens a test case. -/
def isRequest : Command → Bool
  | .request _ => true
  | _ => false

/-- Whether a command adds to a test case, so that a request has to come first. -/
def needsRequest : Command → Bool
  | .assertion _ => true
  | .modifier _ => true
  | _ => false

end Command
end PageCheck
