import PageCheck.Script.Quoted
import PageCheck.Script.Statement

/-!
# Writing statements

A statement is written as one line: the keyword of its command, then its texts
between double quotes, then the signs of its modifiers.
-/

namespace PageCheck

/-- A line of a keyword and arguments. -/
def Command.write (command : Command) (arguments : List Text) : Text :=
  Text.joinWith [' '] (command.keyword :: arguments)

namespace Expectation

/-- The command that asks for an expectation. -/
def command : Expectation → Command
  | .statusCode _ => .assertion .statusCode
  | .contains _ => .assertion .contains
  | .containsNot _ => .assertion .containsNot
  | .equals _ => .assertion .equals
  | .empty => .assertion .empty
  | .header _ => .assertion .header

/-- The texts that an expectation is written with. -/
def arguments : Expectation → List Text
  | .statusCode code => [Text.ofNat code]
  | .contains text => [text]
  | .containsNot text => [text]
  | .equals text => [text]
  | .empty => []
  | .header argument => [argument]

/-- The line of an expectation with signs in some order. -/
def write (expectation : Expectation) (signs : List Modifier) : Text :=
  expectation.command.write
    (expectation.arguments.map Quoted.write ++ signs.map Modifier.sign)

end Expectation

namespace Change

/-- The command that asks for a change. -/
def command : Change → Command
  | .header _ => .modifier .header
  | .parameter _ _ => .modifier .parameter
  | .file _ _ => .modifier .file
  | .raw _ => .modifier .raw

/-- The texts that a change is written with. -/
def arguments : Change → List Text
  | .header line => [line]
  | .parameter name value => [name, value]
  | .file name path => [name, path]
  | .raw content => [content]

/-- The line of a change. -/
def write (wanted : Change) : Text :=
  wanted.command.write (wanted.arguments.map Quoted.write)

end Change

namespace Statement

/-- The line that sets a variable. -/
def writeAssignment (command : Command) (name value : Text) : Text :=
  command.write [name, ['='], Quoted.write value]

/-- The line of a statement, the signs of its modifiers being in their usual
order. -/
def write : Statement → Text
  | .request method address => (Command.request method).write [Quoted.write address]
  | .set name value => writeAssignment .set name value
  | .setDefault name value => writeAssignment .setDefault name value
  | .expect expectation modifiers =>
      expectation.write (Modifier.all.filter modifiers.has)
  | .change wanted => wanted.write

end Statement
end PageCheck
