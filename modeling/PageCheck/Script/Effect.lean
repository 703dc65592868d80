import PageCheck.Script.Statement
import PageCheck.TestCase

/-!
# Effects

The effect of a statement is what it adds to the result of reading: a test case,
a variable, an assertion or a request modifier.  A statement whose texts break a
rule has no effect.
-/

namespace PageCheck

/-- What an accepted line does. -/
inductive Effect
  | openCase (method : Method) (url : Url)
  | set (name value : Text)
  | setDefault (name value : Text)
  | addAssertion (assertion : Assertion)
  | addModifier (modifier : RequestModifier)
deriving Repr

/-- Builds the assertion that an expectation asks for. -/
def Expectation.build (location : Location) (modifiers : Modifiers) :
    Expectation → Except BuildError Assertion
  | .statusCode code => Assertion.statusCode location code modifiers
  | .contains text => Assertion.contains location text modifiers
  | .containsNot text => Assertion.containsNot location text modifiers
  | .equals text => Assertion.equals location text modifiers
  | .empty => Assertion.empty location modifiers
  | .header argument => Assertion.header location argument modifiers

/-- Builds the request modifier that a change asks for. -/
def Change.build (files : FileSystem) : Change → Except BuildError RequestModifier
  | .header line => RequestModifier.ofHeaderLine line
  | .parameter name value => RequestModifier.ofParameter name value
  | .file name path => RequestModifier.ofFile files name path
  | .raw content => .ok (.raw content)

/-- The effect of a statement. -/
def Statement.effect (files : FileSystem) (location : Location) :
    Statement → Except LineError Effect
  | .request method address =>
      match Url.read address with
      | .ok url => .ok (.openCase method url)
      | .error error => .error (.urlInvalid address error)
  | .set name value => .ok (.set name value)
  | .setDefault name value => .ok (.setDefault name value)
  | .expect expectation modifiers =>
      ((expectation.build location modifiers).map .addAssertion).mapError .build
  | .change wanted => ((wanted.build files).map .addModifier).mapError .build

end PageCheck
