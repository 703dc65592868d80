import PageCheck.Header
import PageCheck.Location
import PageCheck.Matcher
import PageCheck.Page

/-!
# Assertions

An assertion checks one thing about a page.  Each kind of check allows some
modifiers, and an assertion is only built with allowed ones.  A negated
assertion holds exactly when its check does not.
-/

namespace PageCheck

/-- What is checked about a page. -/
inductive Check
  | success
  | statusCode (code : Nat)
  | contains (matcher : Matcher)
  | containsNot (matcher : Matcher)
  | equals (matcher : Matcher)
  | empty
  | header (name : Text) (value : Option Matcher)
deriving Repr

namespace Check

/-- The command that asks for a check; the check for success has none. -/
def command : Check → Text
  | .success => "default"
  | .statusCode _ => "assert-status-code"
  | .contains _ => "assert-contains"
  | .containsNot _ => "assert-contains-not"
  | .equals _ => "assert-equals"
  | .empty => "assert-empty"
  | .header _ _ => "assert-header"

/-- The modifiers of checks that imply their own negation. -/
def unnegatable : Modifiers := Modifiers.all.without (.only .negated)

/-- The modifiers that a check allows. -/
def allowed : Check → Modifiers
  | .success => .none
  | .statusCode _ => .only .negated
  | .contains _ => .all
  | .containsNot _ => unnegatable
  | .equals _ => .all
  | .empty => .only .negated
  | .header _ _ => .all

/-- Whether a page passes a check. -/
def holds (page : Page) : Check → Bool
  | .success => 200 ≤ page.status && page.status < 300
  | .statusCode code => page.status == code
  | .contains matcher => matcher.accepts page.body
  | .containsNot matcher => !matcher.accepts page.body
  | .equals matcher => matcher.accepts page.body
  | .empty => page.body.isEmpty
  | .header name value =>
      page.headers.any fun line =>
        let parts := Header.split line
        Header.sameName parts.1 name &&
          value.all fun matcher => matcher.accepts parts.2

/-! ## Wording -/

/-- The number of characters of a body that messages show. -/
def excerptLength : Nat := 100

/-- The beginning of a text, with dots in place of the rest. -/
def excerpt (text : Text) : Text :=
  if excerptLength < text.length then text.take excerptLength ++ "..." else text

/-- Texts in quotes with commas between them. -/
def quoteAll (texts : List Text) : Text :=
  if texts.isEmpty then
    Text.inQuotes []
  else
    Text.joinWith ", " (texts.map Text.inQuotes)

/-- What the message of a failed assertion says before the modifiers. -/
def failure (negated : Bool) (page : Page) (check : Check) : Text :=
  let verb (positive negative : Text) : Text := if negated then negative else positive
  "Failed asserting that " ++
    match check with
    | .success => "status code " ++ Text.ofNat page.status ++ " is successful (2xx)"
    | .statusCode code =>
        "status code " ++ Text.ofNat page.status ++ " " ++
          verb "equals" "does not equal" ++ " " ++ Text.ofNat code
    | .contains matcher =>
        "response body " ++ verb "contains" "does not contain" ++ " " ++
          Text.inQuotes matcher.expected
    | .containsNot matcher =>
        "response body does not contain " ++ Text.inQuotes matcher.expected
    | .equals matcher =>
        "response body " ++ Text.inQuotes (excerpt page.body) ++ " " ++
          verb "equals" "does not equal" ++ " " ++ Text.inQuotes matcher.expected
    | .empty => "response body " ++ verb "is empty" "is not empty"
    | .header name value =>
        let wanted := match value with
          | some matcher => name ++ ": " ++ matcher.expected
          | none => name
        "response headers " ++ quoteAll page.headers ++ " " ++
          verb "contain" "do not contain" ++ " " ++ Text.inQuotes wanted

end Check

/-- A check with its modifiers and its place in a test file. -/
structure Assertion where
  location : Location
  modifiers : Modifiers
  check : Check
deriving Repr

namespace Assertion

/-! ## Building -/

/-- Refuses modifiers that are not allowed. -/
def checkModifiers (command : Text) (allowed modifiers : Modifiers) :
    Except BuildError Unit :=
  if (modifiers.without allowed).isEmpty then
    .ok ()
  else
    .error (.modifiersNotAllowed command (modifiers.without allowed))

/-- Builds an assertion from a check. -/
def build (location : Location) (check : Check) (modifiers : Modifiers) :
    Except BuildError Assertion := do
  checkModifiers check.command check.allowed modifiers
  return ⟨location, modifiers, check⟩

/-- The assertion that every request starts with. -/
def success (location : Location) : Assertion :=
  ⟨location, .none, .success⟩

/-- Asserts a status code. -/
def statusCode (location : Location) (code : Nat) (modifiers : Modifiers) :
    Except BuildError Assertion :=
  if 100 ≤ code ∧ code ≤ 599 then
    build location (.statusCode code) modifiers
  else
    .error (.statusOutOfRange code)

/-- Asserts that the body contains a text. -/
def contains (location : Location) (expected : Text) (modifiers : Modifiers) :
    Except BuildError Assertion := do
  let matcher <- Matcher.build expected .substring modifiers
  build location (.contains matcher) modifiers

/-- Asserts that the body does not contain a text. -/
def containsNot (location : Location) (expected : Text) (modifiers : Modifiers) :
    Except BuildError Assertion := do
  checkModifiers "assert-contains-not" Check.unnegatable modifiers
  let matcher <- Matcher.build expected .substring modifiers
  build location (.containsNot matcher) modifiers

/-- Asserts that the body is a text. -/
def equals (location : Location) (expected : Text) (modifiers : Modifiers) :
    Except BuildError Assertion := do
  let matcher <- Matcher.build expected .exact modifiers
  build location (.equals matcher) modifiers

/-- Asserts that the body is empty. -/
def empty (location : Location) (modifiers : Modifiers) : Except BuildError Assertion :=
  build location .empty modifiers

/-- The name and the value, if there is one, that a header argument asks for. -/
def headerParts (argument : Text) : Text × Option Text :=
  match Text.splitFirst? ':' argument with
  | some (name, value) =>
      let value := Text.trim value
      (Text.trim name, if value.isEmpty then none else some value)
  | none => (Text.trim argument, none)

/-- Asserts that a header is present, with a value if the argument has one. -/
def header (location : Location) (argument : Text) (modifiers : Modifiers) :
    Except BuildError Assertion :=
  match headerParts argument with
  | ([], _) => .error (.invalidHeader argument)
  | (name, none) => build location (.header name none) modifiers
  | (name, some value) => do
      let matcher <- Matcher.build value .exact modifiers
      build location (.header name (some matcher)) modifiers

/-! ## Testing -/

/-- Whether an assertion holds on a page. -/
def holds (assertion : Assertion) (page : Page) : Bool :=
  assertion.check.holds page != assertion.modifiers.negated

/-- The message of an assertion that fails on a page. -/
def failure (assertion : Assertion) (page : Page) : Text :=
  assertion.check.failure assertion.modifiers.negated page ++ assertion.modifiers.suffix

/-- The command of an assertion. -/
def command (assertion : Assertion) : Text := assertion.check.command

/-- Whether an assertion is about the status code explicitly. -/
def isStatusCode (assertion : Assertion) : Bool :=
  match assertion.check with
  | .statusCode _ => true
  | _ => false

/-- Whether an assertion is the one that every request starts with. -/
def isDefault (assertion : Assertion) : Bool :=
  match assertion.check with
  | .success => true
  | _ => false

end Assertion

/-- The outcome of one assertion: the failure message, if it failed. -/
structure Outcome where
  assertion : Assertion
  failure : Option Text
deriving Repr

namespace Outcome

/-- Whether the assertion held. -/
def isSuccess (outcome : Outcome) : Bool := outcome.failure.isNone

/-- The failure message, which is empty for an assertion that held. -/
def error (outcome : Outcome) : Text := outcome.failure.getD []

end Outcome

/-- The outcome of an assertion on a page. -/
def Assertion.test (assertion : Assertion) (page : Page) : Outcome :=
  ⟨assertion, if assertion.holds page then none else some (assertion.failure page)⟩

end PageCheck
