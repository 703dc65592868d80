import PageCheck.Modifier
import PageCheck.Request

/-!
# Failures to build

Why an assertion or a request modifier cannot be built, or a request modifier
cannot be attached to a test case.
-/

namespace PageCheck

/-- A broken rule of assertions or request modifiers. -/
inductive BuildError
  | emptyParameterName
  | pathNotAbsolute (path : Text)
  | fileMissing (path : Text)
  | invalidHeader (header : Text)
  | statusOutOfRange (code : Nat)
  | modifiersNotAllowed (command : Text) (modifiers : Modifiers)
  | invalidPattern (pattern : Text)
  | incompatible (modifier other : Text)
  | methodNotAllowed (modifier : Text) (method : Method)
deriving DecidableEq, Repr

/-- The wording of a failure.  What the compiler of patterns has to say about an invalid one
is no part of it: behind the pattern in quotes, a colon and the compiler's own words would
follow. -/
def BuildError.message : BuildError → Text
  | .emptyParameterName => "Parameter name must not be empty."
  | .pathNotAbsolute path => "File path " ++ Text.inQuotes path ++ " is not absolute."
  | .fileMissing path =>
      "File " ++ Text.inQuotes path ++ " does not exist or is not a regular file."
  | .invalidHeader header =>
      "Invalid header " ++ Text.inQuotes header ++ ", expected \"Name: value\"."
  | .statusOutOfRange code =>
      "Invalid status code " ++ Text.ofNat code ++ ", expected a value between 100 and 599."
  | .modifiersNotAllowed command modifiers =>
      "Modifier(s) " ++ modifiers.describe ++ " not allowed for " ++ command ++ "."
  | .invalidPattern pattern => "Invalid regular expression " ++ Text.inQuotes pattern
  | .incompatible modifier other =>
      "Request modifier " ++ modifier ++ " cannot be combined with " ++ other ++ "."
  | .methodNotAllowed modifier method =>
      "Request modifier " ++ modifier ++ " is not allowed for " ++ method.name ++ " requests."

end PageCheck
