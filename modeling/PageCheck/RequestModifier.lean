import PageCheck.BuildError
import PageCheck.FileSystem
import PageCheck.Text.Blank

/-!
# Request modifiers

A request modifier adds a header, a form parameter or a file to a request, or
gives it a raw body.  Requests that get a page take headers only, and a raw body
and a form exclude each other.
-/

namespace PageCheck

/-- A change of a request. -/
inductive RequestModifier
  | header (name value : Text)
  | parameter (name value : Text)
  | file (name path : Text)
  | raw (content : Text)
deriving DecidableEq, Repr

namespace RequestModifier

/-! ## Building -/

/-- Builds the modifier that adds a header, from a header line. -/
def ofHeaderLine (line : Text) : Except BuildError RequestModifier :=
  match Text.splitFirst? ':' line with
  | none => .error (.invalidHeader line)
  | some (front, value) =>
      let name := Text.trim front
      if name.isEmpty || name.any Text.isBlank then
        .error (.invalidHeader line)
      else
        .ok (.header name (Text.trim value))

/-- Builds the modifier that adds a form parameter. -/
def ofParameter (name value : Text) : Except BuildError RequestModifier :=
  if name.isEmpty then .error .emptyParameterName else .ok (.parameter name value)

/-- Builds the modifier that adds a file, which has to be a regular file under an
absolute path. -/
def ofFile (files : FileSystem) (name path : Text) : Except BuildError RequestModifier :=
  if name.isEmpty then
    .error .emptyParameterName
  else if !isAbsolutePath path then
    .error (.pathNotAbsolute path)
  else if !files.isRegular path then
    .error (.fileMissing path)
  else
    .ok (.file name path)

/-! ## Rules -/

/-- The command that asks for a modifier. -/
def command : RequestModifier → Text
  | .header _ _ => "with-header"
  | .parameter _ _ => "with-post-parameter"
  | .file _ _ => "with-post-file"
  | .raw _ => "with-raw-content"

/-- Whether a modifier belongs to a form. -/
def isForm : RequestModifier → Bool
  | .parameter _ _ => true
  | .file _ _ => true
  | _ => false

/-- Whether a modifier gives a raw body. -/
def isRaw : RequestModifier → Bool
  | .raw _ => true
  | _ => false

/-- Whether a modifier changes the body. -/
def hasBody (modifier : RequestModifier) : Bool :=
  modifier.isForm || modifier.isRaw

/-- Whether a modifier is allowed for a method. -/
def isAllowedFor (modifier : RequestModifier) (method : Method) : Bool :=
  !(modifier.hasBody && method == .get)

/-- Whether two modifiers can be attached to one request. -/
def isCompatibleWith (left right : RequestModifier) : Bool :=
  !((left.isRaw && right.isForm) || (left.isForm && right.isRaw))

/-- Compatibility does not depend on the order. -/
theorem isCompatibleWith_comm (left right : RequestModifier) :
    left.isCompatibleWith right = right.isCompatibleWith left := by
  cases left <;> cases right <;> rfl

/-! ## Applying -/

/-- The request that a modifier makes of another one. -/
def apply (request : Request) : RequestModifier → Request
  | .header name value => request.addHeader name value
  | .parameter name value => request.addParameter name value
  | .file name path => request.addFile name path
  | .raw content => request.setRaw content

end RequestModifier
end PageCheck
