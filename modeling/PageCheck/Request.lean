import PageCheck.Url.Basic

/-!
# Requests

A request has a method, a URL, headers and a body.  The body is empty, raw, or a
form with parameters and files; adding to a form keeps what the form has, while
any other change of the body replaces it.
-/

namespace PageCheck

/-- The methods of requests. -/
inductive Method
  | get
  | post
  | put
  | patch
  | delete
deriving DecidableEq, Repr, Inhabited

namespace Method

/-- The name of a method. -/
def name : Method → Text
  | .get => "GET"
  | .post => "POST"
  | .put => "PUT"
  | .patch => "PATCH"
  | .delete => "DELETE"

/-- The keyword of a method in test files. -/
def keyword : Method → Text
  | .get => "get"
  | .post => "post"
  | .put => "put"
  | .patch => "patch"
  | .delete => "delete"

/-- All methods. -/
def all : List Method := [.get, .post, .put, .patch, .delete]

/-- The method of a keyword. -/
def ofKeyword? (text : Text) : Option Method :=
  all.find? fun method => method.keyword = text

end Method

/-- The body of a request. -/
inductive Body
  | empty
  | raw (content : Text)
  | form (parameters files : List (Text × Text))
deriving DecidableEq, Repr, Inhabited

/-- A request for a page. -/
structure Request where
  method : Method
  url : Url
  headers : List (Text × Text) := []
  body : Body := .empty
deriving DecidableEq, Repr, Inhabited

namespace Request

/-- The request with one more header. -/
def addHeader (request : Request) (name value : Text) : Request :=
  { request with headers := request.headers ++ [(name, value)] }

/-- The request with one more form parameter. -/
def addParameter (request : Request) (name value : Text) : Request :=
  { request with
    body := match request.body with
      | .form parameters files => .form (parameters ++ [(name, value)]) files
      | _ => .form [(name, value)] [] }

/-- The request with one more file. -/
def addFile (request : Request) (name path : Text) : Request :=
  { request with
    body := match request.body with
      | .form parameters files => .form parameters (files ++ [(name, path)])
      | _ => .form [] [(name, path)] }

/-- The request with a raw body. -/
def setRaw (request : Request) (content : Text) : Request :=
  { request with body := .raw content }

end Request
end PageCheck
