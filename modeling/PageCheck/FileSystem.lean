import PageCheck.Text.Basic

/-!
# File systems

The library asks a file system two questions: what text a file holds, and
whether a path leads to a regular file.  A tree of named nodes answers both for
paths in the usual notation.
-/

namespace PageCheck

/-- Why a file cannot be read. -/
inductive FileError
  | notFound
  | isDirectory
  | notDirectory
  | nameTooLong
  | nulInPath
  | notUtf8
  | other (message : Text)
deriving DecidableEq, Repr

/-- The wording of a failure to read a file; failures without a name of their own
keep the words of the system. -/
def FileError.message : FileError → Text
  | .notFound => "No such file or directory (os error 2)"
  | .isDirectory => "Is a directory (os error 21)"
  | .notDirectory => "Not a directory (os error 20)"
  | .nameTooLong => "File name too long (os error 36)"
  | .nulInPath => "file name contained an unexpected NUL byte"
  | .notUtf8 => "stream did not contain valid UTF-8"
  | .other message => message

/-- What is asked about files. -/
structure FileSystem where
  read : Text → Except FileError Text
  isRegular : Text → Bool

/-- Whether a path starts at the root. -/
def isAbsolutePath (path : Text) : Bool :=
  path.head? == some '/'

/-- A node of a file tree. -/
inductive FileNode
  | regular (bytes : List UInt8)
  | device
  | directory (entries : List (Text × FileNode))

namespace FileNode

/-- The empty directory. -/
def emptyDirectory : FileNode := .directory []

/-- The node with a name in a list of entries. -/
def child? (entries : List (Text × FileNode)) (name : Text) : Option FileNode :=
  (entries.find? fun entry => entry.1 = name).map fun entry => entry.2

/-- The entries with a node put under a name. -/
def putEntry (entries : List (Text × FileNode)) (name : Text) (node : FileNode) :
    List (Text × FileNode) :=
  entries.filter (fun entry => entry.1 ≠ name) ++ [(name, node)]

/-- The tree with a node put at the end of a path, the directories on the way
being made. -/
def put : FileNode → List Text → FileNode → FileNode
  | tree, [], node =>
      match node, tree with
      | .directory [], .directory entries => .directory entries
      | _, _ => node
  | tree, name :: rest, node =>
      let entries := match tree with
        | .directory entries => entries
        | _ => []
      .directory (putEntry entries name (put ((child? entries name).getD emptyDirectory) rest node))

/-- The number of bytes that a text has in UTF-8. -/
def utf8Size (text : Text) : Nat :=
  text.foldl (fun size c => size + c.utf8Size) 0

/-- The longest name of an entry, in bytes. -/
def nameLimit : Nat := 255

/-- The bound that a path has to stay below, in bytes. -/
def pathLimit : Nat := 4096

/-- Follows the parts of a path.  The nodes on the way are kept, the nearest one
first, because two dots lead back. -/
def follow (current : FileNode) (above : List FileNode) : List Text → Except FileError FileNode
  | [] => .ok current
  | part :: rest =>
      match current with
      | .directory entries =>
          if part = [] ∨ part = ['.'] then
            follow current above rest
          else if part = ['.', '.'] then
            match above with
            | parent :: further => follow parent further rest
            | [] => follow current [] rest
          else if nameLimit < utf8Size part then
            .error .nameTooLong
          else
            match child? entries part with
            | some node => follow node (current :: above) rest
            | none => .error .notFound
      | _ => .error .notDirectory

/-- The parts of a path. -/
def pathParts (path : Text) : List Text :=
  Text.splitAll '/' path

/-- The node that a path leads to from a root and a working directory inside it,
which is given by its own path. -/
def resolve (root : FileNode) (working path : Text) : Except FileError FileNode :=
  if path.contains '\x00' then
    .error .nulInPath
  else if path.isEmpty then
    .error .notFound
  else if pathLimit ≤ utf8Size path then
    .error .nameTooLong
  else if isAbsolutePath path then
    follow root [] (pathParts path)
  else
    follow root [] (pathParts working ++ pathParts path)

/-- The text that a node holds. -/
def readText : FileNode → Except FileError Text
  | .regular bytes =>
      match String.fromUTF8? ⟨bytes.toArray⟩ with
      | some content => .ok content.toList
      | none => .error .notUtf8
  | .device => .ok []
  | .directory _ => .error .isDirectory

/-- Whether a node is a regular file. -/
def isRegular : FileNode → Bool
  | .regular _ => true
  | _ => false

/-- The file system of a tree with a working directory. -/
def toFileSystem (root : FileNode) (working : Text) : FileSystem where
  read path := (root.resolve working path).bind readText
  isRegular path :=
    match root.resolve working path with
    | .ok node => node.isRegular
    | .error _ => false

end FileNode
end PageCheck
