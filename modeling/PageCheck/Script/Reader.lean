import PageCheck.Script.Effect
import PageCheck.Suite
import PageCheck.Text.Lines

/-!
# Reading test files

A test file is read line by line.  A line that is refused leaves an error and
nothing else behind, except that a refused request line closes the test case
before it: the lines up to the next request line are still checked, but there is
no test case that they could add to.
-/

namespace PageCheck

/-- Where the lines that follow add to. -/
inductive Current
  | missing
  | broken
  | reading (testCase : TestCase)
deriving Repr

/-- The test case that is being read, if there is one. -/
def Current.testCase? : Current → Option TestCase
  | .reading testCase => some testCase
  | _ => none

/-- Whether no request line has been met yet. -/
def Current.isMissing : Current → Bool
  | .missing => true
  | _ => false

/-- What has been read of a test file. -/
structure Reader where
  scope : Variables := {}
  finished : List TestCase := []
  current : Current := .missing
  errors : List ParseError := []
deriving Repr

namespace Reader

/-- The test cases read so far. -/
def suite (reader : Reader) : Suite :=
  reader.finished ++ reader.current.testCase?.toList

/-- The reader without an open test case, behind a request line. -/
def closeCase (reader : Reader) : Reader :=
  { reader with finished := reader.suite, current := .broken }

/-! ## Lines -/

/-- The keyword of a line and the rest behind it. -/
def splitKeyword (line : Text) : Text × Text :=
  (Text.firstWord line, Text.trim (Text.afterFirstWord line))

/-- Whether a line has the keyword of a request. -/
def isRequestLine (line : Text) : Bool :=
  (Command.ofKeyword? (splitKeyword line).1).any Command.isRequest

/-- The effect of a line. -/
def lineEffect (files : FileSystem) (reader : Reader) (location : Location) (line : Text) :
    Except LineError Effect :=
  let (keyword, rest) := splitKeyword line
  match Command.ofKeyword? keyword with
  | none => .error (.unknownCommand keyword)
  | some command =>
      if command.needsRequest && reader.current.isMissing then
        .error (.requestMissing command)
      else
        (Statement.read reader.scope command rest).bind fun statement =>
          statement.effect files location

/-- The path of the file that a line asks the file system about, if it asks. -/
def askedFile? (reader : Reader) (line : Text) : Option Text :=
  let (keyword, rest) := splitKeyword line
  match Command.ofKeyword? keyword with
  | some command =>
      match Statement.read reader.scope command rest with
      | .ok (.change (.file _ path)) => some path
      | _ => none
  | none => none

/-- The effect of a line depends on the file system only through the file that
the line asks about. -/
theorem lineEffect_congr
    {files others : FileSystem}
    {reader : Reader}
    {line : Text}
    (agree : ∀ path, reader.askedFile? line = some path →
      files.isRegular path = others.isRegular path)
    (location : Location) :
    reader.lineEffect files location line = reader.lineEffect others location line := by
  simp only [lineEffect, askedFile?] at agree ⊢
  cases known : Command.ofKeyword? (splitKeyword line).1 with
  | none => rfl
  | some command =>
      simp only [known] at agree ⊢
      cases found : Statement.read reader.scope command (splitKeyword line).2 with
      | error cause => rfl
      | ok statement =>
          simp only [found] at agree ⊢
          have same : statement.effect files location = statement.effect others location := by
            cases statement with
            | change wanted =>
                cases wanted with
                | file name path =>
                    have regular := agree path rfl
                    simp [Statement.effect, Change.build, RequestModifier.ofFile, regular]
                | header line => rfl
                | parameter name value => rfl
                | raw content => rfl
            | request method address => rfl
            | set name value => rfl
            | setDefault name value => rfl
            | expect expectation modifiers => rfl
          simp only [Except.bind, same]

/-- The reader behind an effect.  Only a request modifier can still be refused. -/
def apply (reader : Reader) (location : Location) : Effect → Except LineError Reader
  | .openCase method url =>
      let opened : TestCase :=
        { location, method, url, assertions := [Assertion.success location] }
      .ok { reader.closeCase with current := .reading opened }
  | .set name value => .ok { reader with scope := reader.scope.set name value }
  | .setDefault name value =>
      .ok { reader with scope := reader.scope.setDefault name value }
  | .addAssertion assertion =>
      match reader.current with
      | .reading testCase =>
          .ok { reader with current := .reading (testCase.addAssertion assertion) }
      | _ => .ok reader
  | .addModifier modifier =>
      match reader.current with
      | .reading testCase =>
          match testCase.addModifier modifier with
          | .ok extended => .ok { reader with current := .reading extended }
          | .error error => .error (.build error)
      | _ => .ok reader

/-- The reader behind a line that is accepted. -/
def accept (files : FileSystem) (reader : Reader) (location : Location) (line : Text) :
    Except LineError Reader :=
  (reader.lineEffect files location line).bind (reader.apply location)

/-- The reader behind a line that is refused. -/
def refuse (reader : Reader) (location : Location) (line : Text) (cause : LineError) :
    Reader :=
  let closed := if isRequestLine line then reader.closeCase else reader
  { closed with errors := reader.errors ++ [⟨location, cause⟩] }

/-- The reader behind one more line.  Blank lines do nothing. -/
def step (files : FileSystem) (path : Text) (reader : Reader) (numbered : Text × Nat) :
    Reader :=
  let line := Text.trim numbered.1
  let location : Location := ⟨path, numbered.2⟩
  if line.isEmpty then
    reader
  else
    match reader.accept files location line with
    | .ok next => next
    | .error cause => reader.refuse location line cause

/-- The reader behind lines that are numbered from one. -/
def readLines (files : FileSystem) (path : Text) (reader : Reader) (lines : List Text) :
    Reader :=
  (lines.zipIdx 1).foldl (step files path) reader

end Reader

/-- The result of reading a test file. -/
structure Script where
  suite : Suite
  errors : List ParseError
deriving Repr

namespace Script

/-- Whether a test file has no error. -/
def isValid (script : Script) : Bool := script.errors.isEmpty

/-- Reads lines with some variables set from the start. -/
def ofLines (files : FileSystem) (path : Text) (scope : Variables)
    (lines : List Text) : Script :=
  let reader := Reader.readLines files path { scope } lines
  ⟨reader.suite, reader.errors⟩

/-- Reads the content of a test file. -/
def ofContent (files : FileSystem) (path : Text) (scope : Variables)
    (content : Text) : Script :=
  ofLines files path scope (Text.lines content)

/-- Reads the test file under a path. -/
def ofFile (files : FileSystem) (path : Text) (scope : Variables) :
    Except FileError Script :=
  (files.read path).map (ofContent files path scope)

end Script
end PageCheck
