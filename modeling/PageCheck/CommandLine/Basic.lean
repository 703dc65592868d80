import PageCheck.CommandLine.Error
import PageCheck.Script.Variables

/-!
# Command lines

A command line names the test file and may give options in front of it or
behind it.  An option takes its value from behind an equals sign or from the
next argument, which must not look like an option.  Two hyphens end the options.

Arguments are read from left to right.  A value that comes in an argument of its
own is checked only when the next option or the end of the line is met, so that
a help option right behind it does not hide its faults.
-/

namespace PageCheck

/-- The number of seconds that a page may take, unless told otherwise. -/
def defaultTimeout : Nat := 30

/-- What a command line asks for. -/
structure Options where
  testFile : Text
  assignments : List (Text × Text) := []
  timeout : Nat := defaultTimeout
  followRedirects : Bool := false
  verbose : Bool := false
  noColor : Bool := false
deriving DecidableEq, Repr

namespace CommandLine

/-! ## Arguments -/

/-- The options without a value. -/
inductive Flag
  | followRedirects
  | verbose
  | noColor
  | help
  | version
deriving DecidableEq, Repr

namespace Flag

/-- All options without a value. -/
def all : List Flag := [.followRedirects, .verbose, .noColor, .help, .version]

/-- The name of an option without a value. -/
def name : Flag → Text
  | .followRedirects => "follow-redirects"
  | .verbose => "verbose"
  | .noColor => "no-color"
  | .help => "help"
  | .version => "version"

/-- The option of a letter. -/
def ofLetter? : Char → Option Flag
  | 'v' => some .verbose
  | 'h' => some .help
  | 'V' => some .version
  | _ => none

end Flag

/-- The shapes of arguments. -/
inductive Argument
  | endOfOptions
  | named (name : Text) (value : Option Text)
  | letters (letters : Text)
  | plain (text : Text)
deriving DecidableEq, Repr

/-- The shape of an argument: one hyphen alone makes no option. -/
def Argument.ofText : Text → Argument
  | ['-', '-'] => .endOfOptions
  | '-' :: '-' :: rest =>
      match Text.splitFirst? '=' rest with
      | some (name, value) => .named name (some value)
      | none => .named rest none
  | ['-'] => .plain ['-']
  | '-' :: c :: rest => .letters (c :: rest)
  | text => .plain text

/-! ## Values -/

/-- The greatest number of seconds. -/
def timeoutLimit : Nat := Nat.pow 2 64 - 1

/-- The name and the value of a variable. -/
def readVariable (value : Text) : Except ValueFault (Text × Text) :=
  match Text.splitFirst? '=' value with
  | none => .error (.equalsMissing value)
  | some (name, content) =>
      if Variables.isName name then .ok (name, content) else .error (.nameInvalid name)

/-- What has been read of a command line. -/
structure Progress where
  testFile : Option Text := none
  assignments : List (Text × Text) := []
  timeout : Option Nat := none
  flags : List Flag := []
deriving DecidableEq, Repr

namespace Progress

/-- Takes the value of an option. -/
def takeValue (progress : Progress) (setting : Setting) (value : Text) :
    Except Error Progress :=
  match setting with
  | .assignment =>
      match readVariable value with
      | .ok pair => .ok { progress with assignments := progress.assignments ++ [pair] }
      | .error fault => .error (.valueRefused setting value fault)
  | .timeout =>
      if progress.timeout.isSome then
        .error .repeated
      else
        match Text.readNumber timeoutLimit value with
        | .ok seconds => .ok { progress with timeout := some seconds }
        | .error error => .error (.valueRefused setting value (.number error))

/-- Takes the path of the test file. -/
def takeFile (progress : Progress) (path : Text) : Except Error Progress :=
  if path.isEmpty then .error .valueMissing else .ok { progress with testFile := some path }

/-- Takes an option without a value. -/
def takeFlag (progress : Progress) (flag : Flag) : Except Error Progress :=
  match flag with
  | .help => .error .helpWanted
  | .version => .error .versionWanted
  | _ =>
      if flag ∈ progress.flags then
        .error .repeated
      else
        .ok { progress with flags := flag :: progress.flags }

/-- The options that have been read, if there is a test file among them. -/
def toOptions (progress : Progress) : Except Error Options :=
  match progress.testFile with
  | none => .error .fileMissing
  | some testFile =>
      .ok
        { testFile
          assignments := progress.assignments
          timeout := progress.timeout.getD defaultTimeout
          followRedirects := .followRedirects ∈ progress.flags
          verbose := .verbose ∈ progress.flags
          noColor := .noColor ∈ progress.flags }

end Progress

/-! ## Reading -/

/-- What is still to be checked of the arguments that have been read. -/
inductive Pending
  | nothing
  | file (path : Text)
  | setting (setting : Setting)
  | value (setting : Setting) (value : Text)
deriving DecidableEq, Repr

/-- Where the reading of a command line stands. -/
structure Reader where
  progress : Progress := {}
  pending : Pending := .nothing
  optionsEnded : Bool := false
deriving DecidableEq, Repr

namespace Reader

/-- Checks what is pending. -/
def settle (reader : Reader) : Except Error Progress :=
  match reader.pending with
  | .nothing => .ok reader.progress
  | .file path => reader.progress.takeFile path
  | .setting _ => .error .valueMissing
  | .value setting value => reader.progress.takeValue setting value

/-- Whether a test file has been named. -/
def hasFile (reader : Reader) : Bool :=
  match reader.pending with
  | .file _ => true
  | _ => reader.progress.testFile.isSome

/-- The reader behind the path of the test file.  There is only one. -/
def stepFile (reader : Reader) (path : Text) : Except Error Reader :=
  if reader.hasFile then
    .error .unknownArgument
  else
    reader.settle.map fun progress => { reader with progress, pending := .file path }

/-- The reader behind an argument that is no option: the value that an option
waits for, or else the test file. -/
def stepPlain (reader : Reader) (text : Text) : Except Error Reader :=
  match reader.pending with
  | .setting setting => .ok { reader with pending := .value setting text }
  | _ => reader.stepFile text

/-- The reader behind an option without a value. -/
def stepFlag (reader : Reader) (flag : Flag) : Except Error Reader := do
  let progress <- reader.settle
  let next <- progress.takeFlag flag
  return { reader with progress := next, pending := .nothing }

/-- The reader behind letters that are options. -/
def stepLetters (reader : Reader) : Text → Except Error Reader
  | [] => .ok reader
  | c :: rest =>
      match Flag.ofLetter? c with
      | none => .error .unknownArgument
      | some flag => (reader.stepFlag flag).bind fun next => next.stepLetters rest

/-- The reader behind an option that takes a value. -/
def stepSetting (reader : Reader) (setting : Setting) (value : Option Text) :
    Except Error Reader := do
  let progress <- reader.settle
  match value with
  | none => return { reader with progress, pending := .setting setting }
  | some value =>
      let next <- progress.takeValue setting value
      return { reader with progress := next, pending := .nothing }

/-- The reader behind an option with a name. -/
def stepNamed (reader : Reader) (name : Text) (value : Option Text) : Except Error Reader :=
  match Setting.all.find? fun setting => setting.name = name with
  | some setting => reader.stepSetting setting value
  | none =>
      match Flag.all.find? fun flag => flag.name = name with
      | some flag => if value.isSome then .error .valueUnexpected else reader.stepFlag flag
      | none => .error .unknownArgument

/-- The reader behind one more argument. -/
def step (reader : Reader) (argument : Text) : Except Error Reader :=
  if reader.optionsEnded then
    reader.stepFile argument
  else
    match Argument.ofText argument with
    | .endOfOptions => .ok { reader with optionsEnded := true }
    | .named name value => reader.stepNamed name value
    | .letters letters => reader.stepLetters letters
    | .plain text => reader.stepPlain text

/-- Reads further arguments. -/
def readAll (reader : Reader) : List Text → Except Error Options
  | [] => reader.settle.bind Progress.toOptions
  | argument :: rest => (reader.step argument).bind fun next => next.readAll rest

end Reader

/-- Reads the arguments of a command line. -/
def read (arguments : List Text) : Except Error Options :=
  Reader.readAll {} arguments

end CommandLine
end PageCheck
