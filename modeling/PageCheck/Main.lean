import PageCheck.Run

/-!
# The program

The program reads its command line, reads the test file line by line and writes
the report.  No transport is part of it, so every page counts as unreachable.
-/

open PageCheck

/-- The number of a system error, which may be given with its sign changed. -/
def errorNumber (code : UInt32) : UInt32 :=
  if code < 0x80000000 then code else 0 - code

/-- The cause of a failure to read a file. -/
def fileErrorOf (error : IO.Error) : FileError :=
  let other : FileError := .other (toString error).toList
  match error with
  | .noFileOrDirectory _ _ _ => .notFound
  | .inappropriateType _ code _ =>
      if errorNumber code = 20 then .notDirectory
      else if errorNumber code = 21 then .isDirectory
      else other
  | .invalidArgument _ code _ => if errorNumber code = 36 then .nameTooLong else other
  | _ => other

/-- The text of a file. -/
def readContent (path : Text) : IO (Except FileError Text) := do
  if path.isEmpty then
    return .error .notFound
  try
    let bytes ← IO.FS.readBinFile (String.ofList path)
    return (FileNode.regular bytes.toList).readText
  catch error =>
    return .error (fileErrorOf error)

/-- Whether a path leads to a regular file. -/
def isRegularFile (path : Text) : IO Bool := do
  try
    let metadata ← (← IO.FS.realPath (String.ofList path)).metadata
    return metadata.type == .file
  catch _ =>
    return false

/-- Reads lines, looking at each file that a line asks about. -/
def readScript (path : Text) (scope : Variables) (content : Text) : IO Script := do
  let mut reader : Reader := { scope }
  for numbered in (Text.lines content).zipIdx 1 do
    let regular ← match reader.askedFile? (Text.trim numbered.1) with
      | some asked => isRegularFile asked
      | none => pure false
    let files : FileSystem := { read := fun _ => .error .notFound, isRegular := fun _ => regular }
    reader := reader.step files path numbered
  return ⟨reader.suite, reader.errors⟩

/-- The run that a command line asks for. -/
def runOptions (options : Options) : IO (Run Unit) := do
  match ← readContent options.testFile with
  | .error error => return Run.unreadable () options.testFile error
  | .ok content =>
      let scope := Variables.ofList options.assignments
      let script ← readScript options.testFile scope content
      return Run.ofScript (fun state _ => (.unreachable, state)) (fun _ => 0) () options script

/-- Reads the command line, runs the test file and gives back the exit code. -/
def main (arguments : List String) : IO UInt32 := do
  match CommandLine.read (arguments.map String.toList) with
  | .error error =>
      unless error.message.isEmpty do
        IO.eprintln (String.ofList error.message)
      return error.status.code.toUInt32
  | .ok options =>
      let run ← runOptions options
      let hasColor := !options.noColor && (← (← IO.getStdout).isTty)
      IO.print (String.ofList (run.report.render hasColor))
      IO.eprint (String.ofList run.complaint)
      return run.status.code.toUInt32
