import PageCheck.Url.Percent

/-!
# Paths

The path of a URL is a list of segments.  While it is read, a segment of one dot
vanishes and a segment of two dots removes the segment before it, except that a
drive letter is never removed.
-/

namespace PageCheck
namespace Url

/-- How the rules of a scheme differ. -/
inductive SchemeKind
  | network
  | file
  | other
deriving DecidableEq, Repr

/-- Whether the scheme is one of those with rules of their own. -/
def SchemeKind.isSpecial (kind : SchemeKind) : Bool :=
  kind != .other

/-- Whether a character separates segments. -/
def SchemeKind.isSlash (kind : SchemeKind) (c : Char) : Bool :=
  c == '/' || (c == '\\' && kind.isSpecial)

/-- Whether a segment is one dot, encoded or not. -/
def isSingleDot (segment : Text) : Bool :=
  let plain := segment.map Char.toLower
  plain == (".": Text) || plain == ("%2e" : Text)

/-- Whether a segment is two dots, encoded or not. -/
def isDoubleDot (segment : Text) : Bool :=
  let plain := segment.map Char.toLower
  plain == ("..": Text) || plain == (".%2e" : Text) || plain == ("%2e." : Text) ||
    plain == ("%2e%2e" : Text)

/-- Whether a segment is a drive letter. -/
def isDriveLetter : Text → Bool
  | [letter, mark] => letter.isAlpha && (mark == ':' || mark == '|')
  | _ => false

/-- The segments of a path that is being read, and whether a drive letter has
taken the place of the host. -/
structure PathState where
  segments : List Text := []
  dropsHost : Bool := false

namespace PathState

/-- Adds a segment. -/
def push (state : PathState) (segment : Text) : PathState :=
  { state with segments := state.segments ++ [segment] }

/-- Removes the last segment, unless it is a drive letter. -/
def pop (state : PathState) : PathState :=
  if state.segments.getLast?.any isDriveLetter then
    state
  else
    { state with segments := state.segments.dropLast }

/-- Reads one segment.  At the end of a path, a segment of dots leaves an empty
segment behind. -/
def read (kind : SchemeKind) (isLast : Bool) (state : PathState) (raw : Text) :
    PathState :=
  let segment := percentEncode escapesInPath raw
  let close (next : PathState) : PathState := if isLast then next.push [] else next
  match kind, state.segments, raw with
  | .file, [], letter :: ':' :: c :: rest =>
      if letter.isAlpha then
        (state.push [letter, ':']).push (percentEncode escapesInPath (c :: rest))
      else
        state.push segment
  | _, _, _ =>
      if isDoubleDot segment then
        close state.pop
      else if isSingleDot segment then
        close state
      else if kind = .file ∧ isDriveLetter segment then
        { state.push (segment.take 1 ++ [':']) with dropsHost := true }
      else
        state.push segment

/-- Reads segments in order. -/
def readAll (kind : SchemeKind) : PathState → List Text → PathState
  | state, [] => state
  | state, segment :: rest => readAll kind (state.read kind rest.isEmpty segment) rest

/-- The written form of a path. -/
def toText (kind : SchemeKind) (state : PathState) : Text :=
  let joined := Text.joinWith ['/'] state.segments
  '/' :: if kind = .file then joined.dropWhile (· == '/') else joined

end PathState

/-- The parts of a text between slashes. -/
def splitSlashes (kind : SchemeKind) (text : Text) : List Text :=
  Text.splitAll '/' (text.map fun c => if kind.isSlash c then '/' else c)

/-- Reads the segments of a path behind its first slash. -/
def readSegments (kind : SchemeKind) (text : Text) : PathState :=
  PathState.readAll kind {} (splitSlashes kind text)

/-- A path text without its first slash. -/
def dropSlash (kind : SchemeKind) : Text → Text
  | [] => []
  | c :: rest => if kind.isSlash c then rest else c :: rest

end Url
end PageCheck
