import PageCheck.Unicode.CodePoints
import PageCheck.Unicode.CompositionTable

/-!
# Canonical composition

A text is composed in three steps: every code point is split as far as possible,
marks are sorted by their combining classes, and each mark that nothing blocks is
composed with the last code point of class zero.
-/

namespace PageCheck
namespace Unicode

/-- The pairs of a table, each under the code point it is composed to. -/
def pairRows (table : List String) : List (Nat × Nat × Nat) :=
  (table.flatMap tableWords).filterMap fun word =>
    match word with
    | [code, first, second] => some (code, first, second)
    | _ => none

/-- The pairs that are composed. -/
def compositions : List (Nat × Nat × Nat) := pairRows composedPairs

/-- The pairs that code points are split into. -/
def splits : List (Nat × Nat × Nat) := compositions ++ pairRows splitPairs

/-- The sets of the combining classes other than zero. -/
def combiningSets : List (Nat × CodePoints) :=
  combiningRuns.map fun row => (row.1, CodePoints.ofRuns row.2)

/-- The combining class of a code point. -/
def combiningClass (code : Nat) : Nat :=
  if code < 0x300 then
    0
  else
    ((combiningSets.find? fun row => row.2.contains code).map fun row => row.1).getD 0

/-! ## Splitting -/

/-- Splits a Hangul syllable into its letters. -/
def splitHangul? (code : Nat) : Option (List Nat) :=
  if 0xAC00 ≤ code ∧ code < 0xAC00 + 11172 then
    let index := code - 0xAC00
    let front := [0x1100 + index / 588, 0x1161 + index % 588 / 28]
    some (if index % 28 = 0 then front else front ++ [0x11A7 + index % 28])
  else
    none

/-- Splits a code point as far as possible.  No chain of splits is longer than
the given number of steps. -/
def splitFully : Nat → Nat → List Nat
  | 0, code => [code]
  | steps + 1, code =>
      if code < 0xC0 then
        [code]
      else
        match splitHangul? code with
        | some letters => letters
        | none =>
            match splits.find? fun row => row.1 = code with
            | some (_, first, second) => splitFully steps first ++ [second]
            | none => [code]

/-! ## Ordering -/

/-- Inserts a mark before the marks of greater class at the front of a list that
is kept backwards. -/
def insertMark (mark : Nat) : List Nat → List Nat
  | [] => [mark]
  | last :: rest =>
      if combiningClass mark < combiningClass last then
        last :: insertMark mark rest
      else
        mark :: last :: rest

/-- Sorts the marks between code points of class zero by their classes. -/
def sortMarks (codes : List Nat) : List Nat :=
  (codes.foldl (fun sorted code =>
    if combiningClass code = 0 then code :: sorted else insertMark code sorted) []).reverse

/-! ## Composing -/

/-- The code point that a pair is composed to. -/
def composePair? (first second : Nat) : Option Nat :=
  if 0x1100 ≤ first ∧ first < 0x1113 ∧ 0x1161 ≤ second ∧ second < 0x1176 then
    some (0xAC00 + (first - 0x1100) * 588 + (second - 0x1161) * 28)
  else if 0xAC00 ≤ first ∧ first < 0xAC00 + 11172 ∧ (first - 0xAC00) % 28 = 0 ∧
      0x11A7 < second ∧ second < 0x11C3 then
    some (first + (second - 0x11A7))
  else
    (compositions.find? fun row => row.2.1 = first ∧ row.2.2 = second).map fun row => row.1

/-- Where composing has got to: the finished code points backwards, the last code
point of class zero, and the marks behind it backwards. -/
structure ComposeState where
  finished : List Nat := []
  starter : Option Nat := none
  marks : List Nat := []

namespace ComposeState

/-- Everything composed so far, backwards. -/
def flush (state : ComposeState) : List Nat :=
  state.marks ++ state.starter.toList ++ state.finished

/-- Takes in one more code point. -/
def push (state : ComposeState) (code : Nat) : ComposeState :=
  let rank := combiningClass code
  let free := match state.marks with
    | [] => true
    | last :: _ => decide (combiningClass last < rank)
  let composed := if free then state.starter.bind fun first => composePair? first code else none
  match composed with
  | some whole => { state with starter := some whole }
  | none =>
      if rank = 0 then
        { finished := state.flush, starter := some code }
      else
        { state with marks := code :: state.marks }

end ComposeState

/-- The composed form of a list of code points. -/
def compose (codes : List Nat) : List Nat :=
  let sorted := sortMarks (codes.flatMap (splitFully 8))
  (sorted.foldl ComposeState.push {}).flush.reverse

end Unicode
end PageCheck
