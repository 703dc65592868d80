import PageCheck.Unicode.CaseTable
import PageCheck.Unicode.CodePoints

/-!
# Simple case folding

Two characters are equal up to case when their simple case foldings agree.
Closing a set under this equality adds to it all case variants of its members.
-/

namespace PageCheck
namespace Unicode

/-- Every code point that folding changes, with its folding. -/
def foldingPairs : List (Nat × Nat) :=
  foldingRuns.flatMap CaseRun.pairs

namespace CodePoints

/-- The foldings of those members of a set that have case variants. -/
def foldings (set : CodePoints) : List Nat :=
  foldingPairs.filterMap fun pair =>
    if set.contains pair.1 || set.contains pair.2 then some pair.2 else none

/-- A set together with all case variants of its members. -/
def closeUnderCase (set : CodePoints) : CodePoints :=
  let reached := set.foldings
  if reached.isEmpty then
    set
  else
    let variants := foldingPairs.filterMap fun pair =>
      if reached.contains pair.2 then some pair.1 else none
    ofRanges (set.ranges ++ (reached ++ variants).map fun code => (code, code))

/-- A set together with the other case of its ASCII letters. -/
def closeUnderAsciiCase (set : CodePoints) : CodePoints :=
  let letters := (List.range 26).flatMap fun index =>
    let upper := 0x41 + index
    let lower := 0x61 + index
    if set.contains upper || set.contains lower then [(upper, upper), (lower, lower)] else []
  ofRanges (set.ranges ++ letters)

end CodePoints
end Unicode
end PageCheck
