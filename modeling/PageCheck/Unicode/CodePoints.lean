/-!
# Sets of code points

A set of code points is kept as a list of ranges that increase and do not
touch.  Union and complement are computed on the ranges, and the other set
operations follow from these two.

Tables of character properties are written as runs: each run gives the gap to
the previous one and, behind a plus sign, how many further code points it has,
both in hexadecimal.
-/

namespace PageCheck
namespace Unicode

/-- The largest code point. -/
def lastCodePoint : Nat := 0x10FFFF

/-- A set of code points, as increasing ranges that do not touch. -/
structure CodePoints where
  ranges : List (Nat × Nat)
deriving DecidableEq, Repr, Inhabited

namespace CodePoints

/-- The set without elements. -/
def empty : CodePoints := ⟨[]⟩

/-- The set of all code points. -/
def all : CodePoints := ⟨[(0, lastCodePoint)]⟩

/-- Whether a code point belongs to a set. -/
def contains (set : CodePoints) (code : Nat) : Bool :=
  set.ranges.any fun range => range.1 ≤ code && code ≤ range.2

/-- Whether a character belongs to a set. -/
def hasChar (set : CodePoints) (c : Char) : Bool :=
  set.contains c.toNat

/-- Joins ranges, given by increasing starts, that overlap or touch. -/
def joinTouching : List (Nat × Nat) → List (Nat × Nat)
  | [] => []
  | range :: rest => go range rest
where
  go (current : Nat × Nat) : List (Nat × Nat) → List (Nat × Nat)
    | [] => [current]
    | next :: rest =>
        if next.1 ≤ current.2 + 1 then
          go (current.1, max current.2 next.2) rest
        else
          current :: go next rest

/-- The set that is covered by ranges in any order. -/
def ofRanges (ranges : List (Nat × Nat)) : CodePoints :=
  let proper := ranges.filter fun range => range.1 ≤ range.2
  ⟨joinTouching (proper.mergeSort fun left right => left.1 ≤ right.1)⟩

/-- The set with one character. -/
def singleton (c : Char) : CodePoints := ⟨[(c.toNat, c.toNat)]⟩

/-- The code points that are in one of two sets. -/
def union (left right : CodePoints) : CodePoints :=
  ofRanges (left.ranges ++ right.ranges)

/-- The gaps between ranges, from a first code point on. -/
def gapsFrom (first : Nat) : List (Nat × Nat) → List (Nat × Nat)
  | [] => if first ≤ lastCodePoint then [(first, lastCodePoint)] else []
  | range :: rest =>
      if first < range.1 then
        (first, range.1 - 1) :: gapsFrom (range.2 + 1) rest
      else
        gapsFrom (range.2 + 1) rest

/-- The code points that are not in a set. -/
def complement (set : CodePoints) : CodePoints :=
  ⟨gapsFrom 0 set.ranges⟩

/-- The code points that are in both sets. -/
def inter (left right : CodePoints) : CodePoints :=
  (left.complement.union right.complement).complement

/-- The code points of the first set that are not in the second. -/
def diff (left right : CodePoints) : CodePoints :=
  (left.complement.union right).complement

/-- The code points that are in exactly one of two sets. -/
def symmDiff (left right : CodePoints) : CodePoints :=
  (left.diff right).union (right.diff left)

/-- The union of a list of sets. -/
def unions (sets : List CodePoints) : CodePoints :=
  ofRanges (sets.flatMap ranges)

/-- Whether a set has ASCII characters only. -/
def isAscii (set : CodePoints) : Bool :=
  set.ranges.all fun range => range.2 < 0x80

end CodePoints

/-- The value of a hexadecimal digit. -/
def hexValue? (c : Char) : Option Nat :=
  if '0' ≤ c ∧ c ≤ '9' then
    some (c.toNat - 48)
  else if 'a' ≤ c ∧ c ≤ 'f' then
    some (c.toNat - 87)
  else if 'A' ≤ c ∧ c ≤ 'F' then
    some (c.toNat - 55)
  else
    none

/-- What has been read of a table: the number and the word that are not finished
yet, and the finished words.  Both lists are kept backwards. -/
structure TableState where
  number : Option Nat := none
  word : List Nat := []
  words : List (List Nat) := []

namespace TableState

/-- Ends the word that is being read, if there is one. -/
def closeWord (state : TableState) : TableState :=
  match state.number with
  | some number => { words := (number :: state.word).reverse :: state.words }
  | none => state

/-- Reads one more character of a table. -/
def push (state : TableState) (c : Char) : TableState :=
  match hexValue? c with
  | some digit => { state with number := some (16 * state.number.getD 0 + digit) }
  | none =>
      if c = '+' then
        { state with number := none, word := state.number.getD 0 :: state.word }
      else
        state.closeWord

end TableState

/-- The words of a table.  Blanks separate words, and plus signs separate the
hexadecimal numbers of a word. -/
def tableWords (table : String) : List (List Nat) :=
  (table.toList.foldl TableState.push {}).closeWord.words.reverse

/-- Places runs one behind the other. -/
def placeRuns : Nat → List (List Nat) → List (Nat × Nat)
  | next, (gap :: more) :: rest =>
      let first := next + gap
      let last := first + more.headD 0
      (first, last) :: placeRuns (last + 1) rest
  | _, _ => []

/-- The set of code points that a table of runs describes. -/
def CodePoints.ofRuns (table : String) : CodePoints :=
  ⟨placeRuns 0 (tableWords table)⟩

end Unicode
end PageCheck
