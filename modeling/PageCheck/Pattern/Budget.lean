import PageCheck.Pattern.Expr

/-!
# The budget of a pattern

A pattern may take a bounded amount of memory.  The estimate counts the states
of an automaton over UTF-8: a repetition copies its body, and a set beyond ASCII
needs a state for every distinct start of the byte sequences of its members.
-/

namespace PageCheck
namespace Pattern

/-- The greatest estimate, in bytes, that a pattern may have. -/
def budget : Nat := 10 * 1024 * 1024

/-- The estimate of one state, in bytes. -/
def stateCost : Nat := 32

/-- The ranges of bytes that the code points of a range can have, place by
place, when all of them are as long and every place is independent. -/
def byteRanges (first last : Nat) : List (Nat × Nat) :=
  let lead (code : Nat) : Nat × Nat :=
    if code < 0x80 then (1, code)
    else if code < 0x800 then (2, code / 0x40)
    else if code < 0x10000 then (3, code / 0x1000)
    else (4, code / 0x40000)
  let tail (code index : Nat) : Nat := code / Nat.pow 0x40 index % 0x40
  ((lead first).2, (lead last).2) ::
    ((List.range ((lead first).1 - 1)).reverse.map fun index =>
      (tail first index, tail last index))

/-- A place where a range has to be cut so that its code points become equally
long and their bytes independent: the first code point behind the cut. -/
def cut? (first last : Nat) : Option Nat :=
  let lengths := [0x80, 0x800, 0x10000].find? fun bound => first < bound && bound ≤ last
  let blocks := [0x40, 0x1000, 0x40000].findSome? fun size =>
    if first / size = last / size then
      none
    else if first % size ≠ 0 then
      some ((first / size + 1) * size)
    else if last % size ≠ size - 1 then
      some (last / size * size)
    else
      none
  if first < 0xD800 ∧ 0xDFFF < last then
    some 0xE000
  else
    lengths.or (if last < 0x80 then none else blocks)

/-- The byte sequences of a range of code points, in increasing order. -/
def byteSequences : Nat → Nat → Nat → List (List (Nat × Nat))
  | 0, _, _ => []
  | fuel + 1, first, last =>
      match cut? first last with
      | some next =>
          byteSequences fuel first (if next = 0xE000 ∧ first < 0xD800 then 0xD7FF else next - 1) ++
            byteSequences fuel next last
      | none => [byteRanges first last]

/-- How many leading places two sequences have in common. -/
def commonStart : List (Nat × Nat) → List (Nat × Nat) → Nat
  | left :: lefts, right :: rights =>
      if left = right then commonStart lefts rights + 1 else 0
  | _, _ => 0

/-- The number of distinct starts of increasing sequences. -/
def distinctStarts (previous : List (Nat × Nat)) : List (List (Nat × Nat)) → Nat
  | [] => 0
  | sequence :: rest =>
      (sequence.length - commonStart previous sequence) + distinctStarts sequence rest

/-- The estimate of a set of characters. -/
def setCost (set : Unicode.CodePoints) : Nat :=
  match set.ranges with
  | [] => stateCost
  | [(first, last)] =>
      if first = last then
        stateCost * (byteRanges first last).length
      else if last < 0x80 then
        2 * stateCost
      else
        wideCost set
  | ranges =>
      if set.isAscii then 2 * stateCost + 8 * ranges.length else wideCost set
where
  wideCost (set : Unicode.CodePoints) : Nat :=
    let sequences := set.ranges.flatMap fun range => byteSequences 64 range.1 range.2
    stateCost * (distinctStarts [] sequences + 2) + 4 * sequences.length

namespace Expr

/-- Whether an expression can match the empty word. -/
def matchesEmpty : Expr → Bool
  | .empty => true
  | .chars _ => false
  | .look _ => true
  | .seq first second => first.matchesEmpty && second.matchesEmpty
  | .alt left right => left.matchesEmpty || right.matchesEmpty
  | .repeated body least _ => least == 0 || body.matchesEmpty
  | .capture body => body.matchesEmpty

/-- Whether an expression matches no word but the empty one. -/
def matchesOnlyEmpty : Expr → Bool
  | .empty => true
  | .chars _ => false
  | .look _ => true
  | .seq first second => first.matchesOnlyEmpty && second.matchesOnlyEmpty
  | .alt left right => left.matchesOnlyEmpty && right.matchesOnlyEmpty
  | .repeated body _ most => most == some 0 || body.matchesOnlyEmpty
  | .capture body => body.matchesOnlyEmpty

/-- The estimate of an expression, in bytes. -/
def cost : Expr → Nat
  | .empty => stateCost
  | .chars members => setCost members
  | .look _ => stateCost
  | .seq first second => first.cost + second.cost
  | .alt left right => left.cost + right.cost + 2 * stateCost + 8
  | .repeated body least most =>
      let branch := stateCost + 8
      let least := if body.matchesOnlyEmpty then min least 1 else least
      let most := if body.matchesOnlyEmpty then some (min (most.getD 1) 1) else most
      match least, most with
      | 0, some 0 => stateCost
      | 1, some 1 => body.cost
      | 0, none =>
          if body.matchesEmpty then
            body.cost + 2 * branch + stateCost
          else
            body.cost + branch
      | 0, some 1 => body.cost + branch + stateCost
      | least, none => least * body.cost + branch
      | least, some most =>
          least * body.cost + (most - least) * (body.cost + branch) + stateCost
  | .capture body => body.cost + 2 * stateCost

/-- Whether an expression stays within the budget. -/
def isAffordable (expr : Expr) : Bool :=
  expr.cost + 8 * stateCost ≤ budget

end Expr
end Pattern
end PageCheck
