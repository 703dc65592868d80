import PageCheck.Pattern.Expr

/-!
# Searching with patterns

The positions of a subject are numbered from zero, and a set of positions is a
natural number whose bits mark its members.  An expression is first laid over a
subject, which turns its character sets and conditions into such sets, and then
carries a set of start positions to the set of positions where matches end.
-/

namespace PageCheck
namespace Pattern

/-- A set of positions of a subject, as the bits of a number. -/
abbrev Marks := Nat

/-- The bits of a list of truth values, the first one being the lowest. -/
def marksOf (bits : List Bool) : Marks :=
  bits.foldr (fun bit marks => 2 * marks + bit.toNat) 0

/-- The pairs of neighbours around each position of a subject. -/
def gaps (subject : Text) : List (Option Char × Option Char) :=
  (none :: subject.map some).zip (subject.map some ++ [none])

/-- An expression laid over a subject. -/
inductive Plan
  | stay
  | step (members : Marks)
  | guard (positions : Marks)
  | seq (first second : Plan)
  | alt (left right : Plan)
  | repeated (body : Plan) (least most : Nat)

/-- Lays an expression over a subject.  No repetition without a limit needs more
rounds than the subject has characters. -/
def Expr.plan (subject : Text) : Expr → Plan
  | .empty => .stay
  | .chars members => .step (marksOf (subject.map members.hasChar))
  | .look condition =>
      .guard (marksOf ((gaps subject).map fun gap => condition.holds gap.1 gap.2))
  | .seq first second => .seq (first.plan subject) (second.plan subject)
  | .alt left right => .alt (left.plan subject) (right.plan subject)
  | .repeated body least most =>
      .repeated (body.plan subject) least ((most.map (· - least)).getD subject.length)
  | .capture body => body.plan subject

/-- Applies a function a number of times, or until it changes nothing. -/
def iterate (advance : Marks → Marks) : Nat → Marks → Marks
  | 0, marks => marks
  | count + 1, marks =>
      let next := advance marks
      if next = marks then marks else iterate advance count next

/-- Collects what a function reaches in at most a number of rounds. -/
def saturate (advance : Marks → Marks) : Nat → Marks → Marks
  | 0, marks => marks
  | count + 1, marks =>
      let next := marks ||| advance marks
      if next = marks then marks else saturate advance count next

/-- The positions where matches end that start in a set of positions. -/
def Plan.ends : Plan → Marks → Marks
  | .stay, marks => marks
  | .step members, marks => (marks &&& members) <<< 1
  | .guard positions, marks => marks &&& positions
  | .seq first second, marks => second.ends (first.ends marks)
  | .alt left right, marks => left.ends marks ||| right.ends marks
  | .repeated body least most, marks =>
      saturate body.ends most (iterate body.ends least marks)

/-- The set of all positions of a subject. -/
def allPositions (subject : Text) : Marks :=
  Nat.pow 2 (subject.length + 1) - 1

/-- Whether an expression matches some word of a subject. -/
def Expr.occursIn (expr : Expr) (subject : Text) : Bool :=
  (expr.plan subject).ends (allPositions subject) != 0

end Pattern
end PageCheck
