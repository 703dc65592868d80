import PageCheck.Pattern.Expr

/-!
# Occurrences of patterns

An expression is tried at one place of a subject after the other.  Where it matches,
several words may be possible, and their ends are listed with the preferred one first: that
of the left alternative, and that of the longer repetition.  The occurrences of an
expression are the words that are found in this way from left to right, each of them behind
the one before.

An expression does not tell which of its repetitions should rather be short, so occurrences
are looked for only where none should; and they are words of at least one character.
-/

namespace PageCheck
namespace Pattern

/-- The end of a word, and the bounds of the group that was closed last in front of it. -/
structure Stop where
  place : Nat
  group : Option (Nat × Nat)
deriving DecidableEq, Repr

/-- Goes on for a number of rounds. -/
def repeatExactly (advance : Stop → List Stop) : Nat → Stop → List Stop
  | 0, here => [here]
  | count + 1, here => (advance here).flatMap (repeatExactly advance count)

/-- Goes on for at most a number of rounds, and for more of them rather than for fewer.  No
round stays in its place. -/
def repeatAtMost (advance : Stop → List Stop) : Nat → Stop → List Stop
  | 0, here => [here]
  | count + 1, here =>
      ((advance here).filter fun next => here.place < next.place).flatMap
        (repeatAtMost advance count) ++ [here]

/-- The ends of the words that an expression matches from a place on, the preferred one
first.  No repetition without a limit needs more rounds than the subject has characters. -/
def Expr.stops (subject : Text) : Expr → Stop → List Stop
  | .empty, here => [here]
  | .chars members, here =>
      if subject[here.place]?.any members.hasChar then
        [{ here with place := here.place + 1 }]
      else
        []
  | .look condition, here =>
      if condition.holds (subject.take here.place).getLast? subject[here.place]? then
        [here]
      else
        []
  | .seq first second, here => (first.stops subject here).flatMap (second.stops subject)
  | .alt left right, here => left.stops subject here ++ right.stops subject here
  | .repeated body least most, here =>
      (repeatExactly (body.stops subject) least here).flatMap
        (repeatAtMost (body.stops subject) ((most.map (· - least)).getD subject.length))
  | .capture body, here =>
      (body.stops subject here).map fun stop =>
        { stop with group := some (here.place, stop.place) }

/-- A word that has been found in a subject, by its bounds, and the bounds of its group. -/
structure Occurrence where
  start : Nat
  stop : Nat
  group : Option (Nat × Nat)
deriving DecidableEq, Repr

namespace Expr

/-- The word that is found at a place, if there is one. -/
def occurrence? (expr : Expr) (subject : Text) (place : Nat) : Option Occurrence :=
  (expr.stops subject ⟨place, none⟩).head?.map fun stop => ⟨place, stop.place, stop.group⟩

/-- The words that are found at increasing places, but for those places that come before the
first free one.  Behind a word, its end is the first free place. -/
def occurrencesAt (expr : Expr) (subject : Text) : Nat → List Nat → List Occurrence
  | _, [] => []
  | free, place :: places =>
      if place < free then
        expr.occurrencesAt subject free places
      else
        match expr.occurrence? subject place with
        | some found => found :: expr.occurrencesAt subject found.stop places
        | none => expr.occurrencesAt subject free places

/-- The words that are found in a subject, from left to right. -/
def occurrences (expr : Expr) (subject : Text) : List Occurrence :=
  expr.occurrencesAt subject 0 (List.range (subject.length + 1))

end Expr
end Pattern
end PageCheck
