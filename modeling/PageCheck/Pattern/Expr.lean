import PageCheck.Text.Basic
import PageCheck.Unicode.Property

/-!
# Pattern expressions

A pattern expression is what a pattern means once its flags, names and classes
are resolved.  Which words it matches depends on the characters around them, so
the meaning is a relation between an expression, the text before a word, the
word and the text after it.
-/

namespace PageCheck
namespace Pattern

/-- Conditions on a position between two characters. -/
inductive Look
  | start
  | stop
  | lineStart
  | lineEnd
  | lineStartReturn
  | lineEndReturn
  | wordEdge (unicode : Bool)
  | notWordEdge (unicode : Bool)
  | wordStart (unicode : Bool)
  | wordEnd (unicode : Bool)
  | wordStartHalf (unicode : Bool)
  | wordEndHalf (unicode : Bool)
deriving DecidableEq, Repr

/-- Whether a character belongs to a word. -/
def isWordChar (unicode : Bool) (c : Char) : Bool :=
  if c.toNat < 0x80 then
    c.isAlphanum || c == '_'
  else
    unicode && Unicode.wordCharacters.hasChar c

namespace Look

/-- Whether a condition holds between two neighbours, of which either may be
missing at an end of the subject. -/
def holds (look : Look) (before after : Option Char) : Bool :=
  match look with
  | .start => before.isNone
  | .stop => after.isNone
  | .lineStart => before.isNone || before == some '\n'
  | .lineEnd => after.isNone || after == some '\n'
  | .lineStartReturn =>
      before.isNone || before == some '\n' ||
        (before == some '\r' && after != some '\n')
  | .lineEndReturn =>
      after.isNone || after == some '\r' ||
        (after == some '\n' && before != some '\r')
  | .wordEdge unicode =>
      before.any (isWordChar unicode) != after.any (isWordChar unicode)
  | .notWordEdge unicode =>
      before.any (isWordChar unicode) == after.any (isWordChar unicode)
  | .wordStart unicode =>
      !before.any (isWordChar unicode) && after.any (isWordChar unicode)
  | .wordEnd unicode =>
      before.any (isWordChar unicode) && !after.any (isWordChar unicode)
  | .wordStartHalf unicode => !before.any (isWordChar unicode)
  | .wordEndHalf unicode => !after.any (isWordChar unicode)

end Look

/-- A pattern with everything resolved. -/
inductive Expr
  | empty
  | chars (members : Unicode.CodePoints)
  | look (condition : Look)
  | seq (first second : Expr)
  | alt (left right : Expr)
  | repeated (body : Expr) (least : Nat) (most : Option Nat)
  | capture (body : Expr)
deriving Repr

/-- An expression matches a word that stands between two texts. -/
inductive Matches : Expr → Text → Text → Text → Prop
  | empty {before after : Text} : Matches .empty before [] after
  | chars
      {members : Unicode.CodePoints}
      {before after : Text}
      {c : Char}
      (member : members.hasChar c = true) :
      Matches (.chars members) before [c] after
  | look
      {condition : Look}
      {before after : Text}
      (holds : condition.holds before.getLast? after.head? = true) :
      Matches (.look condition) before [] after
  | seq
      {first second : Expr}
      {before front back after : Text}
      (left : Matches first before front (back ++ after))
      (right : Matches second (before ++ front) back after) :
      Matches (.seq first second) before (front ++ back) after
  | altLeft
      {left right : Expr}
      {before word after : Text}
      (inner : Matches left before word after) :
      Matches (.alt left right) before word after
  | altRight
      {left right : Expr}
      {before word after : Text}
      (inner : Matches right before word after) :
      Matches (.alt left right) before word after
  | done
      {body : Expr}
      {most : Option Nat}
      {before after : Text} :
      Matches (.repeated body 0 most) before [] after
  | again
      {body : Expr}
      {least : Nat}
      {most : Option Nat}
      {before front back after : Text}
      (allowed : most ≠ some 0)
      (head : Matches body before front (back ++ after))
      (tail :
        Matches (.repeated body (least - 1) (most.map (· - 1)))
          (before ++ front) back after) :
      Matches (.repeated body least most) before (front ++ back) after
  | capture
      {body : Expr}
      {before word after : Text}
      (inner : Matches body before word after) :
      Matches (.capture body) before word after

namespace Expr

/-- The expression that matches no word. -/
def never : Expr := .chars Unicode.CodePoints.empty

/-- The expression of others in sequence. -/
def sequence : List Expr → Expr
  | [] => .empty
  | [item] => item
  | item :: rest => .seq item (sequence rest)

/-- The expression of alternatives. -/
def alternatives : List Expr → Expr
  | [] => never
  | [branch] => branch
  | branch :: rest => .alt branch (alternatives rest)

/-- The expression for a subject that is matched from its start to its end. -/
def whole (body : Expr) : Expr :=
  .seq (.look .start) (.seq body (.look .stop))

/-- An anchored expression matches a word of a subject exactly when the word is
the whole subject and the expression matches it. -/
theorem matches_whole_iff {body : Expr} {before word after : Text} :
    Matches (whole body) before word after ↔
      before = [] ∧ after = [] ∧ Matches body [] word [] := by
  constructor
  · intro found
    cases found with
    | seq left right =>
        cases left with
        | look startHolds =>
            cases right with
            | seq inner last =>
                cases last with
                | look stopHolds =>
                    simp [Look.holds] at startHolds stopHolds
                    subst startHolds
                    subst stopHolds
                    simpa using inner
  · rintro ⟨rfl, rfl, inner⟩
    have last : Matches (.look .stop) ([] ++ word) [] [] := .look rfl
    have both : Matches (.seq body (.look .stop)) [] (word ++ []) [] :=
      .seq (by simpa using inner) last
    have start : Matches (.look .start) [] [] ((word ++ []) ++ []) := .look rfl
    have full := Matches.seq start (by simpa using both)
    simpa [whole] using full

end Expr
end Pattern
end PageCheck
