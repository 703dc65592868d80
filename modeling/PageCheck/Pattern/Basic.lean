import PageCheck.Pattern.Budget
import PageCheck.Pattern.Reader
import PageCheck.Pattern.Resolve
import PageCheck.Pattern.Search

/-!
# Patterns

A pattern is a text in the syntax of regular expressions without look-around
and back-references.  It can be asked for inside a subject, or for the whole
subject: then it stands in a group between the two ends.  A comment that is
still open at the end of a pattern would swallow the end of that group, and so
such a pattern has no whole form.
-/

namespace PageCheck
namespace Pattern

/-- The greatest nesting depth of a pattern. -/
def depthLimit : Nat := 250

/-- The expression of a tree, provided that it is within all limits. -/
def compileTree? (caseInsensitive : Bool) (outerDepth : Nat) (tree : Node) :
    Option Expr :=
  if tree.depth + outerDepth ≤ depthLimit then
    (tree.resolve? { caseInsensitive := caseInsensitive }).map fun resolved => resolved.1
  else
    none

/-- An expression, provided that it stays within the budget. -/
def affordable? (expr : Expr) : Option Expr :=
  if expr.isAffordable then some expr else none

/-- The expression of a pattern on its own. -/
def compile? (caseInsensitive : Bool) (pattern : Text) : Option Expr :=
  match read? pattern with
  | some reading => (compileTree? caseInsensitive 0 reading.tree).bind affordable?
  | none => none

/-- The expression of a pattern for whole subjects. -/
def compileWhole? (caseInsensitive : Bool) (pattern : Text) : Option Expr :=
  match read? pattern with
  | some reading =>
      if reading.endsInComment then
        none
      else
        (compileTree? caseInsensitive 2 reading.tree).bind fun body =>
          affordable? body.whole
  | none => none

end Pattern
end PageCheck
