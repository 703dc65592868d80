import PageCheck.BuildError
import PageCheck.Pattern.Basic
import PageCheck.Text.Lowercase

/-!
# Matching texts

A matcher compares subjects with an expected text.  It looks for the text inside
a subject or wants the subject to be the text, it may ignore case, and it may
read the text as a pattern.  A pattern has to be valid on its own before it is
used for whole subjects.
-/

namespace PageCheck

/-- How much of a subject an expected text has to cover. -/
inductive MatchMode
  | substring
  | exact
deriving DecidableEq, Repr

/-- A comparison with an expected text. -/
structure Matcher where
  expected : Text
  mode : MatchMode
  ignoresCase : Bool
  pattern : Option Pattern.Expr
deriving Repr

namespace Matcher

/-- The expression of a pattern in a mode. -/
def compile? (mode : MatchMode) (ignoresCase : Bool) (pattern : Text) :
    Option Pattern.Expr :=
  match mode with
  | .substring => Pattern.compile? ignoresCase pattern
  | .exact => Pattern.compileWhole? ignoresCase pattern

/-- Builds a matcher. -/
def build (expected : Text) (mode : MatchMode) (modifiers : Modifiers) :
    Except BuildError Matcher :=
  if modifiers.regexp then
    match Pattern.compile? false expected,
        compile? mode modifiers.caseInsensitive expected with
    | some _, some pattern =>
        .ok ⟨expected, mode, modifiers.caseInsensitive, some pattern⟩
    | _, _ => .error (.invalidPattern expected)
  else
    .ok ⟨expected, mode, modifiers.caseInsensitive, none⟩

/-- Whether a literal text covers a subject in a mode. -/
def covers (mode : MatchMode) (expected subject : Text) : Bool :=
  match mode with
  | .substring => Text.occursIn expected subject
  | .exact => subject == expected

/-- Whether a subject matches. -/
def accepts (matcher : Matcher) (subject : Text) : Bool :=
  match matcher.pattern with
  | some pattern => pattern.occursIn subject
  | none =>
      if matcher.ignoresCase then
        covers matcher.mode (Text.lowercase matcher.expected) (Text.lowercase subject)
      else
        covers matcher.mode matcher.expected subject

end Matcher
end PageCheck
