import PageCheck.Text.Basic

/-!
# The syntax of patterns

A pattern is read into a tree that keeps what was written: flags are still
settings in their places, classes are still set expressions and properties are
still names.  The nesting depth of a tree is limited.
-/

namespace PageCheck
namespace Pattern

/-- The flags that can be set inside a pattern. -/
inductive Flag
  | caseInsensitive
  | multiLine
  | dotMatchesLineFeed
  | swapGreed
  | unicode
  | carriageReturn
  | ignoreBlanks
deriving DecidableEq, Repr

/-- Flags that are switched on or off, in the order written. -/
abbrev Settings := List (Flag × Bool)

/-- What a list of settings does to one flag, if anything. -/
def Settings.state? (settings : Settings) (flag : Flag) : Option Bool :=
  (settings.find? fun item => item.1 = flag).map fun item => item.2

/-- A character of a pattern, and whether it was written as a two-digit code. -/
structure Literal where
  char : Char
  isByteCode : Bool := false
deriving DecidableEq, Repr

/-- The places in a subject that a pattern can ask for. -/
inductive Place
  | lineStart
  | lineEnd
  | textStart
  | textEnd
  | wordEdge
  | notWordEdge
  | wordStart
  | wordEnd
  | wordStartHalf
  | wordEndHalf
deriving DecidableEq, Repr

/-- The classes with a letter of their own. -/
inductive LetterClass
  | digit
  | blank
  | word
deriving DecidableEq, Repr

/-- The named classes of ASCII characters. -/
inductive AsciiClass
  | alnum
  | alpha
  | ascii
  | blank
  | cntrl
  | digit
  | graph
  | lower
  | print
  | punct
  | space
  | upper
  | word
  | xdigit
deriving DecidableEq, Repr

/-- How a class names a property. -/
inductive PropertyQuery
  | name (name : Text)
  | withValue (name value : Text)
deriving DecidableEq, Repr

/-- The operators between two operands inside brackets. -/
inductive SetOperator
  | inter
  | diff
  | symmDiff
deriving DecidableEq, Repr

/-- The expressions that stand for sets of characters. -/
inductive ClassSet
  | nothing
  | literal (literal : Literal)
  | range (first last : Literal)
  | letter (letter : LetterClass) (negated : Bool)
  | ascii (name : AsciiClass) (negated : Bool)
  | property (query : PropertyQuery) (negated : Bool)
  | bracketed (negated : Bool) (body : ClassSet)
  | union (items : List ClassSet)
  | binary (operator : SetOperator) (left right : ClassSet)

namespace ClassSet

mutual

/-- How deeply a set expression nests. -/
def depth : ClassSet → Nat
  | .bracketed _ body => body.depth + 1
  | .union items => depthOfAll items + 1
  | .binary _ left right => max left.depth right.depth + 1
  | _ => 0

/-- The greatest depth among set expressions. -/
def depthOfAll : List ClassSet → Nat
  | [] => 0
  | item :: rest => max item.depth (depthOfAll rest)

end

/-- The set expression of items that stand side by side. -/
def ofItems : List ClassSet → ClassSet
  | [] => .nothing
  | [item] => item
  | items => .union items

end ClassSet

/-- The trees that patterns are read into. -/
inductive Node
  | empty
  | settings (settings : Settings)
  | literal (literal : Literal)
  | anyChar
  | place (place : Place)
  | oneOf (members : ClassSet)
  | repeated (body : Node) (least : Nat) (most : Option Nat)
  | group (captures : Bool) (settings : Settings) (body : Node)
  | alternatives (branches : List Node)
  | sequence (items : List Node)

namespace Node

mutual

/-- How deeply a tree nests. -/
def depth : Node → Nat
  | .oneOf members => members.depth
  | .repeated body _ _ => body.depth + 1
  | .group _ _ body => body.depth + 1
  | .alternatives branches => depthOfAll branches + 1
  | .sequence items => depthOfAll items + 1
  | _ => 0

/-- The greatest depth among trees. -/
def depthOfAll : List Node → Nat
  | [] => 0
  | node :: rest => max node.depth (depthOfAll rest)

end

/-- The tree of items that follow each other. -/
def ofItems : List Node → Node
  | [] => .empty
  | [item] => item
  | items => .sequence items

/-- The tree of alternative branches. -/
def ofBranches : List Node → Node
  | [branch] => branch
  | branches => .alternatives branches

/-- Whether a repetition may follow a node. -/
def isRepeatable : Node → Bool
  | .empty => false
  | .settings _ => false
  | _ => true

end Node
end Pattern
end PageCheck
