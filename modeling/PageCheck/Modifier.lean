import PageCheck.Text.Basic

/-!
# Modifiers of assertions

A modifier negates an assertion, lets it ignore case or makes its text a
pattern.  Modifiers form sets, which are described in a fixed order.
-/

namespace PageCheck

/-- A modifier of assertions. -/
inductive Modifier
  | negated
  | caseInsensitive
  | regexp
deriving DecidableEq, Repr

namespace Modifier

/-- All modifiers, in the order in which they are described. -/
def all : List Modifier := [.negated, .caseInsensitive, .regexp]

/-- The sign of a modifier in test files. -/
def sign : Modifier → Text
  | .negated => ['!']
  | .caseInsensitive => ['~']
  | .regexp => ['/']

/-- The name of a modifier in messages. -/
def name : Modifier → Text
  | .negated => "not"
  | .caseInsensitive => "case insensitive"
  | .regexp => "regexp"

/-- The modifier with a sign. -/
def ofSign? (text : Text) : Option Modifier :=
  all.find? fun modifier => modifier.sign = text

@[simp] theorem ofSign?_sign (modifier : Modifier) :
    ofSign? modifier.sign = some modifier := by
  cases modifier <;> rfl

end Modifier

/-- A set of modifiers. -/
structure Modifiers where
  negated : Bool := false
  caseInsensitive : Bool := false
  regexp : Bool := false
deriving DecidableEq, Repr, Inhabited

namespace Modifiers

/-- The empty set of modifiers. -/
def none : Modifiers := {}

/-- The set of all modifiers. -/
def all : Modifiers := ⟨true, true, true⟩

/-- The set with one modifier. -/
def only : Modifier → Modifiers
  | .negated => { negated := true }
  | .caseInsensitive => { caseInsensitive := true }
  | .regexp => { regexp := true }

/-- Whether a modifier is in a set. -/
def has (modifiers : Modifiers) : Modifier → Bool
  | .negated => modifiers.negated
  | .caseInsensitive => modifiers.caseInsensitive
  | .regexp => modifiers.regexp

/-- The modifiers of either set. -/
def union (left right : Modifiers) : Modifiers :=
  ⟨left.negated || right.negated, left.caseInsensitive || right.caseInsensitive,
    left.regexp || right.regexp⟩

/-- The modifiers of the first set that are not in the second. -/
def without (left right : Modifiers) : Modifiers :=
  ⟨left.negated && !right.negated, left.caseInsensitive && !right.caseInsensitive,
    left.regexp && !right.regexp⟩

/-- Whether every modifier of the second set is in the first. -/
def contains (left right : Modifiers) : Bool :=
  Modifier.all.all fun modifier => !right.has modifier || left.has modifier

/-- Whether a set has no modifier. -/
def isEmpty (modifiers : Modifiers) : Bool :=
  modifiers = none

/-- The set with one more modifier. -/
def insert (modifiers : Modifiers) (modifier : Modifier) : Modifiers :=
  modifiers.union (only modifier)

@[simp] theorem has_none (modifier : Modifier) : none.has modifier = false := by
  cases modifier <;> rfl

@[simp] theorem has_only (left right : Modifier) :
    (only left).has right = decide (left = right) := by
  cases left <;> cases right <;> rfl

@[simp] theorem has_union (left right : Modifiers) (modifier : Modifier) :
    (left.union right).has modifier = (left.has modifier || right.has modifier) := by
  cases modifier <;> rfl

@[simp] theorem has_without (left right : Modifiers) (modifier : Modifier) :
    (left.without right).has modifier = (left.has modifier && !right.has modifier) := by
  cases modifier <;> rfl

/-- Two sets with the same modifiers are equal. -/
theorem ext_has {left right : Modifiers}
    (agree : ∀ modifier, left.has modifier = right.has modifier) :
    left = right := by
  have first := agree .negated
  have second := agree .caseInsensitive
  have third := agree .regexp
  cases left
  cases right
  simp_all [has]

/-- The names of the modifiers in a set, in order. -/
def names (modifiers : Modifiers) : List Text :=
  (Modifier.all.filter modifiers.has).map Modifier.name

/-- All modifiers of a set by name. -/
def describe (modifiers : Modifiers) : Text :=
  Text.joinWith ", " modifiers.names

/-- The modifiers of a set by name, apart from the negation, which shows in the
wording of a message. -/
def display (modifiers : Modifiers) : Text :=
  (modifiers.without (only .negated)).describe

/-- What a message ends with to tell which modifiers were at work. -/
def suffix (modifiers : Modifiers) : Text :=
  if (modifiers.without (only .negated)).isEmpty then
    []
  else
    " (" ++ modifiers.display ++ ")"

end Modifiers
end PageCheck
