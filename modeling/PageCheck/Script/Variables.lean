import PageCheck.Text.Basic

/-!
# Variables

Variables have a name and a value.  The value of a variable is the one that was
set last; a default counts only for a variable without a value.
-/

namespace PageCheck

/-- Variables with their values, the one that was set last being the first. -/
structure Variables where
  entries : List (Text × Text) := []
deriving DecidableEq, Repr, Inhabited

namespace Variables

/-- The value of a variable. -/
def get? (scope : Variables) (name : Text) : Option Text :=
  (scope.entries.find? fun entry => entry.1 = name).map fun entry => entry.2

/-- Whether a variable has a value. -/
def has (scope : Variables) (name : Text) : Bool :=
  (scope.get? name).isSome

/-- The variables with a value set. -/
def set (scope : Variables) (name value : Text) : Variables :=
  ⟨(name, value) :: scope.entries⟩

/-- The variables with a value set, unless there is one already. -/
def setDefault (scope : Variables) (name value : Text) : Variables :=
  if scope.has name then scope else scope.set name value

/-- The variables of a list of names and values that are set in order. -/
def ofList (pairs : List (Text × Text)) : Variables :=
  pairs.foldl (fun scope pair => scope.set pair.1 pair.2) {}

@[simp] theorem get?_empty (name : Text) : ({} : Variables).get? name = none := rfl

@[simp] theorem get?_set (scope : Variables) (name value wanted : Text) :
    (scope.set name value).get? wanted =
      if name = wanted then some value else scope.get? wanted := by
  by_cases same : name = wanted <;> simp [get?, set, same]

/-! ## Names -/

/-- Whether a character can start the name of a variable. -/
def isNameStart (c : Char) : Bool :=
  c.isAlpha || c == '_'

/-- Whether a character can be part of the name of a variable. -/
def isNameChar (c : Char) : Bool :=
  c.isAlphanum || c == '_'

/-- Whether a text is the name of a variable: ASCII letters, digits and
underscores, without a digit in front. -/
def isName : Text → Bool
  | [] => false
  | c :: rest => isNameStart c && rest.all isNameChar

end Variables
end PageCheck
