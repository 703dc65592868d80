import PageCheck.Text.Blank

/-!
# Header lines

A header line holds a name and, behind its first colon, a value.  Blanks around
the two do not count.
-/

namespace PageCheck
namespace Header

/-- The name and the value of a header line; without a colon the line is a name
with an empty value. -/
def split (line : Text) : Text × Text :=
  match Text.splitFirst? ':' line with
  | some (name, value) => (Text.trim name, Text.trim value)
  | none => (Text.trim line, [])

/-- Whether two header names are the same: ASCII case does not count. -/
def sameName (left right : Text) : Bool :=
  Text.sameLetters left right

end Header
end PageCheck
