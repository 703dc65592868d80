import PageCheck.Text.Basic

/-!
# Lines

A line ends at a line feed, or at a carriage return with a line feed right
behind it.  A text that ends with a line end has no further empty line.
-/

namespace PageCheck
namespace Text

/-- The lines of a text, without their line ends. -/
def lines : Text → List Text
  | [] => []
  | '\n' :: rest => [] :: lines rest
  | '\r' :: '\n' :: rest => [] :: lines rest
  | c :: rest =>
      match lines rest with
      | [] => [[c]]
      | line :: more => (c :: line) :: more

/-- Lines written one after the other, each closed by a line feed. -/
def unlines (written : List Text) : Text :=
  written.flatMap fun line => line ++ ['\n']

end Text
end PageCheck
