import PageCheck.Text.Basic

/-!
# Locations

A location names a line of a test file.
-/

namespace PageCheck

/-- A line of a file, counted from one. -/
structure Location where
  path : Text
  line : Nat
deriving DecidableEq, Repr, Inhabited

/-- The written form of a location. -/
def Location.toText (location : Location) : Text :=
  location.path ++ [':'] ++ Text.ofNat location.line

end PageCheck
