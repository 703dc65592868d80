import PageCheck.Text.Basic

/-!
# Pages

A page is what a server answered: a status code, header lines and a body.
-/

namespace PageCheck

/-- A fetched page. -/
structure Page where
  status : Nat
  headers : List Text
  body : Text
deriving DecidableEq, Repr, Inhabited

/-- The page that stands for a request that could not be sent. -/
def Page.unreachable : Page := ⟨0, [], []⟩

end PageCheck
