import PageCheck.Text.Basic

/-!
# Written numbers

A natural number is written with ASCII decimal digits, leading zeros and one
plus sign in front being allowed.  Reading goes from left to right and stops
at the first character that cannot be part of a number below the limit.
-/

namespace PageCheck
namespace Text

/-- Why a text denotes no number within a limit. -/
inductive NumberError
  | empty
  | invalidDigit
  | tooLarge
deriving DecidableEq, Repr

namespace NumberError

/-- The wording of a failure to read a number. -/
def message : NumberError → Text
  | .empty => "cannot parse integer from empty string"
  | .invalidDigit => "invalid digit found in string"
  | .tooLarge => "number too large to fit in target type"

end NumberError

/-- The value of an ASCII decimal digit. -/
def digitValue? (c : Char) : Option Nat :=
  if '0' ≤ c ∧ c ≤ '9' then some (c.toNat - 48) else none

/-- Reads further digits behind a number that has been read. -/
def readDigits (limit : Nat) : Nat → Text → Except NumberError Nat
  | value, [] => .ok value
  | value, c :: rest =>
      match digitValue? c with
      | none => .error .invalidDigit
      | some digit =>
          if limit < value * 10 + digit then
            .error .tooLarge
          else
            readDigits limit (value * 10 + digit) rest

/-- Reads a whole text as a number that is at most the limit. -/
def readNumber (limit : Nat) : Text → Except NumberError Nat
  | [] => .error .empty
  | ['+'] => .error .invalidDigit
  | '+' :: c :: rest => readDigits limit 0 (c :: rest)
  | c :: rest => readDigits limit 0 (c :: rest)

end Text
end PageCheck
