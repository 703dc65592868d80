import PageCheck.Text.Basic

/-!
# Elapsed seconds

Elapsed time is shown in seconds with two decimals.  The seconds are a binary
floating-point number with 53 significant bits: whole seconds and the fraction
are rounded to such numbers one by one, then their sum is, and the decimals are
those of the sum.  Every rounding goes to the nearest number and, when two are
equally near, to the even one.
-/

namespace PageCheck

/-- The nearest natural number to a quotient, the even one of two. -/
def roundDiv (numerator denominator : Nat) : Nat :=
  let quotient := numerator / denominator
  let twice := 2 * (numerator % denominator)
  if denominator < twice ∨ (twice = denominator ∧ quotient % 2 = 1) then
    quotient + 1
  else
    quotient

/-- Rounding moves a number by half a unit at most. -/
theorem roundDiv_near {numerator denominator : Nat} (positive : 0 < denominator) :
    2 * numerator ≤ (2 * roundDiv numerator denominator + 1) * denominator ∧
      2 * roundDiv numerator denominator * denominator ≤ 2 * numerator + denominator := by
  have split := Nat.div_add_mod numerator denominator
  have small := Nat.mod_lt numerator positive
  simp only [roundDiv]
  split
  · next up =>
      have expand : 2 * (numerator / denominator + 1) * denominator =
          2 * (denominator * (numerator / denominator)) + 2 * denominator := by
        rw [Nat.mul_add, Nat.add_mul, Nat.mul_assoc, Nat.mul_comm _ denominator]
      rw [Nat.add_mul, expand]
      omega
  · next down =>
      have expand : 2 * (numerator / denominator) * denominator =
          2 * (denominator * (numerator / denominator)) := by
        rw [Nat.mul_assoc, Nat.mul_comm _ denominator]
      rw [Nat.add_mul, expand]
      omega

namespace Seconds

/-- The number of units in a second: fine enough for 53 significant bits of any
number of seconds that is not below a billionth. -/
def unit : Nat := Nat.pow 2 100

/-- The number of bits behind the first one that are significant. -/
def precision : Nat := 52

/-- The number of seconds with 53 significant bits that is nearest to a quotient,
in units. -/
def nearest (numerator denominator : Nat) : Nat :=
  let step := Nat.pow 2 (Nat.log2 (numerator * unit / denominator) - precision)
  roundDiv (numerator * unit) (denominator * step) * step

/-- The number of nanoseconds in a second. -/
def inNanoseconds : Nat := 1000000000

/-- The seconds in a number of nanoseconds, in units. -/
def ofNanoseconds (nanoseconds : Nat) : Nat :=
  nearest
    (nearest (nanoseconds / inNanoseconds) 1 +
      nearest (nanoseconds % inNanoseconds) inNanoseconds)
    unit

/-- A number with at least two digits. -/
def twoDigits (number : Nat) : Text :=
  if number < 10 then '0' :: Text.ofNat number else Text.ofNat number

/-- Nanoseconds written as seconds with two decimals. -/
def toText (nanoseconds : Nat) : Text :=
  let hundredths := roundDiv (ofNanoseconds nanoseconds * 100) unit
  Text.ofNat (hundredths / 100) ++ ['.'] ++ twoDigits (hundredths % 100)

end Seconds
end PageCheck
