import PageCheck.Text.Basic

/-!
# Punycode

Punycode writes a label with the ASCII characters first.  The others follow as
differences between successive code points and positions, each difference being
a number with digits in base 36 whose thresholds adapt to the last difference.
-/

namespace PageCheck
namespace Url
namespace Punycode

/-- The character of a digit. -/
def digitChar (digit : Nat) : Char :=
  if digit < 26 then Char.ofNat (0x61 + digit) else Char.ofNat (0x30 + digit - 26)

/-- The digit of a character. -/
def digitValue? (c : Char) : Option Nat :=
  if 'a' ≤ c ∧ c ≤ 'z' then some (c.toNat - 0x61)
  else if 'A' ≤ c ∧ c ≤ 'Z' then some (c.toNat - 0x41)
  else if '0' ≤ c ∧ c ≤ '9' then some (c.toNat - 0x30 + 26)
  else none

/-- The threshold at a place of a number. -/
def threshold (place bias : Nat) : Nat :=
  min 26 (max 1 (place - bias))

theorem one_le_threshold (place bias : Nat) : 1 ≤ threshold place bias := by
  unfold threshold
  omega

/-- Divides a difference down, and counts the places that this takes. -/
def scaleDown (delta place : Nat) : Nat × Nat :=
  if 455 < delta then scaleDown (delta / 35) (place + 36) else (delta, place)
termination_by delta
decreasing_by exact Nat.div_lt_self (by omega) (by omega)

/-- The bias behind a difference. -/
def adapt (delta points : Nat) (isFirst : Bool) : Nat :=
  let halved := if isFirst then delta / 700 else delta / 2
  let scaled := scaleDown (halved + halved / points) 0
  scaled.2 + 36 * scaled.1 / (scaled.1 + 38)

/-! ## Writing -/

/-- The digits of a difference from a place on. -/
def writeNumber (bias place number : Nat) : Text :=
  let limit := threshold place bias
  if number < limit then
    [digitChar number]
  else
    digitChar (limit + (number - limit) % (36 - limit)) ::
      writeNumber bias (place + 36) ((number - limit) / (36 - limit))
termination_by number
decreasing_by
  have := one_le_threshold place bias
  have := Nat.div_le_self (number - threshold place bias) (36 - threshold place bias)
  omega

/-- What has been written: the digits, the difference that is growing, the bias
and how many code points are done. -/
structure WriterState where
  written : Text
  delta : Nat
  bias : Nat
  done : Nat

/-- Passes one character while the given code point is being written. -/
def WriterState.pass (basicCount target : Nat) (state : WriterState) (c : Char) :
    WriterState :=
  if c.toNat < target then
    { state with delta := state.delta + 1 }
  else if c.toNat = target then
    { written := state.written ++ writeNumber state.bias 36 state.delta
      delta := 0
      bias := adapt state.delta (state.done + 1) (state.done = basicCount)
      done := state.done + 1 }
  else
    state

/-- Writes the given code points of a label, which increase. -/
def writeTargets (label : Text) (basicCount : Nat) :
    List Nat → Nat → WriterState → WriterState
  | [], _, state => state
  | target :: rest, next, state =>
      let moved := { state with delta := state.delta + (target - next) * (state.done + 1) }
      let passed := label.foldl (WriterState.pass basicCount target) moved
      writeTargets label basicCount rest (target + 1) { passed with delta := passed.delta + 1 }

/-- The Punycode form of a label. -/
def encode (label : Text) : Text :=
  let basic := label.filter fun c => c.toNat < 0x80
  let targets := ((label.map Char.toNat).filter (0x80 ≤ ·)).mergeSort.eraseDups
  let start := if basic.isEmpty then [] else basic ++ ['-']
  start ++ (writeTargets label basic.length targets 0x80 ⟨[], 0, 72, basic.length⟩).written

/-! ## Reading -/

/-- What has been read: the label, the last code point and position, the bias, and
the number that is being read with the weight and place of its next digit. -/
structure ReaderState where
  label : List Nat
  code : Nat := 0x80
  position : Nat := 0
  bias : Nat := 72
  number : Nat := 0
  weight : Nat := 1
  place : Nat := 36

/-- Reads digits to the end, none of the numbers being cut short. -/
def readDigits (state : ReaderState) : Text → Option (List Nat)
  | [] => if state.place = 36 then some state.label else none
  | c :: rest =>
      match digitValue? c with
      | none => none
      | some digit =>
          let number := state.number + digit * state.weight
          let limit := threshold state.place state.bias
          if digit < limit then
            let size := state.label.length + 1
            let target := state.position + number
            let code := state.code + target / size
            let position := target % size
            if code.isValidChar then
              readDigits
                { label := state.label.take position ++ code :: state.label.drop position
                  code
                  position := position + 1
                  bias := adapt number size (state.position = 0) }
                rest
            else
              none
          else
            readDigits
              { state with
                number
                weight := state.weight * (36 - limit)
                place := state.place + 36 }
              rest

/-- The label that a Punycode form stands for. -/
def decode? (text : Text) : Option (List Nat) :=
  let codes := fun part : Text => part.map Char.toNat
  match Text.splitFirst? '-' text.reverse with
  | some (digits, basic) => readDigits { label := codes basic.reverse } digits.reverse
  | none => readDigits { label := [] } text

end Punycode
end Url
end PageCheck
