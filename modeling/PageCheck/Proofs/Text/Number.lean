import PageCheck.Text.Basic
import PageCheck.Text.Number

/-!
# Numbers that are written and read back

A text denotes a number if it consists of decimal digits, perhaps with a plus sign in
front.  Up to a limit, numbers are read from exactly the texts that denote them, and the
decimal digits of a number denote it.
-/

namespace PageCheck
namespace Text

/-- Only decimal digits have a value as digits. -/
theorem digitValue?_eq_some_iff
    {c : Char}
    {digit : Nat} :
    digitValue? c = some digit ↔ c.isDigit = true ∧ c.toNat - '0'.toNat = digit := by
  have range : c.isDigit = true ↔ '0' ≤ c ∧ c ≤ '9' := by
    rw [Char.isDigit_iff_toNat, Char.le_def, Char.le_def]
    rfl
  rw [digitValue?, range]
  split
  · next inside => simp [inside]
  · next outside => simp [outside]

/-- Further digits only make a number greater. -/
theorem le_ofDigitChars
    (digits : Text)
    (value : Nat) :
    value ≤ Nat.ofDigitChars 10 digits value := by
  induction digits generalizing value with
  | nil => simp
  | cons c rest hypothesis =>
      rw [Nat.ofDigitChars_cons]
      have later := hypothesis (10 * value + (c.toNat - '0'.toNat))
      omega

/-- Behind a number within the limit, digits are read exactly if the whole number is still
within the limit. -/
theorem readDigits_eq_ok_iff
    {limit value number : Nat}
    {digits : Text}
    (bounded : value ≤ limit) :
    readDigits limit value digits = .ok number ↔
      (∀ c ∈ digits, c.isDigit = true) ∧ Nat.ofDigitChars 10 digits value = number ∧
        number ≤ limit := by
  induction digits generalizing value with
  | nil =>
      simp only [readDigits, Except.ok.injEq, Nat.ofDigitChars_nil]
      constructor
      · rintro rfl
        exact ⟨by simp, rfl, bounded⟩
      · exact fun same => same.2.1
  | cons c rest hypothesis =>
      rw [List.forall_mem_cons, Nat.ofDigitChars_cons, readDigits]
      cases shown : digitValue? c with
      | none =>
          have strange : ¬ c.isDigit = true := by
            intro decimal
            rw [digitValue?_eq_some_iff.2 ⟨decimal, rfl⟩] at shown
            cases shown
          simp [strange]
      | some digit =>
          obtain ⟨decimal, rfl⟩ := digitValue?_eq_some_iff.1 shown
          simp only [decimal, true_and]
          rw [Nat.mul_comm value 10]
          have greater := le_ofDigitChars rest (10 * value + (c.toNat - '0'.toNat))
          split
          · next beyond =>
              simp only [reduceCtorEq, false_iff]
              rintro ⟨_, rfl, within⟩
              omega
          · next within => exact hypothesis (Nat.le_of_not_lt within)

/-- The texts that denote a number: decimal digits, perhaps with a plus sign in front. -/
inductive Denotes : Text → Nat → Prop
  | plain
      {digits : Text}
      (filled : digits ≠ [])
      (decimal : ∀ c ∈ digits, c.isDigit = true) :
      Denotes digits (Nat.ofDigitChars 10 digits 0)
  | signed
      {digits : Text}
      (filled : digits ≠ [])
      (decimal : ∀ c ∈ digits, c.isDigit = true) :
      Denotes ('+' :: digits) (Nat.ofDigitChars 10 digits 0)

/-- A number is read from exactly those texts that denote it, up to the limit. -/
theorem readNumber_eq_ok_iff
    {limit number : Nat}
    {text : Text} :
    readNumber limit text = .ok number ↔ text.Denotes number ∧ number ≤ limit := by
  have digits : ∀ {c : Char} {rest : Text},
      readDigits limit 0 (c :: rest) = .ok number ↔
        (∀ d ∈ c :: rest, d.isDigit = true) ∧
          Nat.ofDigitChars 10 (c :: rest) 0 = number ∧ number ≤ limit :=
    readDigits_eq_ok_iff (Nat.zero_le limit)
  constructor
  · intro found
    fun_cases readNumber limit text with
    | case1 => cases found
    | case2 => cases found
    | case3 c rest =>
        obtain ⟨decimal, rfl, bounded⟩ := digits.1 found
        exact ⟨.signed (List.cons_ne_nil c rest) decimal, bounded⟩
    | case4 c rest lone signed =>
        rw [readNumber] at found
        · obtain ⟨decimal, rfl, bounded⟩ := digits.1 found
          exact ⟨.plain (List.cons_ne_nil c rest) decimal, bounded⟩
        · exact lone
        · exact signed
  · rintro ⟨denotes, bounded⟩
    cases denotes with
    | plain filled decimal =>
        obtain ⟨c, rest, rfl⟩ := List.exists_cons_of_ne_nil filled
        have noSign : c ≠ '+' := by
          rintro rfl
          exact absurd (decimal '+' List.mem_cons_self) (by decide)
        simpa [readNumber, noSign] using digits.2 ⟨decimal, rfl, bounded⟩
    | signed filled decimal =>
        obtain ⟨c, rest, rfl⟩ := List.exists_cons_of_ne_nil filled
        exact digits.2 ⟨decimal, rfl, bounded⟩

/-- The decimal digits of a number are digits. -/
theorem isDigit_of_mem_ofNat
    {number : Nat}
    {c : Char}
    (member : c ∈ ofNat number) :
    c.isDigit = true :=
  Nat.isDigit_of_mem_toDigits (by decide) (by decide) member

/-- The decimal digits of a number denote it. -/
theorem denotes_ofNat (number : Nat) : (ofNat number).Denotes number := by
  have denotes : (ofNat number).Denotes _ :=
    .plain Nat.toDigits_ne_nil fun c => isDigit_of_mem_ofNat
  have value : Nat.ofDigitChars 10 (ofNat number) 0 = number := Nat.ofDigitChars_ten_toDigits
  rwa [value] at denotes

/-- A number up to the limit is read back from its decimal digits. -/
theorem readNumber_ofNat
    {limit number : Nat}
    (bounded : number ≤ limit) :
    readNumber limit (ofNat number) = .ok number :=
  readNumber_eq_ok_iff.2 ⟨denotes_ofNat number, bounded⟩

end Text
end PageCheck
