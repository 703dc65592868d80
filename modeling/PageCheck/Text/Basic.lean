/-!
# Texts

A text is a list of characters, so that every rule about texts in this
library is a rule about lists.  String literals are read as texts wherever a
text is expected.
-/

namespace PageCheck

/-- A text, character by character. -/
abbrev Text := List Char

instance : Coe String Text where
  coe literal := literal.toList

namespace Text

/-- The parts of a text around the first occurrence of a separator. -/
def splitFirst? (separator : Char) : Text → Option (Text × Text)
  | [] => none
  | c :: rest =>
      if c = separator then
        some ([], rest)
      else
        (splitFirst? separator rest).map fun parts => (c :: parts.1, parts.2)

/-- Splitting loses only the separator, and the first part holds none. -/
theorem splitFirst?_eq_some_iff {separator : Char} {text before after : Text} :
    splitFirst? separator text = some (before, after) ↔
      text = before ++ separator :: after ∧ separator ∉ before := by
  induction text generalizing before with
  | nil => simp [splitFirst?]
  | cons c rest ih =>
      by_cases same : c = separator
      · subst same
        cases before with
        | nil => simp [splitFirst?, eq_comm]
        | cons d front =>
            simp only [splitFirst?, if_true]
            constructor
            · intro found
              simp at found
            · rintro ⟨shape, absent⟩
              simp_all
      · cases before with
        | nil => simp [splitFirst?, same]
        | cons d front =>
            simp only [splitFirst?, same, if_false, Option.map_eq_some_iff,
              Prod.exists, Prod.mk.injEq, List.cons.injEq, List.cons_append,
              List.mem_cons, not_or]
            constructor
            · rintro ⟨x, y, found, ⟨rfl, rfl⟩, rfl⟩
              have := ih.1 found
              exact ⟨⟨rfl, this.1⟩, fun wrong => same wrong.symm, this.2⟩
            · rintro ⟨⟨rfl, shape⟩, _, absent⟩
              exact ⟨front, after, ih.2 ⟨shape, absent⟩, ⟨rfl, rfl⟩, rfl⟩

/-- A text splits nowhere exactly when the separator is absent. -/
theorem splitFirst?_eq_none_iff {separator : Char} {text : Text} :
    splitFirst? separator text = none ↔ separator ∉ text := by
  induction text with
  | nil => simp [splitFirst?]
  | cons c rest ih =>
      by_cases same : c = separator
      · simp [splitFirst?, same]
      · simp [splitFirst?, same, ih, Ne.symm same]

/-- All parts of a text between occurrences of a separator. -/
def splitAll (separator : Char) : Text → List Text
  | [] => [[]]
  | c :: rest =>
      if c = separator then
        [] :: splitAll separator rest
      else
        match splitAll separator rest with
        | [] => [[c]]
        | part :: parts => (c :: part) :: parts

/-- Whether one text occurs inside another. -/
def occursIn (needle : Text) : Text → Bool
  | [] => needle.isEmpty
  | c :: rest => needle.isPrefixOf (c :: rest) || occursIn needle rest

/-- Occurring inside a text means being one of its infixes. -/
theorem occursIn_iff {needle text : Text} :
    occursIn needle text = true ↔ needle <:+: text := by
  induction text with
  | nil => simp [occursIn]
  | cons c rest ih => simp [occursIn, ih, List.infix_cons_iff]

/-- Whether two texts differ at most in the case of ASCII letters. -/
def sameLetters (left right : Text) : Bool :=
  left.map Char.toLower == right.map Char.toLower

/-- The texts of a list with a separating text between neighbours. -/
def joinWith (separator : Text) (parts : List Text) : Text :=
  separator.intercalate parts

/-- A text between double quotes, as messages show it. -/
def inQuotes (text : Text) : Text :=
  '\"' :: text ++ ['\"']

/-- The decimal digits of a natural number. -/
def ofNat (number : Nat) : Text :=
  Nat.toDigits 10 number

end Text
end PageCheck
