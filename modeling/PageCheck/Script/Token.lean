import PageCheck.Modifier
import PageCheck.Text.Blank

/-!
# Tokens

The arguments of a command are tokens with blanks between them.  A token is a
bare word or stands in quotes.  Between double quotes a backslash takes the
character behind it along, so that a quote can be part of the token; between
single quotes everything is part of it.
-/

namespace PageCheck

/-- An argument as it was written, quotes included. -/
structure Token where
  raw : Text
  quoted : Bool
deriving DecidableEq, Repr, Inhabited

/-- Why a text does not fall into tokens. -/
inductive TokenError
  | unterminatedQuote (text : Text)
  | trailingCharacters (text : Text)
deriving DecidableEq, Repr

/-- The wording of a failure to find tokens. -/
def TokenError.message : TokenError → Text
  | .unterminatedQuote text => "Unterminated quote in " ++ text ++ "."
  | .trailingCharacters text => "Missing whitespace after closing quote in " ++ text ++ "."

namespace Token

/-- The modifier that a token stands for: only bare words are modifiers. -/
def modifier? (token : Token) : Option Modifier :=
  if token.quoted then none else Modifier.ofSign? token.raw

/-! ## Quotes -/

/-- Splits a text at the double quote that closes it, if there is one. -/
def closeDouble? : Text → Option (Text × Text)
  | [] => none
  | ['\\'] => none
  | '\\' :: c :: rest =>
      (closeDouble? rest).map fun parts => ('\\' :: c :: parts.1, parts.2)
  | c :: rest =>
      if c = '\"' then
        some ([], rest)
      else
        (closeDouble? rest).map fun parts => (c :: parts.1, parts.2)

/-- Splits a text at the single quote that closes it, if there is one. -/
def closeSingle? (text : Text) : Option (Text × Text) :=
  Text.splitFirst? '\'' text

/-- Splits off a token in quotes at the start of a text. -/
def splitQuoted? : Text → Option (Text × Text)
  | [] => none
  | c :: rest =>
      if c = '\"' then
        (closeDouble? rest).map fun parts => ('\"' :: parts.1 ++ ['\"'], parts.2)
      else if c = '\'' then
        (closeSingle? rest).map fun parts => ('\'' :: parts.1 ++ ['\''], parts.2)
      else
        none

/-- Whether a text starts with a quote of either kind. -/
def startsWithQuote (text : Text) : Bool :=
  text.head? == some '\"' || text.head? == some '\''

/-- The text behind the closing double quote is shorter than the whole. -/
theorem length_of_closeDouble?
    {text inner after : Text}
    (found : closeDouble? text = some (inner, after)) :
    after.length < text.length := by
  fun_induction closeDouble? text generalizing inner with
  | case1 => simp at found
  | case2 => simp at found
  | case3 c rest ih =>
      obtain ⟨parts, split, shape⟩ := Option.map_eq_some_iff.1 found
      cases shape
      have := ih split
      simp only [List.length_cons]
      omega
  | case4 rest => simp_all
  | case5 c rest _ _ other ih =>
      obtain ⟨parts, split, shape⟩ := Option.map_eq_some_iff.1 found
      cases shape
      have := ih split
      simp only [List.length_cons]
      omega

/-- The text behind a token in quotes is shorter than the whole. -/
theorem length_of_splitQuoted?
    {text raw after : Text}
    (found : splitQuoted? text = some (raw, after)) :
    after.length < text.length := by
  cases text with
  | nil => simp [splitQuoted?] at found
  | cons c rest =>
      simp only [splitQuoted?] at found
      split at found
      · obtain ⟨parts, split, shape⟩ := Option.map_eq_some_iff.1 found
        cases shape
        have := length_of_closeDouble? split
        simp only [List.length_cons]
        omega
      · split at found
        · obtain ⟨⟨front, back⟩, split, shape⟩ := Option.map_eq_some_iff.1 found
          cases shape
          have shape := (Text.splitFirst?_eq_some_iff.1 split).1
          subst shape
          simp
          omega
        · simp at found

/-! ## Splitting into tokens -/

/-- Splits off the first token of a text that starts with one. -/
def next (text : Text) : Except TokenError (Token × Text) :=
  match splitQuoted? text with
  | some (raw, after) =>
      if after.head?.any fun c => !Text.isBlank c then
        .error (.trailingCharacters (raw ++ Text.firstWord after))
      else
        .ok (⟨raw, true⟩, after)
  | none =>
      if startsWithQuote text then
        .error (.unterminatedQuote (Text.firstWord text))
      else
        .ok (⟨Text.firstWord text, false⟩, Text.afterFirstWord text)

/-- A token takes at least one character off a text without leading blanks. -/
theorem length_of_next
    {text after : Text}
    {c : Char}
    {rest : Text}
    {token : Token}
    (trimmed : Text.trimStart text = c :: rest)
    (found : next (c :: rest) = .ok (token, after)) :
    after.length < text.length := by
  have shorter := Text.length_trimStart_le text
  rw [trimmed] at shorter
  simp only [next] at found
  split at found
  · next raw behind split =>
      split at found
      · simp at found
      · simp only [Except.ok.injEq, Prod.mk.injEq] at found
        have := length_of_splitQuoted? split
        rw [found.2] at this
        omega
  · split at found
    · simp at found
    · simp only [Except.ok.injEq, Prod.mk.injEq] at found
      have visible : Text.isBlank c = false := by
        have := List.head?_dropWhile_not Text.isBlank text
        simp only [Text.trimStart] at trimmed
        rw [trimmed] at this
        simpa using this
      have drop : Text.afterFirstWord (c :: rest) = Text.afterFirstWord rest := by
        simp [Text.afterFirstWord, visible]
      have := (List.dropWhile_suffix (l := rest) fun c => !Text.isBlank c).length_le
      rw [← found.2, drop]
      simp only [Text.afterFirstWord]
      simp only [List.length_cons] at shorter
      omega

end Token

/-- The tokens of a text. -/
def tokenize (text : Text) : Except TokenError (List Token) :=
  match _trimmed : Text.trimStart text with
  | [] => .ok []
  | c :: rest =>
      match _found : Token.next (c :: rest) with
      | .error error => .error error
      | .ok (token, after) => (tokenize after).map fun tokens => token :: tokens
termination_by text.length
decreasing_by exact Token.length_of_next _trimmed _found

end PageCheck
