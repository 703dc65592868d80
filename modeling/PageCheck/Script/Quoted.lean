import PageCheck.Script.Value

/-!
# Quoted texts

Every text can be written between double quotes.  A quote or a backslash inside
it gets a backslash in front, and reading takes exactly these away again.
-/

namespace PageCheck
namespace Quoted

/-- A character as it is written between double quotes. -/
def escapeChar (c : Char) : Text :=
  if c = '\"' ∨ c = '\\' then ['\\', c] else [c]

/-- A text as it is written between double quotes. -/
def escape (text : Text) : Text :=
  text.flatMap escapeChar

/-- A text together with its double quotes. -/
def write (text : Text) : Text :=
  '\"' :: escape text ++ ['\"']

@[simp] theorem escape_nil : escape [] = [] := rfl

@[simp] theorem escape_cons (c : Char) (rest : Text) :
    escape (c :: rest) = escapeChar c ++ escape rest := rfl

/-- An escaped text is closed by the quote behind it and by none inside. -/
theorem closeDouble?_escape (text after : Text) :
    Token.closeDouble? (escape text ++ '\"' :: after) = some (escape text, after) := by
  induction text with
  | nil => simp [Token.closeDouble?]
  | cons c rest ih =>
      by_cases special : c = '\"' ∨ c = '\\'
      · simp [escapeChar, special, Token.closeDouble?, ih]
      · have plain := special
        rw [not_or] at plain
        simp only [escape_cons, escapeChar, special, if_false, List.cons_append]
        rw [Token.closeDouble?]
        · simp [plain.1, ih]
        · intro escaped
          exact absurd escaped plain.2
        · intro d tail escaped
          exact absurd escaped plain.2

/-- Resolving escapes gives an escaped text back. -/
theorem unescape_escape (text : Text) : Value.unescape (escape text) = text := by
  induction text with
  | nil => rfl
  | cons c rest ih =>
      by_cases special : c = '\"' ∨ c = '\\'
      · simp [escapeChar, special, Value.unescape, ih]
      · have plain := special
        rw [not_or] at plain
        simp only [escape_cons, escapeChar, special, if_false, List.singleton_append]
        rw [Value.unescape]
        · rw [ih]
        · intro d tail escaped
          exact absurd escaped plain.2

/-- Taking the quotes of a written text away gives the text back. -/
theorem unquote_write (text : Text) : Value.unquote (write text) = .ok text := by
  simp [Value.unquote, write, closeDouble?_escape, unescape_escape]

end Quoted
end PageCheck
