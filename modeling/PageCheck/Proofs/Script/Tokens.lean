import PageCheck.Proofs.Results
import PageCheck.Proofs.Script.TokenForms

/-!
# Tokens that are written and read back

A token stands alone when it is read off the front of every text in which a blank or
nothing follows it.  Texts in quotes and the signs of modifiers stand alone, and a line
of tokens that do is read as these tokens.
-/

namespace PageCheck

open Results

/-! ## Tokens of a text, one by one -/

/-- A blank text has no token. -/
theorem tokenize_of_blank
    {text : Text}
    (hollow : Text.trimStart text = []) :
    tokenize text = .ok [] := by
  rw [tokenize]
  split
  · rfl
  · next start =>
      rw [hollow] at start
      cases start

/-- The first token of a text is followed by the tokens behind it. -/
theorem tokenize_of_next
    {text rest after : Text}
    {c : Char}
    {token : Token}
    (start : Text.trimStart text = c :: rest)
    (first : Token.next (c :: rest) = .ok (token, after)) :
    tokenize text = (tokenize after).map fun tokens => token :: tokens := by
  rw [tokenize]
  split
  · next hollow =>
      rw [start] at hollow
      cases hollow
  · next d more shape =>
      rw [start] at shape
      cases shape
      split
      · next found =>
          rw [first] at found
          cases found
      · next found =>
          rw [first] at found
          cases found
          rfl

/-! ## Tokens that stand alone -/

namespace Token

/-- A token is read off the front of every text in which a blank or nothing follows. -/
structure StandsAlone (token : Token) : Prop where
  filled : token.raw ≠ []
  trimmed : Text.IsTrimmed token.raw
  next_eq : ∀ after : Text, (∀ c ∈ after.head?, Text.isBlank c = true) →
    next (token.raw ++ after) = .ok (token, after)

/-- A text between double quotes, as a token. -/
def ofText (text : Text) : Token :=
  ⟨Quoted.write text, true⟩

/-- The sign of a modifier, as a token. -/
def ofSign (modifier : Modifier) : Token :=
  ⟨modifier.sign, false⟩

@[simp] theorem modifier?_ofSign (modifier : Modifier) :
    (ofSign modifier).modifier? = some modifier :=
  Modifier.ofSign?_sign modifier

/-- Every token that can be written stands alone. -/
theorem WellFormed.standsAlone
    {token : Token}
    (wellFormed : token.WellFormed) :
    token.StandsAlone where
  filled := wellFormed.filled
  trimmed := wellFormed.isTrimmed
  next_eq _ blank := wellFormed.next_eq blank

/-- Every escaped text can stand between double quotes. -/
theorem doubleBody_escape (text : Text) : DoubleBody (Quoted.escape text) := by
  induction text with
  | nil => exact .nil
  | cons c rest hypothesis =>
      by_cases special : c = '\"' ∨ c = '\\'
      · simpa [Quoted.escapeChar, special] using DoubleBody.escaped c hypothesis
      · have plain := not_or.1 special
        simpa [Quoted.escapeChar, special] using DoubleBody.plain plain.1 plain.2 hypothesis

/-- A text between double quotes stands alone. -/
theorem standsAlone_ofText (text : Text) : (ofText text).StandsAlone :=
  (WellFormed.quoted (.double (doubleBody_escape text))).standsAlone

/-- A word without a quote in front stands alone. -/
theorem standsAlone_word
    {word : Text}
    (filled : word ≠ [])
    (visible : ∀ c ∈ word, Text.isBlank c = false)
    (bare : startsWithQuote word = false) :
    StandsAlone ⟨word, false⟩ :=
  (WellFormed.bare filled visible bare).standsAlone

/-- The sign of a modifier stands alone. -/
theorem standsAlone_ofSign (modifier : Modifier) : (ofSign modifier).StandsAlone := by
  apply standsAlone_word
  · cases modifier <;> decide
  · apply Text.visible_of_any_eq_false
    cases modifier <;> rfl
  · cases modifier <;> rfl

end Token

/-! ## Lines of tokens -/

/-- A text that starts with a token that stands alone has no blank in front. -/
theorem Token.StandsAlone.trimStart_append
    {token : Token}
    (alone : token.StandsAlone)
    (behind : Text) :
    Text.trimStart (token.raw ++ behind) = token.raw ++ behind := by
  apply Text.trimStart_eq_self
  obtain ⟨c, rest, shape⟩ := List.exists_cons_of_ne_nil alone.filled
  have visible := alone.trimmed.1
  rw [shape] at visible ⊢
  exact visible

/-- Tokens that stand alone are read back from a text that has, up to blanks in front,
a blank and then the token for each of them. -/
theorem tokenize_of_trimStart_eq
    {tokens : List Token}
    {text : Text}
    (alone : ∀ token ∈ tokens, token.StandsAlone)
    (written : Text.trimStart text =
      Text.trimStart (tokens.flatMap fun token => ' ' :: token.raw)) :
    tokenize text = .ok tokens := by
  induction tokens generalizing text with
  | nil => exact tokenize_of_blank written
  | cons token tokens hypothesis =>
      have first := alone token List.mem_cons_self
      have later := @hypothesis (tokens.flatMap fun token => ' ' :: token.raw)
        (fun other inside => alone other (List.mem_cons_of_mem token inside)) rfl
      have behind : ∀ d ∈ (tokens.flatMap fun token => ' ' :: token.raw).head?,
          Text.isBlank d = true := by
        cases tokens with
        | nil => simp
        | cons other others =>
            intro d blank
            cases blank
            decide
      have next := first.next_eq _ behind
      rw [List.flatMap_cons, List.cons_append, Text.trimStart_cons_of_isBlank (by decide),
        first.trimStart_append] at written
      obtain ⟨c, rest, shape⟩ := List.exists_cons_of_ne_nil first.filled
      rw [shape, List.cons_append] at written next
      rw [tokenize_of_next written next, later, ok_map]

/-- Tokens that stand alone are read back from a line with single blanks between them. -/
theorem tokenize_joinWith
    {tokens : List Token}
    (alone : ∀ token ∈ tokens, token.StandsAlone) :
    tokenize (Text.joinWith [' '] (tokens.map Token.raw)) = .ok tokens := by
  apply tokenize_of_trimStart_eq alone
  cases tokens with
  | nil => rfl
  | cons token tokens =>
      rw [List.map_cons, Text.joinWith_cons, List.flatMap_map, List.flatMap_cons,
        List.cons_append, Text.trimStart_cons_of_isBlank (by decide)]

end PageCheck
