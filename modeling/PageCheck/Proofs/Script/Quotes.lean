import Mathlib.Data.List.Forall2
import PageCheck.Proofs.Script.TokenGrammar

/-!
# What stands between quotes

A token stands for the text that is left when its quotes are taken away.  This is stated
for each form of tokens without the reader of quotes, and the reader is shown to agree on
every token that can be written.  Every text can be written in quotes, and texts that are
written in this way with blanks between them are found again.
-/

namespace PageCheck

/-! ## Escapes -/

namespace Token

/-- What characters between double quotes stand for: a backslash in front of a quote or of another
backslash goes away, any other one is kept with the character behind it, and every other
character stands for itself. -/
inductive Resolves : Text → Text → Prop
  | nil : Resolves [] []
  | escaped
      {c : Char} {inner value : Text}
      (special : c = '\"' ∨ c = '\\')
      (rest : Resolves inner value) :
      Resolves ('\\' :: c :: inner) (c :: value)
  | kept
      {c : Char} {inner value : Text}
      (plain : c ≠ '\"' ∧ c ≠ '\\')
      (rest : Resolves inner value) :
      Resolves ('\\' :: c :: inner) ('\\' :: c :: value)
  | plain
      {c : Char} {inner value : Text}
      (plain : c ≠ '\"' ∧ c ≠ '\\')
      (rest : Resolves inner value) :
      Resolves (c :: inner) (c :: value)

/-- Whatever can be written between double quotes stands for something. -/
theorem DoubleBody.exists_resolves
    {inner : Text}
    (body : DoubleBody inner) :
    ∃ value, Resolves inner value := by
  induction body with
  | nil => exact ⟨[], .nil⟩
  | escaped c _ hypothesis =>
      obtain ⟨value, rest⟩ := hypothesis
      by_cases special : c = '\"' ∨ c = '\\'
      · exact ⟨_, .escaped special rest⟩
      · exact ⟨_, .kept (not_or.1 special) rest⟩
  | plain noQuote noBackslash _ hypothesis =>
      obtain ⟨value, rest⟩ := hypothesis
      exact ⟨_, .plain ⟨noQuote, noBackslash⟩ rest⟩

theorem Resolves.doubleBody
    {inner value : Text}
    (resolves : Resolves inner value) :
    DoubleBody inner := by
  induction resolves with
  | nil => exact .nil
  | @escaped c _ _ _ _ hypothesis => exact .escaped c hypothesis
  | @kept c _ _ _ _ hypothesis => exact .escaped c hypothesis
  | plain plain _ hypothesis => exact .plain plain.1 plain.2 hypothesis

/-- A character that starts no escape is copied. -/
theorem unescape_cons
    {c : Char}
    (noBackslash : c ≠ '\\')
    (rest : Text) :
    Value.unescape (c :: rest) = c :: Value.unescape rest := by
  rw [Value.unescape]
  exact fun d tail same => absurd same noBackslash

/-- Escapes are resolved in this way. -/
theorem Resolves.unescape_eq
    {inner value : Text}
    (resolves : Resolves inner value) :
    Value.unescape inner = value := by
  induction resolves with
  | nil => rfl
  | escaped special _ hypothesis => rw [Value.unescape, if_pos special, hypothesis]
  | kept plain _ hypothesis =>
      -- The character behind the backslash starts no escape of its own.
      rw [Value.unescape, if_neg (not_or.2 plain), unescape_cons plain.2, hypothesis]
  | plain plain _ hypothesis => rw [unescape_cons plain.2, hypothesis]

/-- An escaped text stands for the text. -/
theorem resolves_escape (text : Text) : Resolves (Quoted.escape text) text := by
  induction text with
  | nil => exact .nil
  | cons c rest hypothesis =>
      by_cases special : c = '\"' ∨ c = '\\'
      · simpa [Quoted.escapeChar, special] using Resolves.escaped special hypothesis
      · simpa [Quoted.escapeChar, special] using Resolves.plain (not_or.1 special) hypothesis

/-! ## Quotes -/

/-- What a token stands for: a bare word for itself, and a token in quotes for what is
between its first and its last character. -/
inductive StandsFor : Token → Text → Prop
  | bare
      {word : Text} :
      StandsFor ⟨word, false⟩ word
  | double
      {inner value : Text}
      (resolves : Resolves inner value) :
      StandsFor ⟨'\"' :: inner ++ ['\"'], true⟩ value
  | single
      {inner : Text}
      (plain : '\'' ∉ inner) :
      StandsFor ⟨'\'' :: inner ++ ['\''], true⟩ inner

/-- Every token that can be written stands for something. -/
theorem WellFormed.exists_standsFor
    {token : Token}
    (wellFormed : token.WellFormed) :
    ∃ value, token.StandsFor value := by
  cases wellFormed with
  | bare => exact ⟨_, .bare⟩
  | quoted quotes =>
      cases quotes with
      | double body =>
          obtain ⟨value, resolves⟩ := body.exists_resolves
          exact ⟨value, .double resolves⟩
      | single plain => exact ⟨_, .single plain⟩

theorem unquote_of_unquoted
    {word : Text}
    (unquoted : startsWithQuote word = false) :
    Value.unquote word = .ok word := by
  cases word with
  | nil => rfl
  | cons c rest =>
      simp only [startsWithQuote, List.head?_cons, Bool.or_eq_false_iff, beq_eq_false_iff_ne,
        ne_eq, Option.some.injEq] at unquoted
      simp only [Value.unquote, unquoted.1, unquoted.2, if_false]

namespace StandsFor

variable {token : Token} {value : Text}

/-- Taking quotes away gives what a token stands for. -/
theorem unquote_eq
    (stands : token.StandsFor value)
    (wellFormed : token.WellFormed) :
    Value.unquote token.raw = .ok value := by
  cases stands with
  | bare =>
      cases wellFormed with
      | bare _ _ unquoted => exact unquote_of_unquoted unquoted
  | @double inner value resolves =>
      have closed : closeDouble? (inner ++ ['\"']) = some (inner, []) :=
        closeDouble?_eq_some_iff.2 ⟨resolves.doubleBody, rfl⟩
      simp [Value.unquote, closed, resolves.unescape_eq]
  | single plain =>
      have closed : closeSingle? (value ++ ['\'']) = some (value, []) :=
        Text.splitFirst?_eq_some_iff.2 ⟨rfl, plain⟩
      simp [Value.unquote, closed]

/-- The value of a token is what it stands for, with the values of variables put in. -/
theorem resolve_eq
    (stands : token.StandsFor value)
    (wellFormed : token.WellFormed)
    (scope : Variables) :
    Value.resolve scope token.raw = Value.substitute scope value := by
  rw [Value.resolve, wellFormed.isTrimmed.trim_eq, stands.unquote_eq wellFormed]

end StandsFor
end Token

/-! ## Texts in quotes -/

/-- The ways to write a text in quotes: with its quotes and backslashes escaped between
double quotes, or as it is between single quotes, if it has none of these. -/
inductive Quoted.Writes : Text → Text → Prop
  | double
      {text : Text} :
      Writes text ('\"' :: Quoted.escape text ++ ['\"'])
  | single
      {text : Text}
      (plain : '\'' ∉ text) :
      Writes text ('\'' :: text ++ ['\''])

/-- A text in quotes stands for the text. -/
theorem Quoted.Writes.standsFor
    {text word : Text}
    (writes : Writes text word) :
    Token.StandsFor ⟨word, true⟩ text := by
  cases writes with
  | double => exact .double (Token.resolves_escape text)
  | single plain => exact .single plain

theorem Quoted.Writes.wellFormed
    {text word : Text}
    (writes : Writes text word) :
    Token.WellFormed ⟨word, true⟩ := by
  cases writes with
  | double => exact .quoted (.double (Token.doubleBody_escape text))
  | single plain => exact .quoted (.single plain)

/-- Words one behind the other, with at least one blank between two of them and nothing
else. -/
inductive Text.Spaced : List Text → Text → Prop
  | nil : Spaced [] []
  | single
      (word : Text) :
      Spaced [word] word
  | cons
      {gap next whole : Text} {words : List Text}
      (word : Text)
      (filled : gap ≠ [])
      (blank : ∀ c ∈ gap, isBlank c = true)
      (rest : Spaced (next :: words) whole) :
      Spaced (word :: next :: words) (word ++ (gap ++ whole))

/-- Tokens with blanks between them have a layout, whatever blanks are in front. -/
theorem Text.Spaced.exists_reads
    {words : List Text}
    {whole : Text}
    (spaced : Spaced words whole)
    {tokens : List Token}
    (raws : tokens.map Token.raw = words)
    (wellFormed : ∀ token ∈ tokens, token.WellFormed)
    {front : Text}
    (blank : ∀ c ∈ front, isBlank c = true) :
    ∃ layout : Layout, layout.Reads (front ++ whole) ∧ layout.tokens = tokens := by
  induction spaced generalizing tokens front with
  | nil =>
      obtain rfl := List.map_eq_nil_iff.1 raws
      exact ⟨⟨front, []⟩, ⟨Layout.wellFormed_nil blank, rfl⟩, rfl⟩
  | single word =>
      obtain ⟨token, rfl, rfl⟩ := List.map_eq_singleton_iff.1 raws
      have nothing : Layout.Reads ⟨[], []⟩ [] :=
        ⟨Layout.wellFormed_nil (List.forall_mem_nil _), rfl⟩
      have covers := (Layout.reads_iff_covers.1 nothing).cons blank
        (wellFormed token List.mem_cons_self) (by simp) rfl
      exact ⟨_, Layout.reads_iff_covers.2 (by simpa using covers), rfl⟩
  | @cons gap next whole words word filled gapBlank _ hypothesis =>
      obtain ⟨token, others, rfl, rfl, otherRaws⟩ := List.map_eq_cons_iff.1 raws
      rw [List.forall_mem_cons] at wellFormed
      obtain ⟨layout, reads, rfl⟩ := hypothesis otherRaws wellFormed.2 gapBlank
      have behind : ∀ c ∈ (gap ++ whole).head?, isBlank c = true := by
        obtain ⟨d, more, rfl⟩ := List.exists_cons_of_ne_nil filled
        intro c first
        cases first
        exact gapBlank d List.mem_cons_self
      have covers := (Layout.reads_iff_covers.1 reads).cons blank wellFormed.1 behind rfl
      exact ⟨_, Layout.reads_iff_covers.2 covers, rfl⟩

/-- Texts that are written in quotes, in either way and with any blanks between them, are
found as so many tokens, none of which is a modifier.  The value of each is that of the
text, whatever the text holds and whatever the variables are. -/
theorem tokenize_quotes
    {texts words : List Text}
    {whole : Text}
    (written : List.Forall₂ Quoted.Writes texts words)
    (spaced : Text.Spaced words whole) :
    ∃ tokens, tokenize whole = .ok tokens ∧ tokens.map Token.raw = words ∧
      (∀ token ∈ tokens, token.quoted = true ∧ token.modifier? = none) ∧
      ∀ scope, List.Forall₂ (fun text token =>
        Value.resolve scope token.raw = Value.substitute scope text) texts tokens := by
  have raws : (words.map fun word => (⟨word, true⟩ : Token)).map Token.raw = words := by
    rw [List.map_map]
    exact List.map_id words
  have quoted : ∀ word ∈ words, Token.WellFormed ⟨word, true⟩ :=
    ((List.forall₂_and_left words texts).1 (written.flip.imp fun _ _ writes =>
      ⟨Quoted.Writes.wellFormed writes, writes⟩)).1
  have wellFormed := List.forall_mem_map.2 quoted
  obtain ⟨layout, reads, same⟩ := spaced.exists_reads raws wellFormed (List.forall_mem_nil _)
  refine ⟨_, same ▸ reads.tokenize_eq, raws, ?_, ?_⟩
  · rw [List.forall_mem_map]
    exact fun word _ => ⟨rfl, rfl⟩
  · intro scope
    rw [List.forall₂_map_right_iff]
    exact written.imp fun text word writes =>
      writes.standsFor.resolve_eq writes.wellFormed scope

/-- The texts may hold quotes, backslashes at their ends, line ends and signs of modifiers,
and one of them may be empty. -/
theorem tokenize_quotes_signs_and_lines :
    let texts : List Text := ["\"\\", "!", "\n~\\", ""]
    let words : List Text := ["\"\\\"\\\\\"", "\"!\"", "'\n~\\'", "''"]
    let whole : Text := "\"\\\"\\\\\" \n\"!\"\t'\n~\\'  ''"
    List.Forall₂ Quoted.Writes texts words ∧ Text.Spaced words whole ∧
    ∃ tokens, tokenize whole = .ok tokens ∧ tokens.map Token.raw = words ∧
      (∀ token ∈ tokens, token.quoted = true ∧ token.modifier? = none) ∧
      ∀ scope, List.Forall₂ (fun text token =>
        Value.resolve scope token.raw = Value.substitute scope text) texts tokens := by
  intro texts words whole
  have written : List.Forall₂ Quoted.Writes texts words :=
    .cons .double (.cons .double (.cons (.single (by decide)) (.cons (.single (by decide)) .nil)))
  have last : Text.Spaced ["'\n~\\'", "''"] "'\n~\\'  ''" :=
    @Text.Spaced.cons "  " _ _ _ _ (by decide) (List.all_eq_true.1 rfl) (.single "''")
  have middle : Text.Spaced ["\"!\"", "'\n~\\'", "''"] "\"!\"\t'\n~\\'  ''" :=
    @Text.Spaced.cons "\t" _ _ _ _ (by decide) (List.all_eq_true.1 rfl) last
  have spaced : Text.Spaced words whole :=
    @Text.Spaced.cons " \n" _ _ _ _ (by decide) (List.all_eq_true.1 rfl) middle
  exact ⟨written, spaced, tokenize_quotes written spaced⟩

end PageCheck
