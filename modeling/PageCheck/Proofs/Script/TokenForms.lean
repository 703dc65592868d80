import PageCheck.Proofs.Text.Trim
import PageCheck.Script.Quoted

/-!
# The forms of tokens

A token is a bare word or stands in quotes of one of the two kinds.  These forms are
stated without the scanner, and the scanner is shown to take a token off the front of a
text exactly if it has one of these forms and nothing but a blank can follow it.  The
two ways in which this fails are stated in the same manner.
-/

namespace PageCheck
namespace Token

/-! ## Quotes -/

/-- The texts that can stand between double quotes: a backslash takes the character
behind it along, and apart from that there is neither a quote nor a backslash. -/
inductive DoubleBody : Text → Prop
  | nil : DoubleBody []
  | escaped
      {rest : Text}
      (c : Char)
      (body : DoubleBody rest) :
      DoubleBody ('\\' :: c :: rest)
  | plain
      {c : Char} {rest : Text}
      (noQuote : c ≠ '\"')
      (noBackslash : c ≠ '\\')
      (body : DoubleBody rest) :
      DoubleBody (c :: rest)

/-- The closing quote is the first one that no backslash takes along. -/
theorem closeDouble?_eq_some_iff
    {text inner after : Text} :
    closeDouble? text = some (inner, after) ↔
      DoubleBody inner ∧ text = inner ++ '\"' :: after := by
  constructor
  · intro found
    fun_induction closeDouble? text generalizing inner with
    | case1 => cases found
    | case2 => cases found
    | case3 c rest hypothesis =>
        obtain ⟨⟨front, back⟩, split, shape⟩ := Option.map_eq_some_iff.1 found
        cases shape
        obtain ⟨body, rfl⟩ := hypothesis split
        exact ⟨.escaped c body, rfl⟩
    | case4 rest =>
        cases found
        exact ⟨.nil, rfl⟩
    | case5 c rest single pair noQuote hypothesis =>
        obtain ⟨⟨front, back⟩, split, shape⟩ := Option.map_eq_some_iff.1 found
        cases shape
        obtain ⟨body, rfl⟩ := hypothesis split
        refine ⟨.plain noQuote ?_ body, rfl⟩
        rintro rfl
        cases front with
        | nil => exact pair _ _ rfl rfl
        | cons d front => exact pair _ _ rfl rfl
  · rintro ⟨body, rfl⟩
    induction body with
    | nil => simp [closeDouble?]
    | escaped c _ hypothesis => simp [closeDouble?, hypothesis]
    | @plain c rest noQuote noBackslash _ hypothesis =>
        rw [List.cons_append, closeDouble?]
        · simp [noQuote, hypothesis]
        · exact fun same => absurd same noBackslash
        · exact fun d tail same => absurd same noBackslash

/-- A text between quotes of one kind, together with its quotes. -/
inductive Quotes : Text → Prop
  | double
      {inner : Text}
      (body : DoubleBody inner) :
      Quotes ('\"' :: inner ++ ['\"'])
  | single
      {inner : Text}
      (plain : '\'' ∉ inner) :
      Quotes ('\'' :: inner ++ ['\''])

/-- A token in quotes is split off exactly if the text starts with one. -/
theorem splitQuoted?_eq_some_iff
    {text raw after : Text} :
    splitQuoted? text = some (raw, after) ↔ Quotes raw ∧ text = raw ++ after := by
  constructor
  · intro found
    cases text with
    | nil => cases found
    | cons c rest =>
        simp only [splitQuoted?] at found
        split at found
        · next same =>
            obtain ⟨⟨inner, back⟩, split, shape⟩ := Option.map_eq_some_iff.1 found
            cases shape
            obtain ⟨body, rfl⟩ := closeDouble?_eq_some_iff.1 split
            exact ⟨.double body, by simp [same]⟩
        · split at found
          · next same =>
              obtain ⟨⟨inner, back⟩, split, shape⟩ := Option.map_eq_some_iff.1 found
              cases shape
              obtain ⟨rfl, plain⟩ := Text.splitFirst?_eq_some_iff.1 split
              exact ⟨.single plain, by simp [same]⟩
          · cases found
  · rintro ⟨quotes, rfl⟩
    cases quotes with
    | @double inner body =>
        have split : closeDouble? (inner ++ '\"' :: after) = some (inner, after) :=
          closeDouble?_eq_some_iff.2 ⟨body, rfl⟩
        simp [splitQuoted?, split]
    | @single inner plain =>
        have split : closeSingle? (inner ++ '\'' :: after) = some (inner, after) :=
          Text.splitFirst?_eq_some_iff.2 ⟨rfl, plain⟩
        simp [splitQuoted?, split]

theorem Quotes.startsWithQuote_eq
    {raw : Text}
    (quotes : Quotes raw) :
    startsWithQuote raw = true := by
  cases quotes <;> rfl

/-- Whatever stands between two visible characters, the whole is trimmed. -/
theorem isTrimmed_between
    {quote : Char}
    (visible : Text.isBlank quote = false)
    (inner : Text) :
    Text.IsTrimmed (quote :: inner ++ [quote]) := by
  refine ⟨?_, ?_⟩
  · intro c first
    cases first
    exact visible
  · intro c last
    rw [List.getLast?_concat] at last
    cases last
    exact visible

theorem Quotes.isTrimmed
    {raw : Text}
    (quotes : Quotes raw) :
    Text.IsTrimmed raw := by
  cases quotes with
  | double _ => exact isTrimmed_between (by decide) _
  | single _ => exact isTrimmed_between (by decide) _

/-! ## Tokens -/

/-- The tokens that can be written: a bare word, which has no blank and no quote in
front, or a text in quotes. -/
inductive WellFormed : Token → Prop
  | bare
      {word : Text}
      (filled : word ≠ [])
      (visible : ∀ c ∈ word, Text.isBlank c = false)
      (unquoted : startsWithQuote word = false) :
      WellFormed ⟨word, false⟩
  | quoted
      {raw : Text}
      (quotes : Quotes raw) :
      WellFormed ⟨raw, true⟩

theorem WellFormed.filled
    {token : Token}
    (wellFormed : token.WellFormed) :
    token.raw ≠ [] := by
  cases wellFormed with
  | bare filled _ _ => exact filled
  | quoted quotes => cases quotes <;> simp

theorem WellFormed.isTrimmed
    {token : Token}
    (wellFormed : token.WellFormed) :
    Text.IsTrimmed token.raw := by
  cases wellFormed with
  | bare _ visible _ => exact Text.isTrimmed_of_visible visible
  | quoted quotes => exact quotes.isTrimmed

/-- What follows a text does not matter for whether it starts with a quote. -/
theorem startsWithQuote_append
    {text : Text}
    (filled : text ≠ [])
    (after : Text) :
    startsWithQuote (text ++ after) = startsWithQuote text := by
  obtain ⟨c, rest, rfl⟩ := List.exists_cons_of_ne_nil filled
  rfl

/-- A text without a quote in front has no token in quotes in front. -/
theorem splitQuoted?_eq_none
    {text : Text}
    (unquoted : startsWithQuote text = false) :
    splitQuoted? text = none := by
  cases split : splitQuoted? text with
  | none => rfl
  | some parts =>
      obtain ⟨quotes, shape⟩ := splitQuoted?_eq_some_iff.1 split
      have filled : parts.1 ≠ [] := (WellFormed.quoted quotes).filled
      rw [shape, startsWithQuote_append filled, quotes.startsWithQuote_eq] at unquoted
      cases unquoted

/-- A token that can be written is taken off the front of every text in which a blank or
nothing follows it. -/
theorem WellFormed.next_eq
    {token : Token}
    (wellFormed : token.WellFormed)
    {after : Text}
    (blank : ∀ c ∈ after.head?, Text.isBlank c = true) :
    next (token.raw ++ after) = .ok (token, after) := by
  cases wellFormed with
  | @bare word filled visible unquoted =>
      have whole : startsWithQuote (word ++ after) = false := by
        rw [startsWithQuote_append filled, unquoted]
      rw [next, splitQuoted?_eq_none whole]
      simp only [whole, Bool.false_eq_true, if_false]
      cases after with
      | nil =>
          rw [List.append_nil, Text.firstWord_eq_self visible,
            Text.afterFirstWord_eq_nil visible]
      | cons d more =>
          have stop := blank d rfl
          rw [Text.firstWord_append_cons visible stop,
            Text.afterFirstWord_append_cons visible stop]
  | @quoted raw quotes =>
      have behind : (after.head?.any fun c => !Text.isBlank c) = false := by
        cases after with
        | nil => rfl
        | cons c rest => simp [blank c rfl]
      rw [next, splitQuoted?_eq_some_iff.2 ⟨quotes, rfl⟩]
      simp [behind]

/-- What is taken off the front of a text that starts visibly is a token that can be
written, and a blank or nothing follows it. -/
theorem wellFormed_of_next
    {text after : Text}
    {token : Token}
    (filled : text ≠ [])
    (start : ∀ c ∈ text.head?, Text.isBlank c = false)
    (found : next text = .ok (token, after)) :
    token.WellFormed ∧ text = token.raw ++ after ∧
      ∀ c ∈ after.head?, Text.isBlank c = true := by
  rw [next] at found
  split at found
  · next raw behind split =>
      obtain ⟨quotes, shape⟩ := splitQuoted?_eq_some_iff.1 split
      split at found
      · cases found
      · next blank =>
          cases found
          refine ⟨.quoted quotes, shape, ?_⟩
          intro c first
          rw [Option.mem_def] at first
          simpa [first] using blank
  · split at found
    · cases found
    · next unquoted =>
        cases found
        have shown : Text.firstWord text ≠ [] := by
          obtain ⟨c, rest, rfl⟩ := List.exists_cons_of_ne_nil filled
          simp [Text.firstWord, start c rfl]
        refine ⟨.bare shown ?_ ?_, (Text.firstWord_append_afterFirstWord _).symm, ?_⟩
        · intro c inside
          simpa using List.mem_takeWhile_imp inside
        · rw [← startsWithQuote_append shown (Text.afterFirstWord text),
            Text.firstWord_append_afterFirstWord]
          simpa using unquoted
        · exact Text.head?_afterFirstWord_blank text

/-! ## Texts that start with no token -/

/-- How a text that starts with a quote has no token in front: the quote is not closed,
or something visible follows the closing one. -/
inductive Fails : Text → TokenError → Prop
  | unterminated
      {text : Text}
      (quote : startsWithQuote text = true)
      (unclosed : ∀ raw after, Quotes raw → text ≠ raw ++ after) :
      Fails text (.unterminatedQuote (Text.firstWord text))
  | trailing
      {raw rest : Text} {c : Char}
      (quotes : Quotes raw)
      (visible : Text.isBlank c = false) :
      Fails (raw ++ c :: rest) (.trailingCharacters (raw ++ Text.firstWord (c :: rest)))

/-- These are the ways in which no token is found. -/
theorem next_eq_error_iff
    {text : Text}
    {error : TokenError} :
    next text = .error error ↔ Fails text error := by
  constructor
  · intro found
    rw [next] at found
    split at found
    · next raw behind split =>
        obtain ⟨quotes, rfl⟩ := splitQuoted?_eq_some_iff.1 split
        split at found
        · next visible =>
            cases found
            cases behind with
            | nil => cases visible
            | cons c rest => exact .trailing quotes (by simpa using visible)
        · cases found
    · next split =>
        split at found
        · next quote =>
            cases found
            refine .unterminated quote ?_
            rintro raw after quotes rfl
            rw [splitQuoted?_eq_some_iff.2 ⟨quotes, rfl⟩] at split
            cases split
        · cases found
  · intro fails
    cases fails with
    | unterminated quote unclosed =>
        have split : splitQuoted? text = none := by
          rw [Option.eq_none_iff_forall_ne_some]
          rintro ⟨raw, after⟩ found
          obtain ⟨quotes, shape⟩ := splitQuoted?_eq_some_iff.1 found
          exact unclosed raw after quotes shape
        rw [next, split]
        simp [quote]
    | trailing quotes visible =>
        rw [next, splitQuoted?_eq_some_iff.2 ⟨quotes, rfl⟩]
        simp [visible]

/-- A text in which no token is found starts with a quote. -/
theorem Fails.startsWithQuote_eq
    {text : Text}
    {error : TokenError}
    (fails : Fails text error) :
    startsWithQuote text = true := by
  cases fails with
  | unterminated quote _ => exact quote
  | trailing quotes _ =>
      rw [startsWithQuote_append (WellFormed.quoted quotes).filled,
        quotes.startsWithQuote_eq]

theorem Fails.ne_nil
    {text : Text}
    {error : TokenError}
    (fails : Fails text error) :
    text ≠ [] := by
  rintro rfl
  cases fails.startsWithQuote_eq

/-- A text has no token in front in one way at most. -/
theorem Fails.unique
    {text : Text}
    {error other : TokenError}
    (fails : Fails text error)
    (otherFails : Fails text other) :
    error = other := by
  have found := next_eq_error_iff.2 fails
  rw [next_eq_error_iff.2 otherFails] at found
  cases found
  rfl

end Token
end PageCheck
