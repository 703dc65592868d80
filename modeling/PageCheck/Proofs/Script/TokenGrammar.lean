import PageCheck.Proofs.Script.Tokens

/-!
# The grammar of arguments

A layout puts tokens into a text, with blanks in front of them, between them and behind
them.  A text has at most one layout, and its tokens are found exactly if it has one.
Where it has none, there is a first place at which a token should start and none does.
-/

namespace PageCheck

/-- Tokens in a text: the blanks in front of them, and each with the blanks behind it. -/
structure Layout where
  front : Text
  parts : List (Token × Text)

namespace Layout

/-- The text of tokens with the blanks behind each. -/
def body (parts : List (Token × Text)) : Text :=
  parts.flatMap fun part => part.1.raw ++ part.2

/-- The text that a layout is about. -/
def text (layout : Layout) : Text :=
  layout.front ++ body layout.parts

/-- The tokens of a layout from left to right. -/
def tokens (layout : Layout) : List Token :=
  layout.parts.map Prod.fst

/-- There are only blanks around the tokens, and at least one between two of them. -/
structure WellFormed (layout : Layout) : Prop where
  front_blank : ∀ c ∈ layout.front, Text.isBlank c = true
  token_wellFormed : ∀ part ∈ layout.parts, part.1.WellFormed
  gap_blank : ∀ part ∈ layout.parts, ∀ c ∈ part.2, Text.isBlank c = true
  gap_filled : ∀ part ∈ layout.parts.dropLast, part.2 ≠ []

/-- The layout puts tokens into the whole text. -/
structure Reads (layout : Layout) (whole : Text) : Prop where
  wellFormed : layout.WellFormed
  text_eq : layout.text = whole

/-- The layout puts tokens into the text up to a place where the next one should start,
and no token starts there. -/
structure StopsAt (layout : Layout) (rest whole : Text) (error : TokenError) : Prop where
  wellFormed : layout.WellFormed
  room : ∀ part ∈ layout.parts, part.2 ≠ []
  text_eq : layout.text ++ rest = whole
  fails : Token.Fails rest error

/-! ## Layouts token by token -/

@[simp] theorem body_nil : body [] = [] := rfl

theorem body_cons
    (token : Token)
    (gap : Text)
    (parts : List (Token × Text)) :
    body ((token, gap) :: parts) = token.raw ++ text ⟨gap, parts⟩ := by
  simp [body, text]

theorem wellFormed_nil
    {front : Text}
    (blank : ∀ c ∈ front, Text.isBlank c = true) :
    WellFormed ⟨front, []⟩ where
  front_blank := blank
  token_wellFormed := by simp
  gap_blank := by simp
  gap_filled := by simp

/-- The blanks behind the first token are the blanks in front of the other ones. -/
theorem WellFormed.tail
    {front gap : Text}
    {token : Token}
    {parts : List (Token × Text)}
    (wellFormed : WellFormed ⟨front, (token, gap) :: parts⟩) :
    WellFormed ⟨gap, parts⟩ where
  front_blank := wellFormed.gap_blank (token, gap) List.mem_cons_self
  token_wellFormed part inside :=
    wellFormed.token_wellFormed part (List.mem_cons_of_mem (token, gap) inside)
  gap_blank part inside := wellFormed.gap_blank part (List.mem_cons_of_mem (token, gap) inside)
  gap_filled part inside := by
    apply wellFormed.gap_filled part
    cases parts with
    | nil => cases inside
    | cons other parts => exact List.mem_cons_of_mem (token, gap) inside

/-- A token is put in front of a layout if there is a blank between it and what
follows. -/
theorem WellFormed.cons
    {front gap : Text}
    {token : Token}
    {parts : List (Token × Text)}
    (wellFormed : WellFormed ⟨gap, parts⟩)
    (blank : ∀ c ∈ front, Text.isBlank c = true)
    (first : token.WellFormed)
    (filled : parts ≠ [] → gap ≠ []) :
    WellFormed ⟨front, (token, gap) :: parts⟩ where
  front_blank := blank
  token_wellFormed := List.forall_mem_cons.2 ⟨first, wellFormed.token_wellFormed⟩
  gap_blank := List.forall_mem_cons.2 ⟨wellFormed.front_blank, wellFormed.gap_blank⟩
  gap_filled := by
    cases parts with
    | nil => simp
    | cons other parts =>
        rw [List.dropLast_cons_of_ne_nil (List.cons_ne_nil other parts)]
        exact List.forall_mem_cons.2 ⟨filled (List.cons_ne_nil other parts),
          wellFormed.gap_filled⟩

/-! ## Layouts of the front of a text -/

/-- No token starts here: the text ends, or it goes on with something that is none. -/
def Halts (rest : Text) : Prop :=
  rest = [] ∨ ∃ error, Token.Fails rest error

theorem Halts.visible
    {rest : Text}
    (halts : Halts rest) :
    ∀ c ∈ rest.head?, Text.isBlank c = false := by
  rcases halts with rfl | ⟨error, fails⟩
  · simp
  · intro c start
    have quote := fails.startsWithQuote_eq
    rw [Option.mem_def] at start
    simp only [Token.startsWithQuote, start, Bool.or_eq_true, beq_iff_eq,
      Option.some.injEq] at quote
    rcases quote with rfl | rfl <;> decide

/-- The layout covers a text up to a rest in which no token starts.  This is what the two
relations above have in common. -/
structure Covers (layout : Layout) (rest whole : Text) : Prop where
  wellFormed : layout.WellFormed
  room : rest ≠ [] → ∀ part ∈ layout.parts, part.2 ≠ []
  text_eq : layout.text ++ rest = whole
  halts : Halts rest

theorem reads_iff_covers
    {layout : Layout}
    {whole : Text} :
    layout.Reads whole ↔ layout.Covers [] whole := by
  constructor
  · rintro ⟨wellFormed, shape⟩
    exact ⟨wellFormed, by simp, by rw [List.append_nil, shape], .inl rfl⟩
  · rintro ⟨wellFormed, -, shape, -⟩
    exact ⟨wellFormed, by rw [← shape, List.append_nil]⟩

theorem stopsAt_iff_covers
    {layout : Layout}
    {rest whole : Text}
    {error : TokenError} :
    layout.StopsAt rest whole error ↔ layout.Covers rest whole ∧ Token.Fails rest error := by
  constructor
  · rintro ⟨wellFormed, room, shape, fails⟩
    exact ⟨⟨wellFormed, fun _ => room, shape, .inr ⟨error, fails⟩⟩, fails⟩
  · rintro ⟨⟨wellFormed, room, shape, -⟩, fails⟩
    exact ⟨wellFormed, room fails.ne_nil, shape, fails⟩

namespace Covers

variable {front gap rest whole : Text} {token : Token} {parts : List (Token × Text)}

/-- What follows the first token is covered by the tokens behind it. -/
theorem tail
    (covers : Covers ⟨front, (token, gap) :: parts⟩ rest whole) :
    Covers ⟨gap, parts⟩ rest (text ⟨gap, parts⟩ ++ rest) where
  wellFormed := covers.wellFormed.tail
  room filled part inside := covers.room filled part (List.mem_cons_of_mem (token, gap) inside)
  text_eq := rfl
  halts := covers.halts

/-- The text behind the blanks in front starts visibly. -/
theorem head?_visible
    {layout : Layout}
    (covers : layout.Covers rest whole) :
    ∀ c ∈ (body layout.parts ++ rest).head?, Text.isBlank c = false := by
  obtain ⟨front, parts⟩ := layout
  cases parts with
  | nil => exact covers.halts.visible
  | cons part parts =>
      have first := covers.wellFormed.token_wellFormed part List.mem_cons_self
      have trimmed := first.isTrimmed.1
      obtain ⟨d, more, shape⟩ := List.exists_cons_of_ne_nil first.filled
      rw [shape] at trimmed
      intro c start
      apply trimmed c
      simpa [body, shape] using start

/-- The text behind the first token starts with a blank or has no character. -/
theorem head?_blank
    (covers : Covers ⟨front, (token, gap) :: parts⟩ rest whole) :
    ∀ c ∈ (text ⟨gap, parts⟩ ++ rest).head?, Text.isBlank c = true := by
  have blank := covers.wellFormed.tail.front_blank
  cases gap with
  | cons d gap =>
      intro c start
      cases start
      exact blank d List.mem_cons_self
  | nil =>
      cases parts with
      | cons other parts =>
          exact absurd rfl (covers.wellFormed.gap_filled (token, []) (by simp))
      | nil =>
          cases rest with
          | nil => simp [text, body]
          | cons d rest =>
              have filled := covers.room (List.cons_ne_nil d rest)
              exact absurd rfl (filled (token, []) List.mem_cons_self)

/-- The blanks in front are all that the text has in front. -/
theorem takeWhile_eq
    {layout : Layout}
    (covers : layout.Covers rest whole) :
    whole.takeWhile Text.isBlank = layout.front := by
  rw [← covers.text_eq, text, List.append_assoc]
  exact Text.takeWhile_isBlank_append covers.wellFormed.front_blank covers.head?_visible

/-- The first token of a layout is the one that is taken off the front. -/
theorem next_eq
    (covers : Covers ⟨front, (token, gap) :: parts⟩ rest whole) :
    Token.next (body ((token, gap) :: parts) ++ rest) =
      .ok (token, text ⟨gap, parts⟩ ++ rest) := by
  have first := covers.wellFormed.token_wellFormed (token, gap) List.mem_cons_self
  rw [body_cons, List.append_assoc]
  exact first.next_eq covers.head?_blank

/-- No token is missing in a layout. -/
theorem not_halts
    {part : Token × Text}
    (covers : Covers ⟨front, part :: parts⟩ rest whole) :
    ¬ Halts (body (part :: parts) ++ rest) := by
  obtain ⟨token, gap⟩ := part
  rintro (hollow | ⟨error, fails⟩)
  · have first := covers.wellFormed.token_wellFormed (token, gap) List.mem_cons_self
    rw [body_cons, List.append_assoc] at hollow
    exact first.filled (List.append_eq_nil_iff.1 hollow).1
  · have found := covers.next_eq
    rw [Token.next_eq_error_iff.2 fails] at found
    cases found

/-! ## Uniqueness -/

/-- The blanks in front are determined, and so is what follows them. -/
theorem front_eq_and_body_eq
    {otherFront otherRest : Text}
    {otherParts : List (Token × Text)}
    (covers : Covers ⟨front, parts⟩ rest whole)
    (otherCovers : Covers ⟨otherFront, otherParts⟩ otherRest whole) :
    front = otherFront ∧ body parts ++ rest = body otherParts ++ otherRest := by
  obtain rfl : front = otherFront := covers.takeWhile_eq.symm.trans otherCovers.takeWhile_eq
  have same := covers.text_eq.trans otherCovers.text_eq.symm
  exact ⟨rfl, by simpa [text] using same⟩

/-- A text is covered in at most one way, up to one place. -/
theorem unique
    {layout other : Layout}
    {otherRest : Text}
    (covers : layout.Covers rest whole)
    (otherCovers : other.Covers otherRest whole) :
    layout = other ∧ rest = otherRest := by
  obtain ⟨front, parts⟩ := layout
  obtain ⟨otherFront, otherParts⟩ := other
  -- At every step the blanks in front are the same, and so is the first token behind them.
  induction parts generalizing whole front otherFront otherParts with
  | nil =>
      obtain ⟨rfl, bodies⟩ := covers.front_eq_and_body_eq otherCovers
      cases otherParts with
      | nil => exact ⟨rfl, bodies⟩
      | cons part otherParts => exact absurd (bodies ▸ covers.halts) otherCovers.not_halts
  | cons part parts hypothesis =>
      obtain ⟨token, gap⟩ := part
      obtain ⟨rfl, bodies⟩ := covers.front_eq_and_body_eq otherCovers
      cases otherParts with
      | nil => exact absurd (bodies ▸ otherCovers.halts) covers.not_halts
      | cons otherPart otherParts =>
          obtain ⟨otherToken, otherGap⟩ := otherPart
          have found := covers.next_eq
          rw [bodies, otherCovers.next_eq, Except.ok.injEq, Prod.mk.injEq] at found
          obtain ⟨rfl, behind⟩ := found
          obtain ⟨tails, rests⟩ := hypothesis gap covers.tail otherGap otherParts
            (behind ▸ otherCovers.tail)
          cases tails
          exact ⟨rfl, rests⟩

end Covers

/-! ## Existence -/

/-- Blanks and a token are put in front of a text that starts as it should behind a
token. -/
theorem Covers.cons
    {front rest whole after : Text}
    {token : Token}
    {layout : Layout}
    (covers : layout.Covers rest after)
    (blank : ∀ c ∈ front, Text.isBlank c = true)
    (first : token.WellFormed)
    (behind : ∀ c ∈ after.head?, Text.isBlank c = true)
    (shape : front ++ (token.raw ++ after) = whole) :
    Covers ⟨front, (token, layout.front) :: layout.parts⟩ rest whole := by
  obtain ⟨gap, parts⟩ := layout
  -- Without a blank, what follows would have to start visibly.
  have filled : body parts ++ rest ≠ [] → gap ≠ [] := by
    rintro more rfl
    obtain ⟨c, others, start⟩ := List.exists_cons_of_ne_nil more
    have visible := covers.head?_visible c (by rw [start]; rfl)
    have hidden := behind c (by rw [← covers.text_eq, text, List.nil_append, start]; rfl)
    rw [hidden] at visible
    cases visible
  refine ⟨covers.wellFormed.cons blank first ?_, ?_, ?_, covers.halts⟩
  · intro more
    obtain ⟨part, others, rfl⟩ := List.exists_cons_of_ne_nil more
    apply filled
    have second := covers.wellFormed.token_wellFormed part List.mem_cons_self
    rw [body_cons, List.append_assoc]
    exact fun hollow => second.filled (List.append_eq_nil_iff.1 hollow).1
  · intro more
    exact List.forall_mem_cons.2 ⟨filled (List.append_ne_nil_of_right_ne_nil _ more),
      covers.room more⟩
  · rw [← shape, ← covers.text_eq, text, body_cons]
    simp

/-- Every text has a layout or one that stops where no token starts, and this decides
what its tokens are. -/
theorem exists_reads_or_stopsAt (whole : Text) :
    (∃ layout : Layout, layout.Reads whole ∧ tokenize whole = .ok layout.tokens) ∨
      ∃ (layout : Layout) (rest : Text) (error : TokenError),
        layout.StopsAt rest whole error ∧ tokenize whole = .error error := by
  fun_induction tokenize whole with
  | case1 text hollow =>
      have blank : ∀ c ∈ text, Text.isBlank c = true := List.dropWhile_eq_nil_iff.1 hollow
      exact .inl ⟨⟨text, []⟩, ⟨wellFormed_nil blank, by simp [Layout.text]⟩, rfl⟩
  | case2 text c rest start error found =>
      have blank : ∀ d ∈ text.takeWhile Text.isBlank, Text.isBlank d = true :=
        fun d inside => List.mem_takeWhile_imp inside
      have shape : text.takeWhile Text.isBlank ++ c :: rest = text := by
        rw [← start]
        exact List.takeWhile_append_dropWhile
      exact .inr ⟨⟨text.takeWhile Text.isBlank, []⟩, c :: rest, error,
        ⟨wellFormed_nil blank, by simp, by simpa [Layout.text] using shape,
          Token.next_eq_error_iff.1 found⟩, rfl⟩
  | case3 text c rest start token after found hypothesis =>
      have blank : ∀ d ∈ text.takeWhile Text.isBlank, Text.isBlank d = true :=
        fun d inside => List.mem_takeWhile_imp inside
      have visible := Text.head?_trimStart_not_blank text
      rw [start] at visible
      obtain ⟨first, split, behind⟩ :=
        Token.wellFormed_of_next (List.cons_ne_nil c rest) visible found
      have shape : text.takeWhile Text.isBlank ++ (token.raw ++ after) = text := by
        rw [← split, ← start]
        exact List.takeWhile_append_dropWhile
      rcases hypothesis with ⟨layout, reads, tokens⟩ | ⟨layout, bad, error, stops, failed⟩
      · have covers := reads_iff_covers.1 reads
        exact .inl ⟨_, reads_iff_covers.2 (covers.cons blank first behind shape),
          by rw [tokens]; rfl⟩
      · obtain ⟨covers, fails⟩ := stopsAt_iff_covers.1 stops
        exact .inr ⟨_, bad, error,
          stopsAt_iff_covers.2 ⟨covers.cons blank first behind shape, fails⟩,
          by rw [failed]; rfl⟩

/-- A text that has a layout has none that stops. -/
theorem Reads.not_stopsAt
    {layout other : Layout}
    {rest whole : Text}
    {error : TokenError}
    (reads : layout.Reads whole) :
    ¬ other.StopsAt rest whole error := by
  intro stops
  obtain ⟨covers, fails⟩ := stopsAt_iff_covers.1 stops
  exact fails.ne_nil ((reads_iff_covers.1 reads).unique covers).2.symm

/-- The tokens of a text that has a layout are those of this layout. -/
theorem Reads.tokenize_eq
    {layout : Layout}
    {whole : Text}
    (reads : layout.Reads whole) :
    tokenize whole = .ok layout.tokens := by
  rcases exists_reads_or_stopsAt whole with
    ⟨other, otherReads, found⟩ | ⟨other, rest, error, stops, -⟩
  · obtain ⟨rfl, -⟩ := (reads_iff_covers.1 reads).unique (reads_iff_covers.1 otherReads)
    exact found
  · exact absurd stops reads.not_stopsAt

/-- All tokens that are found in a text can be written. -/
theorem wellFormed_of_tokenize
    {whole : Text}
    {tokens : List Token}
    (found : tokenize whole = .ok tokens) :
    ∀ token ∈ tokens, token.WellFormed := by
  rcases exists_reads_or_stopsAt whole with
    ⟨layout, reads, tokenized⟩ | ⟨layout, rest, error, -, failed⟩
  · rw [tokenized] at found
    cases found
    exact List.forall_mem_map.2 reads.wellFormed.token_wellFormed
  · rw [failed] at found
    cases found

end Layout

/-! ## The tokens of a text -/

/-- The tokens of a text are found exactly if it has a layout, and they are the tokens of
that layout; there is no other one.  Otherwise the text has tokens up to a place where the
next one should start and none does, and the error is about what stands there. -/
theorem tokenize_eq_iff_layout (whole : Text) :
    (∀ tokens, tokenize whole = .ok tokens ↔
      ∃ layout : Layout, layout.Reads whole ∧ layout.tokens = tokens) ∧
    (∀ layout other : Layout, layout.Reads whole → other.Reads whole → layout = other) ∧
    (∀ error, tokenize whole = .error error ↔
      ∃ (layout : Layout) (rest : Text), layout.StopsAt rest whole error) ∧
    (∀ (layout other : Layout) (rest otherRest : Text) (error otherError : TokenError),
      layout.StopsAt rest whole error → other.StopsAt otherRest whole otherError →
        layout = other ∧ rest = otherRest ∧ error = otherError) := by
  have unique : ∀ layout other : Layout,
      layout.Reads whole → other.Reads whole → layout = other := by
    intro layout other reads otherReads
    exact ((Layout.reads_iff_covers.1 reads).unique (Layout.reads_iff_covers.1 otherReads)).1
  have place : ∀ (layout other : Layout) (rest otherRest : Text) (error otherError : TokenError),
      layout.StopsAt rest whole error → other.StopsAt otherRest whole otherError →
        layout = other ∧ rest = otherRest ∧ error = otherError := by
    intro layout other rest otherRest error otherError stops otherStops
    obtain ⟨covers, fails⟩ := Layout.stopsAt_iff_covers.1 stops
    obtain ⟨otherCovers, otherFails⟩ := Layout.stopsAt_iff_covers.1 otherStops
    obtain ⟨rfl, rfl⟩ := covers.unique otherCovers
    exact ⟨rfl, rfl, fails.unique otherFails⟩
  refine ⟨?_, unique, ?_, place⟩
  · intro tokens
    rcases Layout.exists_reads_or_stopsAt whole with
      ⟨layout, reads, found⟩ | ⟨layout, rest, error, stops, failed⟩
    · rw [found, Except.ok.injEq]
      constructor
      · rintro rfl
        exact ⟨layout, reads, rfl⟩
      · rintro ⟨other, otherReads, rfl⟩
        rw [unique layout other reads otherReads]
    · rw [failed]
      exact ⟨nofun, fun ⟨_, reads, _⟩ => absurd stops reads.not_stopsAt⟩
  · intro error
    rcases Layout.exists_reads_or_stopsAt whole with
      ⟨layout, reads, found⟩ | ⟨layout, rest, failure, stops, failed⟩
    · rw [found]
      exact ⟨nofun, fun ⟨_, _, stops⟩ => absurd stops reads.not_stopsAt⟩
    · rw [failed, Except.error.injEq]
      constructor
      · rintro rfl
        exact ⟨layout, rest, stops⟩
      · rintro ⟨other, otherRest, otherStops⟩
        exact (place layout other rest otherRest failure error stops otherStops).2.2

end PageCheck
