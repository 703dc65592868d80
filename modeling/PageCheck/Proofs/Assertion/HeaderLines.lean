import PageCheck.Proofs.Assertion.Headers

/-!
# What header lines mean

A header line gives a value to a name.  Two lines mean the same if their values are equal and
their names differ at most in the case of ASCII letters.  Whether an assertion about a header holds
on a page depends on what the header lines mean: neither their order and repetition nor the blanks
around their parts count, and the case of letters in its own name does not count either.
-/

namespace PageCheck

open Results

/-! ## Names in other letters -/

namespace Text

variable {text left right : Text} {c d : Char}

theorem sameLetters_iff :
    sameLetters left right = true ↔ left.map Char.toLower = right.map Char.toLower :=
  beq_iff_eq

theorem isBlank_of_isAlpha
    (letter : c.isAlpha = true) :
    isBlank c = false := by
  rw [isAlpha_iff_toNat] at letter
  simp only [isBlank, Bool.or_eq_false_iff, Bool.and_eq_false_iff, beq_eq_false_iff_ne,
    decide_eq_false_iff_not]
  omega

theorem isBlank_toLower (c : Char) : isBlank c.toLower = isBlank c := by
  cases letter : c.isAlpha with
  | true => rw [isBlank_of_isAlpha letter, isBlank_of_isAlpha ((isAlpha_toLower c).trans letter)]
  | false =>
      have other : c.toLower.isAlpha = false := (isAlpha_toLower c).trans letter
      have itself : c = c.toLower := (toLower_eq_iff_of_not_isAlpha other).1 rfl
      rw [← itself]

theorem trimStart_map_toLower (text : Text) :
    trimStart (text.map Char.toLower) = (trimStart text).map Char.toLower := by
  have same : isBlank ∘ Char.toLower = isBlank := funext isBlank_toLower
  rw [trimStart, List.dropWhile_map, same, trimStart]

/-- Letters in another case do not change what is trimmed away. -/
theorem trim_map_toLower (text : Text) :
    trim (text.map Char.toLower) = (trim text).map Char.toLower := by
  have behind (text : Text) : trimEnd text = (trimStart text.reverse).reverse := rfl
  rw [trim, trim, trimStart_map_toLower, behind, behind, ← List.map_reverse,
    trimStart_map_toLower, List.map_reverse]

theorem sameLetters_trim
    (same : sameLetters left right = true) :
    sameLetters (trim left) (trim right) = true := by
  rw [sameLetters_iff] at same ⊢
  rw [← trim_map_toLower, same, trim_map_toLower]

/-- Texts in the same letters have the same characters apart from letters. -/
theorem mem_iff_of_sameLetters
    (same : sameLetters left right = true)
    (other : d.isAlpha = false) :
    d ∈ left ↔ d ∈ right := by
  have lowered (text : Text) : d ∈ text.map Char.toLower ↔ d ∈ text := by
    simp only [List.mem_map, toLower_eq_iff_of_not_isAlpha other, exists_eq_right]
  rw [← lowered left, ← lowered right, sameLetters_iff.1 same]

/-- A text without letters is the only one in its letters. -/
theorem eq_of_sameLetters
    (same : sameLetters left right = true)
    (others : ∀ c ∈ left, c.isAlpha = false) :
    left = right := by
  rw [sameLetters_iff] at same
  induction left generalizing right with
  | nil => exact (List.map_eq_nil_iff.1 same.symm).symm
  | cons c left hypothesis =>
      cases right with
      | nil => cases same
      | cons d right =>
          rw [List.forall_mem_cons] at others
          injection same with first later
          have lowered : c.toLower.isAlpha = false := (isAlpha_toLower c).trans others.1
          have itself : c = c.toLower := (toLower_eq_iff_of_not_isAlpha lowered).1 rfl
          rw [← itself] at first
          rw [hypothesis later others.2, (toLower_eq_iff_of_not_isAlpha others.1).1 first.symm]

end Text

/-! ## Lines that mean the same -/

namespace Header

variable {line other name value : Text}

/-- What a header line means: the name in front of its first colon and the value behind it.  A line
without a colon is a name with an empty value. -/
inductive Means : Text → Text → Text → Prop
  | valued
      {front back : Text}
      (first : ':' ∉ front) :
      Means (front ++ ':' :: back) (Text.trim front) (Text.trim back)
  | named
      {line : Text}
      (absent : ':' ∉ line) :
      Means line (Text.trim line) []

/-- A line is split into what it means. -/
theorem means_iff : Means line name value ↔ split line = (name, value) := by
  constructor
  · intro means
    cases means with
    | valued first => exact split_append_cons first _
    | named absent => exact split_of_notMem absent
  · intro parts
    by_cases colon : ':' ∈ line
    · obtain ⟨front, back, rfl, first⟩ := List.eq_append_cons_of_mem colon
      rw [split_append_cons first] at parts
      cases parts
      exact .valued first
    · rw [split_of_notMem colon] at parts
      cases parts
      exact .named colon

/-- Two lines that give the same value to one name, which may be written in other letters. -/
def Counterparts (line other : Text) : Prop :=
  ∃ name renamed value, Means line name value ∧ Means other renamed value ∧
    Text.sameLetters name renamed = true

theorem counterparts_iff :
    Counterparts line other ↔
      sameName (split line).1 (split other).1 = true ∧ (split line).2 = (split other).2 := by
  constructor
  · rintro ⟨name, renamed, value, means, meansToo, same⟩
    rw [means_iff.1 means, means_iff.1 meansToo]
    exact ⟨same, rfl⟩
  · rintro ⟨same, values⟩
    exact ⟨_, _, _, means_iff.2 rfl, means_iff.2 (Prod.ext rfl values.symm), same⟩

instance (line other : Text) : Decidable (Counterparts line other) :=
  decidable_of_iff _ counterparts_iff.symm

theorem Counterparts.symm
    (counterparts : Counterparts line other) :
    Counterparts other line := by
  obtain ⟨name, renamed, value, means, meansToo, same⟩ := counterparts
  rw [Text.sameLetters_iff] at same
  exact ⟨renamed, name, value, meansToo, means, Text.sameLetters_iff.2 same.symm⟩

/-- A name is the same as two names in the same letters, or it is neither. -/
theorem sameName_congr
    {renamed : Text}
    (same : Text.sameLetters name renamed = true)
    (third : Text) :
    sameName third name = sameName third renamed := by
  rw [sameName, sameName, Text.sameLetters, Text.sameLetters, Text.sameLetters_iff.1 same]

/-- The same argument, but for the letters of its name. -/
inductive Renames : Text → Text → Prop
  | named
      {name renamed : Text}
      (absent : ':' ∉ name)
      (same : Text.sameLetters name renamed = true) :
      Renames name renamed
  | valued
      {name renamed back : Text}
      (absent : ':' ∉ name)
      (same : Text.sameLetters name renamed = true) :
      Renames (name ++ ':' :: back) (renamed ++ ':' :: back)

/-- A renamed argument means the same, and without a name it is the argument itself. -/
theorem Renames.split_eq
    (renames : Renames line other) :
    Text.sameLetters (split line).1 (split other).1 = true ∧
      (split line).2 = (split other).2 ∧ ((split line).1 = [] → line = other) := by
  have noColon {name renamed : Text} (absent : ':' ∉ name)
      (same : Text.sameLetters name renamed = true) : ':' ∉ renamed :=
    fun inside => absent ((Text.mem_iff_of_sameLetters same (by decide)).2 inside)
  have nameless {name renamed : Text} (same : Text.sameLetters name renamed = true)
      (hollow : Text.trim name = []) : name = renamed := by
    refine Text.eq_of_sameLetters same fun c inside => ?_
    have blank := Text.trim_eq_nil_iff.1 hollow c inside
    by_contra letter
    rw [Bool.not_eq_false] at letter
    rw [Text.isBlank_of_isAlpha letter] at blank
    cases blank
  cases renames with
  | named absent same =>
      rw [split_of_notMem absent, split_of_notMem (noColon absent same)]
      exact ⟨Text.sameLetters_trim same, rfl, nameless same⟩
  | valued absent same =>
      rw [split_append_cons absent, split_append_cons (noColon absent same)]
      refine ⟨Text.sameLetters_trim same, rfl, fun hollow => ?_⟩
      rw [nameless same hollow]

end Header

/-- Two pages with header lines that mean the same: every line of one has a counterpart in the
other. -/
structure Page.SameHeaders (left right : Page) : Prop where
  to_right : ∀ line ∈ left.headers, ∃ other ∈ right.headers, Header.Counterparts line other
  to_left : ∀ other ∈ right.headers, ∃ line ∈ left.headers, Header.Counterparts line other

/-! ## Assertions -/

section Checks

variable {left right : Page} {name renamed : Text}

/-- A check of a header that passes a page passes every page with counterparts of its lines. -/
theorem Check.holds_header_of_counterparts
    {value : Option Matcher}
    (counterparts : ∀ line ∈ left.headers, ∃ other ∈ right.headers,
      Header.Counterparts line other)
    (holds : (Check.header name value).holds left = true) :
    (Check.header name value).holds right = true := by
  obtain ⟨line, inside, named, accepted⟩ := Check.holds_header_iff.1 holds
  obtain ⟨other, insideToo, alike⟩ := counterparts line inside
  obtain ⟨same, values⟩ := Header.counterparts_iff.1 alike
  refine Check.holds_header_iff.2 ⟨other, insideToo, ?_, ?_⟩
  · rw [Header.sameName, Text.sameLetters_iff] at named same ⊢
    rw [← same, named]
  · rw [← values]
    exact accepted

theorem Check.holds_header_of_sameHeaders
    (same : left.SameHeaders right)
    (name : Text)
    (value : Option Matcher) :
    (Check.header name value).holds left = (Check.header name value).holds right := by
  have back : ∀ other ∈ right.headers, ∃ line ∈ left.headers,
      Header.Counterparts other line := by
    intro other inside
    obtain ⟨line, insideToo, alike⟩ := same.to_left other inside
    exact ⟨line, insideToo, alike.symm⟩
  rw [Bool.eq_iff_iff]
  exact ⟨Check.holds_header_of_counterparts same.to_right,
    Check.holds_header_of_counterparts back⟩

/-- The letters of the name that is asked for do not count. -/
theorem Check.holds_header_of_sameLetters
    (same : Text.sameLetters name renamed = true)
    (value : Option Matcher)
    (page : Page) :
    (Check.header name value).holds page = (Check.header renamed value).holds page := by
  simp only [Check.holds, Header.sameName_congr same]

end Checks

namespace Assertion

variable {location : Location} {modifiers : Modifiers} {argument : Text}

/-- An assertion that is built from an argument asks for the name of the argument. -/
theorem exists_value_of_header
    {assertion : Assertion}
    (built : header location argument modifiers = .ok assertion) :
    ∃ value, assertion = ⟨location, modifiers, .header (Header.split argument).1 value⟩ := by
  have named : (Header.split argument).1 ≠ [] := by
    intro nameless
    rw [header_of_noName nameless] at built
    cases built
  by_cases valueless : (Header.split argument).2 = []
  · rw [header_of_name (Prod.ext rfl valueless) named] at built
    cases built
    exact ⟨none, rfl⟩
  · rw [header_of_value rfl named valueless] at built
    obtain ⟨matcher, -, rfl⟩ := map_eq_ok_iff.1 built
    exact ⟨some matcher, rfl⟩

/-- A renamed argument is refused like the argument, or its assertion asks for the renamed name
and for the same value. -/
theorem header_renamed
    {renamed : Text}
    (renames : Header.Renames argument renamed)
    (location : Location)
    (modifiers : Modifiers) :
    Corresponds
      (fun assertion other => ∃ value : Option Matcher,
        assertion = ⟨location, modifiers, .header (Header.split argument).1 value⟩ ∧
        other = ⟨location, modifiers, .header (Header.split renamed).1 value⟩)
      (header location argument modifiers) (header location renamed modifiers) := by
  obtain ⟨same, values, nameless⟩ := renames.split_eq
  by_cases named : (Header.split argument).1 = []
  · rw [← nameless named, header_of_noName named]
    exact .error _
  · have namedToo : (Header.split renamed).1 ≠ [] := by
      intro hollow
      rw [hollow, Text.sameLetters_iff, List.map_nil, List.map_eq_nil_iff] at same
      exact named same
    by_cases valueless : (Header.split argument).2 = []
    · rw [header_of_name (Prod.ext rfl valueless) named,
        header_of_name (Prod.ext rfl (values.symm.trans valueless)) namedToo]
      exact .ok ⟨none, rfl, rfl⟩
    · have parts : Header.split renamed =
          ((Header.split renamed).1, (Header.split argument).2) := Prod.ext rfl values.symm
      rw [header_of_value rfl named valueless, header_of_value parts namedToo valueless]
      exact corresponds_map fun matcher _ => ⟨some matcher, rfl, rfl⟩

/-- An assertion of a header succeeds on both of two pages or on neither, if their header lines
mean the same.  With another case of letters in the name of its argument it is built, or refused,
all the same, and succeeds on the same pages. -/
theorem header_dependsOn_meaning
    (location : Location)
    (modifiers : Modifiers)
    (argument : Text) :
    (∀ assertion, header location argument modifiers = .ok assertion →
      ∀ left right : Page, left.SameHeaders right →
        (assertion.test left).isSuccess = (assertion.test right).isSuccess) ∧
    ∀ renamed, Header.Renames argument renamed →
      Corresponds
        (fun assertion other => ∀ page : Page,
          (assertion.test page).isSuccess = (other.test page).isSuccess)
        (header location argument modifiers) (header location renamed modifiers) := by
  constructor
  · intro assertion built left right same
    obtain ⟨value, rfl⟩ := exists_value_of_header built
    rw [isSuccess_test, isSuccess_test, holds, holds, Check.holds_header_of_sameHeaders same]
  · intro renamed renames
    refine (header_renamed renames location modifiers).mono ?_
    rintro _ _ ⟨value, rfl, rfl⟩ page
    rw [isSuccess_test, isSuccess_test, holds, holds,
      Check.holds_header_of_sameLetters renames.split_eq.1]

/-- A negated pattern, and lines in another order, with other letters and blanks and one of them
twice. -/
theorem header_dependsOn_meaning_order_and_letters :
    let argument : Text := "X-Kind: a|b"
    let renamed : Text := "x-kIND: a|b"
    let modifiers : Modifiers := ⟨true, false, true⟩
    let left : Page := ⟨200, ["x-kind:b", "Server: t"], []⟩
    let right : Page := ⟨404, ["SERVER : t", "X-Kind:  b ", "server:t"], "x"⟩
    left.SameHeaders right ∧ Header.Renames argument renamed ∧
    ∃ assertion other,
      header ⟨"t", 1⟩ argument modifiers = .ok assertion ∧
      header ⟨"t", 1⟩ renamed modifiers = .ok other ∧
      (assertion.test left).isSuccess = false ∧ (assertion.test right).isSuccess = false ∧
      (other.test right).isSuccess = false := by
  intro argument renamed modifiers left right
  have same : left.SameHeaders right := ⟨by decide +kernel, by decide +kernel⟩
  have renames : Header.Renames argument renamed :=
    @Header.Renames.valued "X-Kind" "x-kIND" " a|b" (by decide) (by decide)
  have built : ∃ assertion, header ⟨"t", 1⟩ argument modifiers = .ok assertion ∧
      (assertion.test left).isSuccess = false := ⟨_, rfl, by decide +kernel⟩
  obtain ⟨assertion, built, fails⟩ := built
  obtain ⟨alike, letters⟩ := header_dependsOn_meaning ⟨"t", 1⟩ modifiers argument
  have corresponds := letters renamed renames
  rw [built] at corresponds
  obtain ⟨other, builtToo, agree⟩ := corresponds.exists_of_ok
  have failsToo := (alike assertion built left right same).symm.trans fails
  exact ⟨same, renames, assertion, other, built, builtToo, fails, failsToo,
    (agree right).symm.trans failsToo⟩

end Assertion
end PageCheck
