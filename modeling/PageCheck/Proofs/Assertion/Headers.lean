import PageCheck.Proofs.Matcher.Pattern
import PageCheck.Proofs.Matcher.Literal
import PageCheck.Proofs.Suite.ShortCircuit

/-!
# Readers of headers

The header lines of pages, the arguments of header assertions and the lines of header modifiers
are read by three functions.  The last two are described by the first one, which splits a line
into its name and its value.  Therefore an assertion finds the line that it was written as, and
the line that a server echoes for the header modifier written in the same way.
-/

namespace PageCheck

open Results

/-! ## Arguments of assertions -/

namespace Assertion

variable {location : Location} {modifiers : Modifiers} {argument name value : Text}
variable {assertion : Assertion}

/-- An argument without a name is refused. -/
theorem header_of_noName
    (nameless : (Header.split argument).1 = []) :
    header location argument modifiers = .error (.invalidHeader argument) := by
  rw [header, headerParts_eq, nameless]

/-- An argument that is only a name asks for a header of this name. -/
theorem header_of_name
    (parts : Header.split argument = (name, []))
    (named : name ≠ []) :
    header location argument modifiers = .ok ⟨location, modifiers, .header name none⟩ := by
  obtain ⟨c, rest, rfl⟩ := List.exists_cons_of_ne_nil named
  rw [header, headerParts_eq, parts]
  exact build_of_allowed rfl location modifiers

/-- An argument with a value asks for a header of this name with exactly this value. -/
theorem header_of_value
    (parts : Header.split argument = (name, value))
    (named : name ≠ [])
    (filled : value ≠ []) :
    header location argument modifiers =
      (Matcher.build value .exact modifiers).map fun matcher =>
        ⟨location, modifiers, .header name (some matcher)⟩ := by
  obtain ⟨c, rest, rfl⟩ := List.exists_cons_of_ne_nil named
  obtain ⟨d, more, rfl⟩ := List.exists_cons_of_ne_nil filled
  rw [header, headerParts_eq, parts]
  simp only [List.isEmpty_cons, Bool.false_eq_true, if_false]
  cases Matcher.build (d :: more) .exact modifiers with
  | error cause => rfl
  | ok matcher => exact build_of_allowed rfl location modifiers

end Assertion

/-! ## Lines of modifiers -/

/-- A line is taken as a header of a request if it has a colon and a name without blanks, and it
gives the name and the value that it has as a line. -/
theorem RequestModifier.ofHeaderLine_eq_ok_iff
    {line : Text}
    {modifier : RequestModifier} :
    ofHeaderLine line = .ok modifier ↔
      ':' ∈ line ∧ (Header.split line).1 ≠ [] ∧
      (∀ c ∈ (Header.split line).1, Text.isBlank c = false) ∧
      modifier = .header (Header.split line).1 (Header.split line).2 := by
  by_cases colon : ':' ∈ line
  · obtain ⟨front, back, rfl, absent⟩ := List.eq_append_cons_of_mem colon
    rw [ofHeaderLine, Text.splitFirst?_eq_some_iff.2 ⟨rfl, absent⟩,
      Header.split_append_cons absent]
    simp only [Bool.or_eq_true, List.isEmpty_iff, List.any_eq_true]
    split
    · next refused =>
        simp only [reduceCtorEq, false_iff]
        rintro ⟨_, named, visible, _⟩
        rcases refused with nameless | ⟨c, inside, blank⟩
        · exact named nameless
        · rw [visible c inside] at blank
          cases blank
    · next taken =>
        obtain ⟨named, visible⟩ := not_or.1 taken
        constructor
        · rintro ⟨⟩
          refine ⟨colon, named, fun c inside => ?_, rfl⟩
          exact Bool.eq_false_iff.2 fun blank => visible ⟨c, inside, blank⟩
        · rintro ⟨_, _, _, rfl⟩
          rfl
  · rw [ofHeaderLine, Text.splitFirst?_eq_none_iff.2 colon]
    simp [colon]

/-! ## Lines that are found -/

/-- A check of a header passes a page with a line of that name and a value that is accepted. -/
theorem Check.holds_header_iff
    {name : Text}
    {value : Option Matcher}
    {page : Page} :
    (Check.header name value).holds page = true ↔
      ∃ line ∈ page.headers, Header.sameName (Header.split line).1 name = true ∧
        ∀ matcher ∈ value, matcher.accepts (Header.split line).2 = true := by
  simp only [holds, List.any_eq_true, Bool.and_eq_true, Option.all_eq_true,
    Option.mem_def]

/-- A literal matcher for whole subjects accepts the text that it was built from. -/
theorem Matcher.accepts_self
    {expected : Text}
    {ignoresCase : Bool} :
    accepts ⟨expected, .exact, ignoresCase, none⟩ expected = true := by
  cases ignoresCase <;> exact covers_exact_iff.2 rfl

namespace Assertion

variable {location : Location} {modifiers : Modifiers} {argument line : Text}

/-- An assertion whose argument has a name is built, if it takes no pattern. -/
theorem exists_header_of_named
    (literal : modifiers.regexp = false)
    (named : (Header.split argument).1 ≠ []) :
    ∃ assertion, header location argument modifiers = .ok assertion := by
  by_cases valueless : (Header.split argument).2 = []
  · exact ⟨_, header_of_name (Prod.ext rfl valueless) named⟩
  · rw [header_of_value rfl named valueless, Matcher.build_literal literal]
    exact ⟨_, rfl⟩

/-- An assertion that takes no pattern asks for the name of its argument, and it accepts the value
of its argument. -/
theorem exists_check_of_header
    {assertion : Assertion}
    (literal : modifiers.regexp = false)
    (built : header location argument modifiers = .ok assertion) :
    ∃ value, assertion = ⟨location, modifiers, .header (Header.split argument).1 value⟩ ∧
      ∀ matcher ∈ value, matcher.accepts (Header.split argument).2 = true := by
  have named : (Header.split argument).1 ≠ [] := by
    intro nameless
    rw [header_of_noName nameless] at built
    cases built
  by_cases valueless : (Header.split argument).2 = []
  · rw [header_of_name (Prod.ext rfl valueless) named] at built
    cases built
    exact ⟨none, rfl, by simp⟩
  · rw [header_of_value rfl named valueless, Matcher.build_literal literal] at built
    cases built
    refine ⟨_, rfl, ?_⟩
    rintro _ ⟨⟩
    exact Matcher.accepts_self

/-- An assertion that is not negated and takes no pattern holds where there is a line that says
the same as its argument. -/
theorem holds_of_split_eq
    {assertion : Assertion}
    {page : Page}
    (positive : modifiers.negated = false)
    (literal : modifiers.regexp = false)
    (built : header location argument modifiers = .ok assertion)
    (inside : line ∈ page.headers)
    (same : Header.split line = Header.split argument) :
    assertion.holds page = true := by
  obtain ⟨value, rfl, accepts⟩ := exists_check_of_header literal built
  have sameName : Header.sameName (Header.split line).1 (Header.split argument).1 = true := by
    rw [same, Header.sameName, Text.sameLetters, beq_self_eq_true]
  have found : (Check.header (Header.split argument).1 value).holds page = true := by
    refine Check.holds_header_iff.2 ⟨line, inside, sameName, ?_⟩
    rw [same]
    exact accepts
  rw [holds, found, positive]
  rfl

/-- An assertion of a header that is not negated and takes no pattern holds on every page with
its own argument among the header lines.  It can be built of every line that a header of a
request is taken from, and then it holds on every page with the line of this header. -/
theorem header_finds
    (location : Location)
    (plain : modifiers = .none ∨ modifiers = .only .caseInsensitive) :
    (∀ (argument : Text) (assertion : Assertion),
      header location argument modifiers = .ok assertion →
      ∀ page : Page, argument ∈ page.headers → (assertion.test page).isSuccess = true) ∧
    ∀ (line : Text) (modifier : RequestModifier),
      RequestModifier.ofHeaderLine line = .ok modifier →
      ∃ name value assertion, modifier = .header name value ∧
        header location line modifiers = .ok assertion ∧
        ∀ page : Page, name ++ ": " ++ value ∈ page.headers →
          (assertion.test page).isSuccess = true := by
  have simple : modifiers.negated = false ∧ modifiers.regexp = false := by
    rcases plain with rfl | rfl <;> exact ⟨rfl, rfl⟩
  obtain ⟨positive, literal⟩ := simple
  constructor
  · intro argument assertion built page inside
    rw [isSuccess_test]
    exact holds_of_split_eq positive literal built inside rfl
  · intro line modifier taken
    obtain ⟨-, named, -, rfl⟩ := RequestModifier.ofHeaderLine_eq_ok_iff.1 taken
    obtain ⟨assertion, built⟩ := @exists_header_of_named location modifiers line literal named
    refine ⟨_, _, assertion, rfl, built, ?_⟩
    intro page inside
    obtain ⟨nameTrimmed, absent, valueTrimmed⟩ := Header.split_spec line
    have same := Header.split_write nameTrimmed absent valueTrimmed
    rw [isSuccess_test]
    exact holds_of_split_eq positive literal built inside same

/-- A line with blanks of several kinds around its parts and colons in its value.  The assertion
that is written as this line finds it, also in the form in which it is sent. -/
theorem header_finds_colons_and_blanks :
    let line : Text := "\u00a0X\u00e9\t:a: \u03a3:\u2003"
    let modifiers : Modifiers := .only .caseInsensitive
    let echoed : Page := ⟨200, ["Server: t", "X\u00e9: a: \u03a3:"], []⟩
    let verbatim : Page := ⟨200, [line], []⟩
    RequestModifier.ofHeaderLine line = .ok (.header "X\u00e9" "a: \u03a3:") ∧
    ∃ assertion, header ⟨"t", 1⟩ line modifiers = .ok assertion ∧
      (assertion.test echoed).isSuccess = true ∧ (assertion.test verbatim).isSuccess = true := by
  intro line modifiers echoed verbatim
  have taken : RequestModifier.ofHeaderLine line = .ok (.header "X\u00e9" "a: \u03a3:") := rfl
  obtain ⟨findsLine, findsEcho⟩ := @header_finds modifiers ⟨"t", 1⟩ (.inr rfl)
  obtain ⟨_, _, assertion, ⟨⟩, built, passes⟩ := findsEcho line _ taken
  exact ⟨taken, assertion, built, passes echoed (List.mem_cons_of_mem _ List.mem_cons_self),
    findsLine line assertion built verbatim List.mem_cons_self⟩

end Assertion
end PageCheck
