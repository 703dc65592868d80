import PageCheck.Assertion
import PageCheck.Proofs.Text.Lowercase

/-!
# Literal texts and letter case

A matcher that ignores case compares lowercase forms of whole texts.  It takes no notice of
the case of ASCII letters, on either side.  It accepts what the matcher with case accepts, but
for parts of a subject in which a capital sigma takes another form than in the expected text.
-/

namespace PageCheck

namespace Matcher

/-- A literal matcher is always built. -/
theorem build_literal
    {modifiers : Modifiers}
    (literal : modifiers.regexp = false)
    (expected : Text)
    (mode : MatchMode) :
    build expected mode modifiers = .ok ⟨expected, mode, modifiers.caseInsensitive, none⟩ := by
  simp [build, literal]

@[simp] theorem covers_substring_iff
    {expected subject : Text} :
    covers .substring expected subject = true ↔ expected <:+: subject :=
  Text.occursIn_iff

@[simp] theorem covers_exact_iff
    {expected subject : Text} :
    covers .exact expected subject = true ↔ subject = expected :=
  beq_iff_eq

/-! ## The case of ASCII letters -/

/-- A literal matcher that ignores case gives the same answer for texts and subjects that
differ in the case of ASCII letters only. -/
theorem accepts_sameLetters
    {modifiers : Modifiers}
    (ignores : modifiers.caseInsensitive = true)
    (literal : modifiers.regexp = false)
    (mode : MatchMode)
    {expected expected' subject subject' : Text}
    (sameExpected : Text.sameLetters expected expected' = true)
    (sameSubject : Text.sameLetters subject subject' = true) :
    ∃ matcher matcher',
      build expected mode modifiers = .ok matcher ∧
        build expected' mode modifiers = .ok matcher' ∧
        matcher.accepts subject = matcher'.accepts subject' := by
  refine ⟨_, _, build_literal literal expected mode, build_literal literal expected' mode, ?_⟩
  simp only [accepts, ignores, if_true, Text.lowercase_eq_of_sameLetters sameExpected,
    Text.lowercase_eq_of_sameLetters sameSubject]

/-- A text with letters beyond ASCII and a final sigma, written in two ways. -/
theorem accepts_sameLetters_final_sigma :
    Text.sameLetters "aΣ" "AΣ" = true ∧ Text.sameLetters "É aΣ.B" "É AΣ.b" = true ∧
      ∃ matcher matcher',
        build "aΣ" .substring ⟨false, true, false⟩ = .ok matcher ∧
          build "AΣ" .substring ⟨false, true, false⟩ = .ok matcher' ∧
          matcher.accepts "É aΣ.B" = matcher'.accepts "É AΣ.b" :=
  ⟨by decide, by decide, accepts_sameLetters rfl rfl .substring (by decide) (by decide)⟩

/-! ## Texts that are found without regard to case -/

/-- A part of a subject is found without regard to case if it is equal to the expected text and
its capital sigmas are lowered as they are in the expected text. -/
theorem covers_lowercase
    {mode : MatchMode}
    {expected subject : Text}
    (covered : covers mode expected subject = true)
    (keeps : mode = .substring →
      ∃ before after, subject = before ++ expected ++ after ∧
        Text.KeepsSigmas before expected after) :
    covers mode (Text.lowercase expected) (Text.lowercase subject) = true := by
  cases mode with
  | substring =>
      obtain ⟨before, after, rfl, keepsHere⟩ := keeps rfl
      exact covers_substring_iff.2 keepsHere.lowercase_infix
  | exact =>
      rw [covers_exact_iff] at covered ⊢
      rw [covered]

/-- Ignoring case only widens what is accepted, for a text without capital sigmas. -/
theorem accepts_of_notMem_sigma
    {expected subject : Text}
    {mode : MatchMode}
    (absent : 'Σ' ∉ expected)
    (accepted : accepts ⟨expected, mode, false, none⟩ subject = true) :
    accepts ⟨expected, mode, true, none⟩ subject = true := by
  refine covers_lowercase accepted ?_
  rintro rfl
  obtain ⟨before, after, shape⟩ := covers_substring_iff.1 accepted
  exact ⟨before, after, shape.symm, Text.keepsSigmas_of_notMem absent before after⟩

/-- What a literal matcher accepts, it accepts without regard to case as well: always for
whole subjects, and for parts where the expected text occurs and keeps its capital sigmas. -/
theorem accepts_ignoringCase
    (expected subject : Text)
    (mode : MatchMode) :
    ∃ plain relaxed,
      build expected mode .none = .ok plain ∧
        build expected mode (.only .caseInsensitive) = .ok relaxed ∧
        (plain.accepts subject = true →
          (mode = .substring →
            ∃ before after, subject = before ++ expected ++ after ∧
              Text.KeepsSigmas before expected after) →
          relaxed.accepts subject = true) := by
  refine ⟨_, _, build_literal rfl expected mode, build_literal rfl expected mode, ?_⟩
  intro accepted keeps
  exact covers_lowercase accepted keeps

/-- A whole word keeps the final form of its sigma. -/
theorem accepts_ignoringCase_whole_word :
    Text.KeepsSigmas "to " "AΣ" "." ∧
      ∃ plain relaxed,
        build "AΣ" .substring .none = .ok plain ∧
          build "AΣ" .substring (.only .caseInsensitive) = .ok relaxed ∧
          plain.accepts "to AΣ." = true ∧ relaxed.accepts "to AΣ." = true := by
  have keeps : Text.KeepsSigmas "to " "AΣ" "." := by
    rintro front back shape
    obtain ⟨rfl, rfl⟩ : front = ['A'] ∧ back = [] := by
      rcases front with _ | ⟨c, _ | ⟨d, front⟩⟩
      · cases shape
      · cases shape
        exact ⟨rfl, rfl⟩
      · cases front <;> cases shape
    decide
  obtain ⟨plain, relaxed, built, builtToo, accepts⟩ :=
    accepts_ignoringCase "AΣ" "to AΣ." .substring
  have accepted : plain.accepts "to AΣ." = true := by
    cases (build_literal rfl _ _).symm.trans built
    decide
  exact ⟨keeps, plain, relaxed, built, builtToo, accepted,
    accepts accepted fun _ => ⟨"to ", ".", rfl, keeps⟩⟩

/-- A capital sigma at the end of a word is a part of the word with regard to case only. -/
theorem not_accepts_ignoringCase_final_sigma :
    ∃ plain relaxed,
      build "Σ" .substring .none = .ok plain ∧
        build "Σ" .substring (.only .caseInsensitive) = .ok relaxed ∧
        plain.accepts "aΣ" = true ∧ relaxed.accepts "aΣ" = false :=
  ⟨_, _, build_literal rfl _ _, build_literal rfl _ _, by decide, by decide⟩

end Matcher
end PageCheck
