import PageCheck.Text.Lowercase

/-!
# What lowercasing keeps

The lowercase form of a text is put together from the forms of its characters, and only
the form of a capital sigma depends on what is around it.  The case of ASCII letters has no
part in these forms.  A part of a text has the same form on its own, provided that each of its
capital sigmas has.
-/

namespace PageCheck

/-! ## The case of ASCII letters -/

theorem isAlpha_iff_toNat
    {c : Char} :
    c.isAlpha = true ↔ 0x41 ≤ c.toNat ∧ c.toNat ≤ 0x5A ∨ 0x61 ≤ c.toNat ∧ c.toNat ≤ 0x7A := by
  have shape : c.isAlpha =
      (decide (0x41 ≤ c.val ∧ c.val ≤ 0x5A) ||
        (decide (0x61 ≤ c.val) && decide (c.val ≤ 0x7A))) := rfl
  rw [shape, Bool.or_eq_true, Bool.and_eq_true, decide_eq_true_eq, decide_eq_true_eq,
    decide_eq_true_eq]
  exact Iff.rfl

namespace Text

/-- A character is its own lowercase form within ASCII, or else a capital letter. -/
theorem toLower_eq_self_or (c : Char) :
    c.toLower = c ∨
      (0x41 ≤ c.toNat ∧ c.toNat ≤ 0x5A) ∧ c.toLower.toNat = c.toNat + 0x20 := by
  by_cases capital : c.val ≥ 'A'.val ∧ c.val ≤ 'Z'.val
  · have low : 0x41 ≤ c.val.toNat := capital.1
    have high : c.val.toNat ≤ 0x5A := capital.2
    have lowered : c.toLower.val = c.val + 0x20 := congrArg Char.val (dif_pos capital)
    have sum : (c.val + 0x20).toNat = c.val.toNat + 0x20 := by
      rw [UInt32.toNat_add]
      exact Nat.mod_eq_of_lt (by simp only [UInt32.reduceToNat]; omega)
    exact .inr ⟨⟨low, high⟩, (congrArg UInt32.toNat lowered).trans sum⟩
  · exact .inl (dif_neg capital)

theorem toLower_toLower (c : Char) : c.toLower.toLower = c.toLower := by
  rcases toLower_eq_self_or c with same | ⟨capital, lowered⟩
  · rw [same, same]
  · rcases toLower_eq_self_or c.toLower with fixed | ⟨again, _⟩
    · exact fixed
    · omega

theorem isAlpha_toLower (c : Char) : c.toLower.isAlpha = c.isAlpha := by
  rcases toLower_eq_self_or c with same | ⟨capital, lowered⟩
  · rw [same]
  · rw [Bool.eq_iff_iff, isAlpha_iff_toNat, isAlpha_iff_toNat]
    omega

theorem isCaseIgnorable_of_isAlpha
    {c : Char}
    (letter : c.isAlpha = true) :
    isCaseIgnorable c = false := by
  rw [isAlpha_iff_toNat] at letter
  have ascii : c.toNat < 0x80 := by omega
  simp only [isCaseIgnorable, if_pos ascii, Bool.or_eq_false_iff, beq_eq_false_iff_ne, ne_eq,
    ← Char.toNat_inj, Char.reduceToNat]
  omega

theorem isCaseIgnorable_toLower (c : Char) :
    isCaseIgnorable c.toLower = isCaseIgnorable c := by
  rcases toLower_eq_self_or c with same | ⟨capital, lowered⟩
  · rw [same]
  · have letter : c.isAlpha = true := isAlpha_iff_toNat.2 (.inl capital)
    rw [isCaseIgnorable_of_isAlpha letter,
      isCaseIgnorable_of_isAlpha ((isAlpha_toLower c).trans letter)]

theorem isCased_toLower (c : Char) : isCased c.toLower = isCased c := by
  rcases toLower_eq_self_or c with same | ⟨capital, lowered⟩
  · rw [same]
  · have before : c.toNat < 0x80 := by omega
    have after : c.toLower.toNat < 0x80 := by omega
    rw [isCased, isCased, if_pos before, if_pos after, isAlpha_toLower]

theorem lowerChar_toLower (c : Char) : lowerChar c.toLower = lowerChar c := by
  rcases toLower_eq_self_or c with same | ⟨capital, lowered⟩
  · rw [same]
  · have before : c.toNat < 0x80 := by omega
    have after : c.toLower.toNat < 0x80 := by omega
    rw [lowerChar, lowerChar, if_pos before, if_pos after, toLower_toLower]

/-- Only letters are the lowercase form of anything else within ASCII. -/
theorem toLower_eq_iff_of_not_isAlpha
    {c d : Char}
    (other : d.isAlpha = false) :
    c.toLower = d ↔ c = d := by
  rcases toLower_eq_self_or c with same | ⟨capital, lowered⟩
  · rw [same]
  · have letter : c.isAlpha = true := isAlpha_iff_toNat.2 (.inl capital)
    constructor
    · rintro rfl
      rw [isAlpha_toLower, letter] at other
      cases other
    · rintro rfl
      rw [letter] at other
      cases other

theorem toLower_eq_sigma_iff (c : Char) : c.toLower = 'Σ' ↔ c = 'Σ' :=
  toLower_eq_iff_of_not_isAlpha (by decide)

/-- The first character that is not ignorable stays cased, or stays not cased. -/
theorem meetsCased_map_toLower (text : Text) :
    meetsCased (text.map Char.toLower) = meetsCased text := by
  induction text with
  | nil => rfl
  | cons c rest hypothesis =>
      cases ignorable : isCaseIgnorable c with
      | true =>
          simpa [meetsCased, isCaseIgnorable_toLower, ignorable] using hypothesis
      | false => simp [meetsCased, isCaseIgnorable_toLower, ignorable, isCased_toLower]

theorem lowerSigma_map_toLower (before after : Text) :
    lowerSigma (before.map Char.toLower) (after.map Char.toLower) =
      lowerSigma before after := by
  rw [lowerSigma, lowerSigma, meetsCased_map_toLower, meetsCased_map_toLower]

theorem lowercaseAfter_map_toLower (before text : Text) :
    lowercaseAfter (before.map Char.toLower) (text.map Char.toLower) =
      lowercaseAfter before text := by
  induction text generalizing before with
  | nil => rfl
  | cons c rest hypothesis =>
      rw [List.map_cons, lowercaseAfter, lowercaseAfter, lowerSigma_map_toLower,
        lowerChar_toLower, ← List.map_cons, hypothesis]
      simp only [toLower_eq_sigma_iff]

/-- Texts that differ in the case of ASCII letters only have the same lowercase form. -/
theorem lowercase_eq_of_sameLetters
    {left right : Text}
    (same : sameLetters left right = true) :
    lowercase left = lowercase right := by
  have equal : left.map Char.toLower = right.map Char.toLower := by
    simpa [sameLetters] using same
  calc lowercase left
      = lowercaseAfter [] (left.map Char.toLower) := (lowercaseAfter_map_toLower [] left).symm
    _ = lowercaseAfter [] (right.map Char.toLower) := by rw [equal]
    _ = lowercase right := lowercaseAfter_map_toLower [] right

/-! ## Parts of a text -/

/-- The lowercase form of a text between two others, the one before it being given
backwards. -/
def lowercaseBetween (before : Text) : Text → Text → Text
  | [], _ => []
  | c :: rest, after =>
      (if c = 'Σ' then [lowerSigma before (rest ++ after)] else lowerChar c) ++
        lowercaseBetween (c :: before) rest after

/-- The form of a text is the form of its first part followed by the form of the rest. -/
theorem lowercaseAfter_append (before part after : Text) :
    lowercaseAfter before (part ++ after) =
      lowercaseBetween before part after ++ lowercaseAfter (part.reverse ++ before) after := by
  induction part generalizing before with
  | nil => rfl
  | cons c rest hypothesis =>
      simp only [List.cons_append, lowercaseAfter, lowercaseBetween, hypothesis,
        List.append_assoc, List.reverse_cons, List.nil_append]

/-- Every capital sigma of a text has the same form between two other texts as on its own. -/
def KeepsSigmas (before text after : Text) : Prop :=
  ∀ front back, text = front ++ 'Σ' :: back →
    lowerSigma (front.reverse ++ before.reverse) (back ++ after) = lowerSigma front.reverse back

/-- A text without capital sigmas keeps them all. -/
theorem keepsSigmas_of_notMem
    {text : Text}
    (absent : 'Σ' ∉ text)
    (before after : Text) :
    KeepsSigmas before text after := by
  rintro front back rfl
  simp at absent

/-- A text between two others keeps its own form if its capital sigmas do. -/
theorem KeepsSigmas.lowercaseBetween_eq
    {before text after : Text}
    (keeps : KeepsSigmas before text after) :
    lowercaseBetween before.reverse text after = lowercase text := by
  -- The sigmas of a suffix are those of the whole text, with what precedes the suffix in front.
  suffices suffixes : ∀ front back, text = front ++ back →
      lowercaseBetween (front.reverse ++ before.reverse) back after =
        lowercaseAfter front.reverse back from suffixes [] text rfl
  intro front back shape
  induction back generalizing front with
  | nil => rfl
  | cons c rest hypothesis =>
      have further := hypothesis (front ++ [c]) (by simp [shape])
      simp only [List.reverse_concat, List.cons_append] at further
      rw [lowercaseBetween, lowercaseAfter, further]
      by_cases sigma : c = 'Σ'
      · subst sigma
        rw [if_pos rfl, if_pos rfl, keeps front rest shape]
      · rw [if_neg sigma, if_neg sigma]

/-- A part that keeps its sigmas is found again among the lowercase forms. -/
theorem KeepsSigmas.lowercase_infix
    {before text after : Text}
    (keeps : KeepsSigmas before text after) :
    lowercase text <:+: lowercase (before ++ text ++ after) := by
  have whole : lowercase (before ++ text ++ after) =
      lowercaseBetween [] before (text ++ after) ++
        (lowercase text ++ lowercaseAfter (text.reverse ++ before.reverse) after) := by
    rw [List.append_assoc, lowercase, lowercaseAfter_append, lowercaseAfter_append,
      List.append_nil, keeps.lowercaseBetween_eq]
  exact ⟨_, _, by rw [whole, List.append_assoc]⟩

end Text
end PageCheck
