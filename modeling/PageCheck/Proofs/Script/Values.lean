import PageCheck.Proofs.Script.Scans
import PageCheck.Proofs.Script.Tokens

/-!
# Values of quoted texts

A text without references is its own value between double quotes, whatever the
variables are.
-/

namespace PageCheck

open Results

namespace Value

/-! ## References -/

/-- Whether a text refers to a variable: somewhere a name stands in braces. -/
def HasReference (text : Text) : Prop :=
  ∃ before name after, Variables.isName name = true ∧
    text = before ++ '\x7b' :: (name ++ '\x7d' :: after)

/-- A reference in the rest of a text is one in the text. -/
theorem HasReference.cons
    {text : Text}
    (refers : HasReference text)
    (c : Char) :
    HasReference (c :: text) := by
  obtain ⟨before, name, after, named, rfl⟩ := refers
  exact ⟨c :: before, name, after, named, rfl⟩

/-- Every reference has an opening brace. -/
theorem not_hasReference_of_notMem
    {text : Text}
    (absent : '\x7b' ∉ text) :
    ¬ HasReference text := by
  rintro ⟨before, name, after, _, rfl⟩
  exact absent (by simp)

/-- A character that is no part of a reference keeps the references of the texts on its
two sides apart. -/
theorem not_hasReference_append_cons
    {front back : Text}
    {c : Char}
    (inFront : ¬ HasReference front)
    (inBack : ¬ HasReference back)
    (noBrace : c ≠ '\x7b' ∧ c ≠ '\x7d')
    (noName : Variables.isNameChar c = false) :
    ¬ HasReference (front ++ c :: back) := by
  rintro ⟨before, name, after, named, shape⟩
  have outside : c ∉ '\x7b' :: (name ++ ['\x7d']) := by
    intro inside
    rcases List.mem_cons.1 inside with opened | later
    · exact noBrace.1 opened
    · rcases List.mem_append.1 later with inName | closed
      · rw [isNameChar_of_mem named inName] at noName
        cases noName
      · exact noBrace.2 (List.mem_singleton.1 closed)
  have reference : '\x7b' :: (name ++ '\x7d' :: after) =
      '\x7b' :: (name ++ ['\x7d']) ++ after := by simp
  rw [reference] at shape
  rcases List.append_eq_append_iff.1 shape with
    ⟨between, startShape, endShape⟩ | ⟨between, startShape, endShape⟩
  · -- The reference starts at the character or behind it.
    cases between with
    | nil =>
        injection endShape with same _
        exact noBrace.1 same
    | cons d more =>
        injection endShape with _ behind
        exact inBack ⟨more, name, after, named, by rw [behind, reference]; rfl⟩
  · -- The reference starts in front of the character.
    rcases List.append_eq_append_iff.1 endShape with
      ⟨rest, closed, _⟩ | ⟨rest, cut, tailShape⟩
    · apply inFront
      exact ⟨before, name, rest, named, by rw [startShape, closed]; simp⟩
    · cases rest with
      | nil =>
          apply inFront
          rw [List.append_nil] at cut
          exact ⟨before, name, [], named, by rw [startShape, ← cut]⟩
      | cons d more =>
          injection tailShape with same _
          exact outside (by rw [cut, same]; simp)

/-- A text without references is copied as a whole. -/
theorem scans_of_not_hasReference
    {text : Text}
    (literal : ¬ HasReference text) :
    Scans text (text.map .copied) := by
  induction text with
  | nil => exact .done
  | cons c rest hypothesis =>
      refine .copied ?_ (hypothesis fun refers => literal (refers.cons c))
      rintro ⟨name, after, named, shape⟩
      exact literal ⟨[], name, after, named, by rw [shape, reference_append]; rfl⟩

/-- Nothing is put in the place of references where there are none. -/
theorem substitute_eq_self
    {text : Text}
    (literal : ¬ HasReference text)
    (scope : Variables) :
    substitute scope text = .ok text := by
  have scans := scans_of_not_hasReference literal
  have defined : (text.map .copied).map (Part.value? scope) =
      (text.map fun c => [c]).map some := by
    rw [List.map_map, List.map_map]
    rfl
  have joined : (text.map fun c => [c]).flatten = text := by
    rw [← List.flatMap_def, List.flatMap_singleton']
  have fills : Fills scope (text.map .copied) (.ok (text.map fun c => [c]).flatten) :=
    .filled defined
  rwa [joined, ← scans.substitute_eq_iff] at fills

/-- A text without references is its own value between double quotes. -/
theorem resolve_write
    {text : Text}
    (literal : ¬ HasReference text)
    (scope : Variables) :
    resolve scope (Quoted.write text) = .ok text := by
  have trimmed := (Token.standsAlone_ofText text).trimmed.trim_eq
  rw [Token.ofText] at trimmed
  rw [resolve, trimmed, Quoted.unquote_write]
  exact substitute_eq_self literal scope

end Value
end PageCheck
