import PageCheck.Proofs.Pattern.Anchoring
import PageCheck.Proofs.Script.Names

/-!
# References in texts

A text falls into parts in exactly one way, from left to right: a name in braces is a
reference, and every other character stands for itself.  Putting values in the place of
references joins what the parts stand for, and so no value is ever scanned.
-/

namespace PageCheck

open Results

namespace Value

/-! ## References at the front -/

/-- References are found where one stands. -/
theorem isSome_occurrence?_iff
    {text : Text} :
    (referenceExpr.occurrence? text 0).isSome = true ↔ StartsReference text := by
  constructor
  · intro found
    by_contra literal
    have nothing : referenceExpr.occurrence? text 0 = none := occurrence?_eq_none literal []
    rw [nothing] at found
    cases found
  · rintro ⟨name, after, named, rfl⟩
    have found : referenceExpr.occurrence? (reference name ++ after) 0 = some (foundAt 0 name) :=
      occurrence?_reference named [] after
    rw [found]
    rfl

/-- A text has a reference at its front or in its rest. -/
theorem hasReference_cons_iff
    {c : Char}
    {rest : Text} :
    HasReference (c :: rest) ↔ StartsReference (c :: rest) ∨ HasReference rest := by
  constructor
  · rintro ⟨before, name, after, named, shape⟩
    cases before with
    | nil => exact .inl ⟨name, after, named, by rw [shape, reference_append]; rfl⟩
    | cons d more =>
        injection shape with _ behind
        exact .inr ⟨more, name, after, named, behind⟩
  · rintro (⟨name, after, named, shape⟩ | later)
    · exact ⟨[], name, after, named, by rw [shape, reference_append]; rfl⟩
    · exact later.cons c

theorem not_hasReference_nil : ¬ HasReference [] := by
  rintro ⟨before, name, after, _, shape⟩
  simp at shape

instance decidableStartsReference : DecidablePred StartsReference :=
  fun _ => decidable_of_iff _ isSome_occurrence?_iff

instance decidableHasReference : DecidablePred HasReference
  | [] => .isFalse not_hasReference_nil
  | _ :: rest =>
      have : Decidable (HasReference rest) := decidableHasReference rest
      decidable_of_iff _ hasReference_cons_iff.symm

/-! ## Scanning -/

/-- Every text can be scanned. -/
theorem exists_scans (text : Text) : ∃ parts, Scans text parts := by
  induction length : text.length using Nat.strong_induction_on generalizing text with
  | _ size hypothesis =>
      subst length
      cases text with
      | nil => exact ⟨[], .done⟩
      | cons c rest =>
          by_cases starts : StartsReference (c :: rest)
          · obtain ⟨name, after, named, shape⟩ := starts
            have shorter : after.length < (c :: rest).length := by
              rw [shape, reference_append]
              simp only [List.length_cons, List.length_append]
              omega
            obtain ⟨parts, scans⟩ := hypothesis _ shorter after rfl
            rw [shape]
            exact ⟨_, .reference named scans⟩
          · obtain ⟨parts, scans⟩ := hypothesis _ (by simp) rest rfl
            exact ⟨_, .copied starts scans⟩

namespace Scans

variable {text : Text} {parts : List Part}

/-- A text can be scanned in one way only. -/
theorem unique
    {others : List Part}
    (scans : Scans text parts)
    (scansToo : Scans text others) :
    parts = others := by
  induction scans generalizing others with
  | done =>
      generalize shape : ([] : Text) = text at scansToo
      cases scansToo with
      | done => rfl
      | reference => rw [reference_append] at shape; cases shape
      | copied => cases shape
  | @reference name after parts named _ hypothesis =>
      generalize shape : Value.reference name ++ after = text at scansToo
      cases scansToo with
      | done => rw [reference_append] at shape; cases shape
      | reference otherNamed rest =>
          obtain ⟨rfl, rfl⟩ := reference_append_inj named otherNamed shape
          rw [hypothesis rest]
      | copied literal => exact absurd ⟨name, after, named, shape.symm⟩ literal
  | @copied c after parts literal _ hypothesis =>
      generalize shape : c :: after = text at scansToo literal
      cases scansToo with
      | done => cases shape
      | reference named => exact absurd ⟨_, _, named, rfl⟩ literal
      | copied _ rest =>
          cases shape
          rw [hypothesis rest]

/-- References are found in the texts that have some. -/
theorem exists_reference_iff
    (scans : Scans text parts) :
    (∃ name, Part.reference name ∈ parts) ↔ HasReference text := by
  induction scans with
  | done => simp [not_hasReference_nil]
  | @reference name after _ named =>
      have refers : HasReference (Value.reference name ++ after) :=
        ⟨[], name, after, named, by rw [reference_append]; rfl⟩
      simp [refers]
  | copied literal _ hypothesis =>
      simp [hasReference_cons_iff, literal, ← hypothesis]

end Scans

/-! ## Occurrences of references -/

/-- What is found in a text refers to a name: the word is a reference, and the group is the
name. -/
structure RefersTo (text : Text) (found : Pattern.Occurrence) (name : Text) : Prop where
  named : Variables.isName name = true
  word : text.extract found.start found.stop = reference name
  group : ∃ start stop, found.group = some (start, stop) ∧ text.extract start stop = name

theorem refersTo_foundAt
    {name : Text}
    (named : Variables.isName name = true)
    (front after : Text) :
    RefersTo (front ++ (reference name ++ after)) (foundAt front.length name) name where
  named := named
  word := by
    rw [foundAt, List.extract_eq_take_drop, List.drop_left, Nat.add_sub_cancel_left,
      List.take_left]
  group := ⟨_, _, rfl, extract_name name after⟩

/-- All occurrences among the parts of a text refer to names. -/
theorem Scans.exists_refersTo
    {text front : Text}
    {parts : List Part}
    {found : Pattern.Occurrence}
    (scans : Scans text parts)
    (member : found ∈ Part.occurrences front.length parts) :
    ∃ name, RefersTo (front ++ text) found name := by
  induction scans generalizing front with
  | done => cases member
  | @reference name after parts named _ hypothesis =>
      rcases List.mem_cons.1 member with rfl | later
      · exact ⟨name, refersTo_foundAt named front after⟩
      · rw [← List.length_append] at later
        rw [← List.append_assoc]
        exact hypothesis later
  | @copied c after parts _ _ hypothesis =>
      have behind : front.length + 1 = (front ++ [c]).length := by simp
      rw [Part.occurrences, behind] at member
      rw [List.append_cons]
      exact hypothesis member

/-- Whatever the pattern for references finds refers to a name. -/
theorem exists_refersTo
    {text : Text}
    {found : Pattern.Occurrence}
    (member : found ∈ referenceExpr.occurrences text) :
    ∃ name, RefersTo text found name := by
  obtain ⟨parts, scans⟩ := exists_scans text
  have inside : found ∈ Part.occurrences ([] : Text).length parts := by
    rwa [List.length_nil, ← scans.occurrences_eq]
  exact scans.exists_refersTo inside

/-! ## The pattern for references -/

open Unicode (CodePoints)

/-- The tree that the pattern for references is read into. -/
def referenceTree : Pattern.Node :=
  .sequence [
    .literal ⟨'\x7b', false⟩,
    .group true [] (.sequence [
      .oneOf (.bracketed false (.union [.range ⟨'A', false⟩ ⟨'Z', false⟩,
        .range ⟨'a', false⟩ ⟨'z', false⟩, .literal ⟨'_', false⟩])),
      .repeated (.oneOf (.bracketed false (.union [.range ⟨'A', false⟩ ⟨'Z', false⟩,
        .range ⟨'a', false⟩ ⟨'z', false⟩, .range ⟨'0', false⟩ ⟨'9', false⟩,
        .literal ⟨'_', false⟩]))) 0 none]),
    .literal ⟨'\x7d', false⟩]

theorem read?_referencePattern :
    Pattern.read? referencePattern = some ⟨referenceTree, false⟩ := by
  with_unfolding_all rfl

theorem compileTree?_referenceTree :
    Pattern.compileTree? false 0 referenceTree = some referenceExpr := by
  have starts : CodePoints.ofRanges [(0x41, 0x5A), (0x61, 0x7A), (0x5F, 0x5F)] = nameStarts :=
    CodePoints.ofRanges_eq nameStarts.ranges (by decide) (by decide) (by decide) (by decide)
  have chars : CodePoints.ofRanges
      [(0x41, 0x5A), (0x61, 0x7A), (0x30, 0x39), (0x5F, 0x5F)] = nameChars :=
    CodePoints.ofRanges_eq nameChars.ranges (by decide) (by decide) (by decide) (by decide)
  rw [referenceExpr, nameExpr, ← starts, ← chars]
  rfl

/-- The expression for references is that of their pattern. -/
theorem compile?_referencePattern :
    Pattern.compile? false referencePattern = some referenceExpr := by
  have affordable : referenceExpr.isAffordable = true := by decide
  exact Pattern.compile?_eq_some_iff.2
    ⟨_, read?_referencePattern, compileTree?_referenceTree, affordable⟩

/-! ## What substitution does -/

/-- Substitution fails exactly where a variable that is referred to has no value. -/
theorem Scans.exists_error_iff
    {scope : Variables}
    {text : Text}
    {parts : List Part}
    (scans : Scans text parts) :
    (∃ error, substitute scope text = .error error) ↔
      ∃ name, Part.reference name ∈ parts ∧ scope.get? name = none := by
  have fills : Fills scope parts (substitute scope text) := scans.fills
  constructor
  · rintro ⟨error, failed⟩
    rw [failed] at fills
    cases fills with
    | missing _ undefined => exact ⟨_, List.mem_append_cons_self, undefined⟩
  · rintro ⟨name, member, undefined⟩
    cases result : substitute scope text with
    | error error => exact ⟨error, rfl⟩
    | ok value =>
        rw [result] at fills
        cases fills with
        | filled all => exact absurd all (Fills.map_value?_ne member undefined)

/-- Texts are scanned in one way, and what comes of a text is what comes of its parts.  A
text without references is kept, as braces around anything but a name are no reference.
The occurrences that substitution goes through are the words of the pattern furthest to the
left that do not overlap, and these are references; and the names that can be referred to
are those of the pattern and those that are given a value by lines and by arguments. -/
theorem substitute_splices :
    (∀ text, ∃! parts, Scans text parts) ∧
    (∀ text parts, Scans text parts →
      parts.flatMap Part.written = text ∧
      ((∃ name, Part.reference name ∈ parts) ↔ HasReference text) ∧
      (∀ scope outcome, substitute scope text = outcome ↔ Fills scope parts outcome) ∧
      ∀ scope, (∃ error, substitute scope text = .error error) ↔
        ∃ name, Part.reference name ∈ parts ∧ scope.get? name = none) ∧
    (∀ scope text, ¬ HasReference text → substitute scope text = .ok text) ∧
    (∀ scope, ∀ text ∈ (["\x7b3\x7d", "\x7b x \x7d", "\x7b2,4\x7d"] : List Text),
      substitute scope text = .ok text) ∧
    Pattern.compile? false referencePattern = some referenceExpr ∧
    (∀ before word after, Pattern.Matches referenceExpr before word after ↔
      ∃ name, Variables.isName name = true ∧ word = reference name) ∧
    (∀ text, Pattern.Leftmost referenceExpr text 0 (referenceExpr.occurrences text)) ∧
    (∀ text, ∀ found ∈ referenceExpr.occurrences text, ∃ name, RefersTo text found name) ∧
    ∀ name,
      (Variables.isName name = true ↔
        ∃ before after, Pattern.Matches nameExpr before name after) ∧
      (Variables.isName name = true ↔
        ∃ scope text value, Statement.read scope .set text = .ok (.set name value)) ∧
      (Variables.isName name = true ↔
        ∃ scope text value,
          Statement.read scope .setDefault text = .ok (.setDefault name value)) ∧
      (Variables.isName name = true ↔
        ∃ argument value, CommandLine.readVariable argument = .ok (name, value)) := by
  refine ⟨?_, ?_, fun scope text literal => substitute_eq_self literal scope, ?_,
    compile?_referencePattern, fun _ _ _ => matches_referenceExpr_iff,
    fun _ => Pattern.Expr.leftmost_occurrences inOrder_referenceExpr not_spans_referenceExpr,
    fun _ _ => exists_refersTo, ?_⟩
  · intro text
    obtain ⟨parts, scans⟩ := exists_scans text
    exact ⟨parts, scans, fun _ other => other.unique scans⟩
  · intro text parts scans
    exact ⟨scans.flatMap_written, scans.exists_reference_iff,
      fun _ _ => scans.substitute_eq_iff, fun _ => scans.exists_error_iff⟩
  · intro scope text member
    have literal : ∀ text ∈ (["\x7b3\x7d", "\x7b x \x7d", "\x7b2,4\x7d"] : List Text),
        ¬ HasReference text := by
      decide
    exact substitute_eq_self (literal text member) scope
  · intro name
    refine ⟨?_, Statement.exists_read_set_iff.symm, Statement.exists_read_setDefault_iff.symm,
      CommandLine.exists_readVariable_iff.symm⟩
    constructor
    · intro named
      exact ⟨[], [], matches_nameExpr_iff.2 named⟩
    · rintro ⟨before, after, found⟩
      exact matches_nameExpr_iff.1 found

/-- Braces may stand around references and come with values: what is put in is not scanned,
and it makes no reference with what stands around it. -/
theorem substitute_splices_nested_braces :
    let scope : Variables := ⟨[("A", "\x7bB"), ("B", "b")]⟩
    let text : Text := "\x7bA\x7d\x7d\x7b\x7bB\x7d"
    let parts : List Part := [.reference "A", .copied '\x7d', .copied '\x7b', .reference "B"]
    Scans text parts ∧ Fills scope parts (.ok "\x7bB\x7d\x7bb") ∧
    substitute scope text = .ok "\x7bB\x7d\x7bb" := by
  intro scope text parts
  have last : Scans (reference "B" ++ []) [.reference "B"] := .reference rfl .done
  have back : Scans ('\x7d' :: '\x7b' :: (reference "B" ++ []))
      [.copied '\x7d', .copied '\x7b', .reference "B"] :=
    .copied (by decide) (.copied (by decide) last)
  have named : Variables.isName "A" = true := rfl
  have scans : Scans text parts := .reference named back
  have defined : parts.map (Part.value? scope) =
      [("\x7bB" : Text), "\x7d", "\x7b", "b"].map some := by
    decide
  have fills : Fills scope parts (.ok "\x7bB\x7d\x7bb") := .filled defined
  exact ⟨scans, fills, ((substitute_splices.2.1 text parts scans).2.2.1 scope _).2 fills⟩

end Value
end PageCheck
