import PageCheck.Proofs.Pattern.Occurrences
import PageCheck.Proofs.Results
import PageCheck.Proofs.Text.Lowercase
import PageCheck.Script.Value

/-!
# Scanning texts for references

A text falls into parts from left to right: a name in braces is a reference, and every other
character stands for itself.  The occurrences of the pattern for references are the
references among the parts, and putting values in their place joins what the parts stand for.
-/

namespace PageCheck

open Results

/-! ## Characters of names -/

namespace Value

/-- The characters of a name can be part of one. -/
theorem isNameChar_of_mem
    {name : Text}
    {c : Char}
    (named : Variables.isName name = true)
    (inside : c ∈ name) :
    Variables.isNameChar c = true := by
  cases name with
  | nil => cases inside
  | cons d rest =>
      rw [Variables.isName, Bool.and_eq_true, List.all_eq_true] at named
      rcases List.mem_cons.1 inside with rfl | later
      · have start := named.1
        rw [Variables.isNameStart, Bool.or_eq_true] at start
        rw [Variables.isNameChar, Char.isAlphanum, Bool.or_eq_true, Bool.or_eq_true]
        rcases start with letter | underscore
        · exact Or.inl (Or.inl letter)
        · exact Or.inr underscore
      · exact named.2 c later

end Value

section Characters

variable {c : Char}

theorem beq_underscore_iff_toNat : (c == '_') = true ↔ c.toNat = 0x5F := by
  rw [beq_iff_eq, ← Char.toNat_inj]
  rfl

namespace Variables

theorem isNameStart_iff_toNat :
    isNameStart c = true ↔
      0x41 ≤ c.toNat ∧ c.toNat ≤ 0x5A ∨ c.toNat = 0x5F ∨ 0x61 ≤ c.toNat ∧ c.toNat ≤ 0x7A := by
  rw [isNameStart, Bool.or_eq_true, isAlpha_iff_toNat, beq_underscore_iff_toNat]
  omega

theorem isNameChar_iff_toNat :
    isNameChar c = true ↔
      0x30 ≤ c.toNat ∧ c.toNat ≤ 0x39 ∨ isNameStart c = true := by
  have digit : c.isDigit = true ↔ 0x30 ≤ c.toNat ∧ c.toNat ≤ 0x39 := Char.isDigit_iff_toNat
  rw [isNameChar, Char.isAlphanum, isNameStart, Bool.or_eq_true, Bool.or_eq_true,
    Bool.or_eq_true, digit]
  tauto

theorem notMem_of_isName
    {name : Text}
    (named : isName name = true)
    (other : isNameChar c = false) :
    c ∉ name := by
  intro inside
  rw [Value.isNameChar_of_mem named inside] at other
  cases other

end Variables
end Characters

namespace Value

/-! ## References -/

/-- The reference to a variable, as a token is written. -/
def reference (name : Text) : Text := '\x7b' :: (name ++ ['\x7d'])

/-- A reference stands at the front of a text. -/
def StartsReference (text : Text) : Prop :=
  ∃ name after, Variables.isName name = true ∧ text = reference name ++ after

theorem reference_append (name after : Text) :
    reference name ++ after = '\x7b' :: (name ++ '\x7d' :: after) := by
  rw [reference, List.cons_append, List.append_assoc, List.singleton_append]

theorem length_reference (name : Text) : (reference name).length = name.length + 2 := by
  simp [reference]

theorem not_startsReference_nil : ¬ StartsReference [] := by
  rintro ⟨name, after, _, shape⟩
  rw [reference_append] at shape
  cases shape

/-- The name of a reference ends at the first closing brace, so that the reference at the
front of a text is the only one there. -/
theorem reference_append_inj
    {name other after behind : Text}
    (named : Variables.isName name = true)
    (otherNamed : Variables.isName other = true)
    (same : reference name ++ after = reference other ++ behind) :
    name = other ∧ after = behind := by
  rw [reference_append, reference_append, List.cons_inj_right] at same
  have closed : Variables.isNameChar '\x7d' = false := by decide
  have split : Text.splitFirst? '\x7d' (name ++ '\x7d' :: after) = some (name, after) :=
    Text.splitFirst?_eq_some_iff.2 ⟨rfl, Variables.notMem_of_isName named closed⟩
  rw [same, Text.splitFirst?_eq_some_iff.2
    ⟨rfl, Variables.notMem_of_isName otherNamed closed⟩] at split
  cases split
  exact ⟨rfl, rfl⟩

/-! ## Parts -/

/-- What a text is made of. -/
inductive Part
  | copied (c : Char)
  | reference (name : Text)
deriving DecidableEq, Repr

namespace Part

/-- How a part is written. -/
def written : Part → Text
  | .copied c => [c]
  | .reference name => Value.reference name

/-- What a part stands for, unless it refers to a variable without a value. -/
def value? (scope : Variables) : Part → Option Text
  | .copied c => some [c]
  | .reference name => scope.get? name

end Part

/-- A text is scanned into parts from left to right. -/
inductive Scans : Text → List Part → Prop
  | done : Scans [] []
  | reference
      {name after : Text} {parts : List Part}
      (named : Variables.isName name = true)
      (rest : Scans after parts) :
      Scans (reference name ++ after) (.reference name :: parts)
  | copied
      {c : Char} {after : Text} {parts : List Part}
      (literal : ¬ StartsReference (c :: after))
      (rest : Scans after parts) :
      Scans (c :: after) (.copied c :: parts)

/-- How a reference is found that starts at a place: the group is its name. -/
def foundAt (place : Nat) (name : Text) : Pattern.Occurrence :=
  ⟨place, place + (reference name).length, some (place + 1, place + 1 + name.length)⟩

theorem foundAt_stop (place : Nat) (name : Text) :
    (foundAt place name).stop = place + (reference name).length := rfl

/-- How the references among parts are found, if the first part starts at a place. -/
def Part.occurrences : Nat → List Part → List Pattern.Occurrence
  | _, [] => []
  | place, .copied _ :: rest => occurrences (place + 1) rest
  | place, .reference name :: rest =>
      foundAt place name :: occurrences (place + (Value.reference name).length) rest

/-- What comes of parts: what they stand for, one behind the other, if all of them stand
for something, and otherwise the name of the first variable without a value. -/
inductive Fills (scope : Variables) : List Part → Except ValueError Text → Prop
  | filled
      {parts : List Part} {values : List Text}
      (defined : parts.map (Part.value? scope) = values.map some) :
      Fills scope parts (.ok values.flatten)
  | missing
      {front back : List Part} {name : Text}
      (defined : ∀ part ∈ front, (part.value? scope).isSome = true)
      (undefined : scope.get? name = none) :
      Fills scope (front ++ .reference name :: back) (.error (.missingVariable name))

/-! ## The pattern for references -/

open Unicode (CodePoints)

section Pattern

theorem hasChar_nameStarts_iff {c : Char} :
    nameStarts.hasChar c = true ↔ Variables.isNameStart c = true := by
  rw [Variables.isNameStart_iff_toNat, CodePoints.hasChar_iff]
  simp only [nameStarts, List.mem_cons, List.not_mem_nil, or_false, exists_eq_or_imp,
    exists_eq_left]
  omega

theorem hasChar_nameChars_iff {c : Char} :
    nameChars.hasChar c = true ↔ Variables.isNameChar c = true := by
  rw [Variables.isNameChar_iff_toNat, Variables.isNameStart_iff_toNat, CodePoints.hasChar_iff]
  simp only [nameChars, List.mem_cons, List.not_mem_nil, or_false, exists_eq_or_imp,
    exists_eq_left]
  omega

variable {before word after : Text}

/-- The group of the pattern for references is about names. -/
theorem matches_nameExpr_iff :
    Pattern.Matches nameExpr before word after ↔ Variables.isName word = true := by
  simp only [nameExpr, Pattern.matches_seq_iff, Pattern.matches_chars_iff,
    Pattern.matches_repeated_chars_iff, hasChar_nameStarts_iff, hasChar_nameChars_iff]
  constructor
  · rintro ⟨_, rest, rfl, ⟨c, start, rfl⟩, parts⟩
    rw [List.singleton_append, Variables.isName, start, Bool.true_and, List.all_eq_true]
    exact parts
  · intro named
    cases word with
    | nil => cases named
    | cons c rest =>
        rw [Variables.isName, Bool.and_eq_true, List.all_eq_true] at named
        exact ⟨[c], rest, rfl, ⟨c, named.1, rfl⟩, named.2⟩

/-- The pattern for references matches the references to all names and nothing else. -/
theorem matches_referenceExpr_iff :
    Pattern.Matches referenceExpr before word after ↔
      ∃ name, Variables.isName name = true ∧ word = reference name := by
  simp only [referenceExpr, Pattern.Expr.sequence, Pattern.matches_seq_iff,
    Pattern.matches_chars_iff, Pattern.matches_capture_iff, matches_nameExpr_iff,
    CodePoints.hasChar_singleton_iff]
  constructor
  · rintro ⟨_, _, rfl, ⟨_, rfl, rfl⟩, name, _, rfl, named, _, rfl, rfl⟩
    exact ⟨name, named, rfl⟩
  · rintro ⟨name, named, rfl⟩
    exact ⟨['\x7b'], _, rfl, ⟨_, rfl, rfl⟩, name, ['\x7d'], rfl, named, _, rfl, rfl⟩

end Pattern

theorem inOrder_nameExpr : nameExpr.InOrder :=
  ⟨trivial, nofun, trivial⟩

theorem inOrder_referenceExpr : referenceExpr.InOrder :=
  ⟨trivial, inOrder_nameExpr, trivial⟩

/-- A reference has more than one character. -/
theorem not_spans_referenceExpr
    {subject : Text}
    (place : Nat) :
    ¬ Pattern.Spans referenceExpr subject place place := by
  rintro ⟨before, word, after, -, rfl, same, found⟩
  obtain ⟨name, -, rfl⟩ := matches_referenceExpr_iff.1 found
  rw [length_reference] at same
  omega

/-! ## Occurrences of references -/

section Occurrences

variable {front text subject : Text} {here stop : Pattern.Stop}

theorem mem_stops_singleton_iff
    {c : Char}
    (shape : subject = front ++ text)
    (place : here.place = front.length) :
    stop ∈ (Pattern.Expr.chars (.singleton c)).stops subject here ↔
      ∃ after, text = c :: after ∧ stop = ⟨here.place + 1, here.group⟩ := by
  have first : subject[here.place]? = text.head? := by
    rw [shape, place, List.getElem?_append_right (Nat.le_refl _), Nat.sub_self,
      List.head?_eq_getElem?]
  simp only [Pattern.mem_stops_chars_iff, CodePoints.hasChar_singleton_iff, exists_eq_right,
    first, List.head?_eq_some_iff]
  constructor
  · rintro ⟨rfl, after, rfl⟩
    exact ⟨after, rfl, rfl⟩
  · rintro ⟨after, rfl, rfl⟩
    exact ⟨rfl, after, rfl⟩

/-- The group of the expression for references has the bounds of a name. -/
theorem mem_stops_nameGroup_iff
    (shape : subject = front ++ text)
    (place : here.place = front.length) :
    stop ∈ (Pattern.Expr.capture nameExpr).stops subject here ↔
      ∃ name after, Variables.isName name = true ∧ text = name ++ after ∧
        stop = ⟨here.place + name.length, some (here.place, here.place + name.length)⟩ := by
  have inside : here.place ≤ subject.length := by
    rw [shape, place, List.length_append]
    exact Nat.le_add_right _ _
  rw [Pattern.mem_stops_capture_iff (Pattern.Expr.follows_stops inOrder_nameExpr) inside]
  simp only [shape, place, Pattern.spans_append_iff, matches_nameExpr_iff]
  constructor
  · rintro ⟨_, ⟨name, after, rfl, rfl, named⟩, rfl⟩
    exact ⟨name, after, named, rfl, rfl⟩
  · rintro ⟨name, after, named, rfl, rfl⟩
    exact ⟨_, ⟨name, after, rfl, rfl, named⟩, rfl⟩

/-- The expression for references stops behind the reference at a place, if there is one. -/
theorem mem_stops_referenceExpr_iff
    (shape : subject = front ++ text)
    (place : here.place = front.length) :
    stop ∈ referenceExpr.stops subject here ↔
      ∃ name after, Variables.isName name = true ∧ text = reference name ++ after ∧
        stop = ⟨here.place + (reference name).length,
          some (here.place + 1, here.place + 1 + name.length)⟩ := by
  have width (name : Text) :
      here.place + (reference name).length = here.place + 1 + name.length + 1 := by
    rw [length_reference]
    omega
  have behindBrace : here.place + 1 = (front ++ ['\x7b']).length := by
    rw [place, List.length_append, List.length_singleton]
  have behindName (name : Text) :
      here.place + 1 + name.length = (front ++ ['\x7b'] ++ name).length := by
    rw [behindBrace]
    exact List.length_append.symm
  simp only [referenceExpr, Pattern.Expr.sequence, Pattern.mem_stops_seq_iff,
    mem_stops_singleton_iff shape place, width]
  constructor
  · rintro ⟨_, ⟨rest, rfl, rfl⟩, middle, member, last⟩
    have opened : subject = front ++ ['\x7b'] ++ rest := by simpa using shape
    obtain ⟨name, closing, named, rfl, rfl⟩ :=
      (mem_stops_nameGroup_iff opened behindBrace).1 member
    have closed : subject = front ++ ['\x7b'] ++ name ++ closing := by simpa using opened
    obtain ⟨after, rfl, rfl⟩ := (mem_stops_singleton_iff closed (behindName name)).1 last
    exact ⟨name, after, named, (reference_append name after).symm, rfl⟩
  · rintro ⟨name, after, named, rfl, rfl⟩
    rw [reference_append] at shape
    have opened : subject = front ++ ['\x7b'] ++ (name ++ '\x7d' :: after) := by
      simpa using shape
    have closed : subject = front ++ ['\x7b'] ++ name ++ '\x7d' :: after := by
      simpa using opened
    exact ⟨_, ⟨_, reference_append name after, rfl⟩, _,
      (mem_stops_nameGroup_iff opened behindBrace).2 ⟨name, _, named, rfl, rfl⟩,
      (mem_stops_singleton_iff closed (behindName name)).2 ⟨after, rfl, rfl⟩⟩

/-- The reference at a place is found. -/
theorem occurrence?_reference
    {name : Text}
    (named : Variables.isName name = true)
    (front after : Text) :
    referenceExpr.occurrence? (front ++ (reference name ++ after)) front.length =
      some (foundAt front.length name) := by
  have stops_iff (stop : Pattern.Stop) :
      stop ∈ referenceExpr.stops (front ++ (reference name ++ after)) ⟨front.length, none⟩ ↔
        stop = ⟨front.length + (reference name).length,
          some (front.length + 1, front.length + 1 + name.length)⟩ := by
    rw [mem_stops_referenceExpr_iff rfl rfl]
    constructor
    · rintro ⟨other, behind, otherNamed, shape, rfl⟩
      obtain ⟨rfl, rfl⟩ := reference_append_inj named otherNamed shape
      rfl
    · rintro rfl
      exact ⟨name, after, named, rfl, rfl⟩
  rw [Pattern.Expr.occurrence?]
  generalize referenceExpr.stops _ _ = stops at stops_iff
  cases stops with
  | nil => cases (stops_iff _).2 rfl
  | cons first others =>
      rw [(stops_iff first).1 List.mem_cons_self]
      rfl

/-- Nothing is found at a place where no reference starts. -/
theorem occurrence?_eq_none
    (literal : ¬ StartsReference text)
    (front : Text) :
    referenceExpr.occurrence? (front ++ text) front.length = none := by
  rw [Pattern.Expr.occurrence?, Option.map_eq_none_iff, List.head?_eq_none_iff,
    List.eq_nil_iff_forall_not_mem]
  intro stop member
  obtain ⟨name, after, named, shape, -⟩ := (mem_stops_referenceExpr_iff rfl rfl).1 member
  exact literal ⟨name, after, named, shape⟩

end Occurrences

/-- From the start of a text on, the references among its parts are found. -/
theorem Scans.occurrencesAt_eq
    {text front : Text}
    {parts : List Part}
    {free : Nat}
    (scans : Scans text parts)
    (reached : free ≤ front.length) :
    referenceExpr.occurrencesAt (front ++ text) free
      (List.range' front.length (text.length + 1)) = Part.occurrences front.length parts := by
  induction scans generalizing front free with
  | done =>
      rw [List.range'_succ, Pattern.Expr.occurrencesAt, if_neg (Nat.not_lt.2 reached),
        occurrence?_eq_none not_startsReference_nil]
      rfl
  | @reference name after parts named _ hypothesis =>
      have behind : front.length + (Value.reference name).length =
          (front ++ Value.reference name).length := List.length_append.symm
      have size : (Value.reference name ++ after).length =
          (name.length + 1) + (after.length + 1) := by
        rw [List.length_append, length_reference]
        omega
      have ends : front.length + 1 + (name.length + 1) = (foundAt front.length name).stop := by
        rw [foundAt_stop, length_reference]
        omega
      rw [size, Pattern.Expr.occurrencesAt_range' reached (occurrence?_reference named _ _) ends,
        foundAt_stop, Part.occurrences, behind, ← List.append_assoc, hypothesis (Nat.le_refl _)]
  | @copied c after parts literal _ hypothesis =>
      have behind : front.length + 1 = (front ++ [c]).length := by simp
      rw [List.range'_succ, Pattern.Expr.occurrencesAt, if_neg (Nat.not_lt.2 reached),
        occurrence?_eq_none literal, Part.occurrences, behind, List.append_cons]
      exact hypothesis (by omega)

theorem Scans.occurrences_eq
    {text : Text}
    {parts : List Part}
    (scans : Scans text parts) :
    referenceExpr.occurrences text = Part.occurrences 0 parts := by
  have start : 0 ≤ ([] : Text).length := Nat.le_refl 0
  rw [Pattern.Expr.occurrences, List.range_eq_range']
  exact scans.occurrencesAt_eq start

/-- Of two pairs of braces, the inner one is the reference. -/
example : referenceExpr.occurrences "\x7b\x7bab\x7d\x7d" = [⟨1, 5, some (2, 4)⟩] := by
  decide

/-! ## Filling -/

namespace Fills

variable {scope : Variables} {parts : List Part} {outcome : Except ValueError Text}

/-- A part that stands for something is put in front. -/
theorem cons
    {part : Part}
    {value : Text}
    (defined : part.value? scope = some value)
    (fills : Fills scope parts outcome) :
    Fills scope (part :: parts) (outcome.map fun text => value ++ text) := by
  cases fills with
  | filled all =>
      rw [ok_map, ← List.flatten_cons]
      exact .filled (by rw [List.map_cons, List.map_cons, defined, all])
  | missing before undefined =>
      rw [← List.cons_append]
      exact .missing (List.forall_mem_cons.2 ⟨by rw [defined]; rfl, before⟩) undefined

/-- Parts do not all stand for something if a variable among them has no value. -/
theorem map_value?_ne
    {values : List Text}
    {name : Text}
    (member : .reference name ∈ parts)
    (undefined : scope.get? name = none) :
    parts.map (Part.value? scope) ≠ values.map some := by
  intro defined
  have inside : Part.value? scope (.reference name) ∈ values.map some :=
    defined ▸ List.mem_map_of_mem member
  rw [Part.value?, undefined] at inside
  simp at inside

/-- The first variable without a value is the first part that stands for nothing. -/
theorem find?_of_missing
    {front : List Part}
    {name : Text}
    (defined : ∀ part ∈ front, (part.value? scope).isSome = true)
    (undefined : scope.get? name = none)
    (back : List Part) :
    (front ++ .reference name :: back).find? (fun part => (part.value? scope).isNone) =
      some (.reference name) := by
  rw [List.find?_eq_some_iff_append]
  refine ⟨by rw [Part.value?, undefined]; rfl, front, back, rfl, ?_⟩
  intro part inside
  simpa using defined part inside

/-- Parts have one outcome only. -/
theorem unique
    {other : Except ValueError Text}
    (fills : Fills scope parts outcome)
    (fillsToo : Fills scope parts other) :
    outcome = other := by
  generalize same : parts = others at fillsToo
  cases fills with
  | filled all =>
      cases fillsToo with
      | filled allToo =>
          rw [← same, all] at allToo
          rw [List.map_injective_iff.2 (fun _ _ => Option.some.inj) allToo]
      | missing _ undefined =>
          exact absurd all (map_value?_ne (by rw [same]; simp) undefined)
  | @missing _ back _ before undefined =>
      cases fillsToo with
      | filled allToo =>
          exact absurd allToo (map_value?_ne (by rw [← same]; simp) undefined)
      | missing beforeToo undefinedToo =>
          have first := find?_of_missing before undefined back
          rw [same, find?_of_missing beforeToo undefinedToo] at first
          cases first
          rfl

end Fills

/-! ## Substitution along a scan -/

theorem Scans.flatMap_written
    {text : Text}
    {parts : List Part}
    (scans : Scans text parts) :
    parts.flatMap Part.written = text := by
  induction scans with
  | done => rfl
  | reference _ _ hypothesis => rw [List.flatMap_cons, hypothesis, Part.written]
  | copied _ _ hypothesis => rw [List.flatMap_cons, hypothesis, Part.written]; rfl

section Substitution

variable {scope : Variables} {front : Text} {last : Nat}

/-- The piece between the last reference and the next one is copied. -/
theorem extract_front
    (before : last ≤ front.length)
    (text : Text) :
    (front ++ text).extract last front.length = front.drop last := by
  rw [List.extract_eq_take_drop, List.drop_append_of_le_length before, ← List.length_drop,
    List.take_left]

/-- The name of a reference is what its group is about. -/
theorem extract_name (name after : Text) :
    (front ++ (reference name ++ after)).extract (front.length + 1)
      (front.length + 1 + name.length) = name := by
  have shape : front ++ (reference name ++ after) =
      (front ++ ['\x7b']) ++ (name ++ '\x7d' :: after) := by
    rw [reference_append, List.append_assoc, List.singleton_append]
  have start : front.length + 1 = (front ++ ['\x7b']).length := by simp
  rw [shape, start, List.extract_eq_take_drop, List.drop_left, Nat.add_sub_cancel_left,
    List.take_left]

/-- Going through the references among parts fills the parts, behind what has been put
together so far and the piece of the text that comes before the parts. -/
theorem splice_occurrences
    (scope : Variables)
    (parts : List Part)
    (result : Text)
    (before : last ≤ front.length) :
    ∃ outcome, Fills scope parts outcome ∧
      splice scope (front ++ parts.flatMap Part.written)
        (Part.occurrences front.length parts) result last =
      outcome.map fun text => result ++ front.drop last ++ text := by
  induction parts generalizing front result last with
  | nil =>
      have nothing : [].map (Part.value? scope) = ([] : List Text).map some := rfl
      refine ⟨_, .filled nothing, ?_⟩
      simp [Part.occurrences, splice]
  | cons part parts hypothesis =>
      cases part with
      | copied c =>
          -- The character joins the piece that is copied when the next reference is found.
          have itself : Part.value? scope (.copied c) = some [c] := rfl
          have behind : front.length + 1 = (front ++ [c]).length := by simp
          have reached : last ≤ (front ++ [c]).length := by omega
          obtain ⟨outcome, fills, spliced⟩ := hypothesis result reached
          refine ⟨_, fills.cons itself, ?_⟩
          rw [Part.occurrences, behind, List.flatMap_cons, Part.written, ← List.append_assoc,
            spliced, List.drop_append_of_le_length before, map_map]
          simp only [List.append_assoc]
      | reference name =>
          rw [Part.occurrences, List.flatMap_cons, Part.written, splice]
          simp only [foundAt, extract_name, extract_front before]
          cases known : scope.get? name with
          | none => exact ⟨_, .missing (List.forall_mem_nil _) known, rfl⟩
          | some value =>
              have behind : front.length + (reference name).length =
                  (front ++ reference name).length := List.length_append.symm
              have reached := Nat.le_refl (front ++ reference name).length
              obtain ⟨outcome, fills, spliced⟩ :=
                hypothesis (result ++ front.drop last ++ value) reached
              refine ⟨_, fills.cons known, ?_⟩
              simp only [behind, ← List.append_assoc, spliced, map_map, List.drop_length,
                List.append_nil]

/-- Substitution fills the parts of a text. -/
theorem Scans.fills
    {text : Text}
    {parts : List Part}
    (scans : Scans text parts) :
    Fills scope parts (substitute scope text) := by
  have start : 0 ≤ ([] : Text).length := Nat.le_refl 0
  obtain ⟨outcome, fills, spliced⟩ := splice_occurrences scope parts [] start
  have same : substitute scope text = outcome := by
    rw [substitute, scans.occurrences_eq]
    rw [List.nil_append, scans.flatMap_written, List.length_nil] at spliced
    rw [spliced]
    cases outcome <;> rfl
  rwa [same]

theorem Scans.substitute_eq_iff
    {text : Text}
    {parts : List Part}
    {outcome : Except ValueError Text}
    (scans : Scans text parts) :
    substitute scope text = outcome ↔ Fills scope parts outcome := by
  constructor
  · rintro rfl
    exact scans.fills
  · exact scans.fills.unique

end Substitution

end Value
end PageCheck
