import PageCheck.Pattern.Expr

/-!
# Words of expressions

Which words an expression matches is said without the rules of matching for characters,
sequences, groups and free repetitions of characters.
-/

namespace PageCheck

/-! ## Characters of a set -/

namespace Unicode
namespace CodePoints

theorem hasChar_iff
    {set : CodePoints}
    {c : Char} :
    set.hasChar c = true ↔ ∃ range ∈ set.ranges, range.1 ≤ c.toNat ∧ c.toNat ≤ range.2 := by
  simp [hasChar, contains]

theorem hasChar_singleton_iff {c d : Char} : (singleton c).hasChar d = true ↔ d = c := by
  rw [hasChar_iff, ← Char.toNat_inj]
  simp only [singleton, List.mem_singleton, exists_eq_left]
  omega

/-- A set is given by its ranges in the order of their starts. -/
theorem ofRanges_eq
    {ranges : List (Nat × Nat)}
    (ordered : List (Nat × Nat))
    (same : ordered.Perm ranges)
    (proper : ∀ range ∈ ordered, range.1 ≤ range.2)
    (increases : ordered.Pairwise fun left right => left.1 ≤ right.1)
    (distinct : ∀ left ∈ ordered, ∀ right ∈ ordered, left.1 = right.1 → left = right) :
    ofRanges ranges = ⟨joinTouching ordered⟩ := by
  have kept : (ranges.filter fun range => range.1 ≤ range.2) = ranges := by
    rw [List.filter_eq_self]
    intro range member
    exact decide_eq_true (proper range (same.mem_iff.2 member))
  have sorted : ranges.mergeSort (fun left right => left.1 ≤ right.1) = ordered := by
    have sorts := List.mergeSort_perm ranges fun left right => left.1 ≤ right.1
    refine (sorts.trans same.symm).eq_of_pairwise ?_ (List.pairwise_mergeSort ?_ ?_ ranges) ?_
    · intro left right inLeft inRight before behind
      refine distinct left (same.mem_iff.2 (sorts.mem_iff.1 inLeft)) right inRight ?_
      exact Nat.le_antisymm (of_decide_eq_true before) (of_decide_eq_true behind)
    · intro first second third
      simpa using Nat.le_trans
    · intro left right
      simpa using Nat.le_total left.1 right.1
    · simpa using increases
  rw [ofRanges, kept, sorted]

end CodePoints
end Unicode

/-! ## Words -/

namespace Pattern

open Unicode (CodePoints)

variable {before word after : Text}

theorem matches_chars_iff {members : CodePoints} :
    Matches (.chars members) before word after ↔
      ∃ c, members.hasChar c = true ∧ word = [c] := by
  constructor
  · intro found
    cases found with
    | chars member => exact ⟨_, member, rfl⟩
  · rintro ⟨c, member, rfl⟩
    exact .chars member

theorem matches_capture_iff {body : Expr} :
    Matches (.capture body) before word after ↔ Matches body before word after := by
  constructor
  · intro found
    cases found with
    | capture inner => exact inner
  · exact .capture

theorem matches_seq_iff {first second : Expr} :
    Matches (.seq first second) before word after ↔
      ∃ front back, word = front ++ back ∧ Matches first before front (back ++ after) ∧
        Matches second (before ++ front) back after := by
  constructor
  · intro found
    cases found with
    | seq left right => exact ⟨_, _, rfl, left, right⟩
  · rintro ⟨front, back, rfl, left, right⟩
    exact .seq left right

/-- Characters that may be repeated freely match the texts of such characters. -/
theorem matches_repeated_chars_iff {members : CodePoints} :
    Matches (.repeated (.chars members) 0 none) before word after ↔
      ∀ c ∈ word, members.hasChar c = true := by
  constructor
  · intro found
    generalize shape : Expr.repeated (.chars members) 0 none = expr at found
    induction found with
    | done => simp
    | again _ head _ _ hypothesis =>
        cases shape
        obtain ⟨c, member, rfl⟩ := matches_chars_iff.1 head
        intro d inside
        rcases List.mem_cons.1 inside with rfl | later
        · exact member
        · exact hypothesis rfl d later
    | _ => cases shape
  · intro inside
    induction word generalizing before with
    | nil => exact .done
    | cons c rest hypothesis =>
        rw [List.forall_mem_cons] at inside
        have one : Matches (.chars members) before [c] (rest ++ after) := .chars inside.1
        exact .again (by simp) one (hypothesis inside.2)

end Pattern
end PageCheck
