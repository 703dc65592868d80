import Mathlib.Data.List.Basic
import PageCheck.Pattern.Search
import PageCheck.Proofs.Pattern.Words

/-!
# Searching finds the words

The positions around the words that an expression matches in a subject form a relation.  A plan
carries every set of positions along this relation, and so a search succeeds exactly when the
expression matches some word of the subject.
-/

namespace PageCheck
namespace Pattern

/-! ## Spans -/

/-- An expression matches the word between two positions of a subject. -/
def Spans (expr : Expr) (subject : Text) (first last : Nat) : Prop :=
  ∃ before word after, subject = before ++ word ++ after ∧ before.length = first ∧
    before.length + word.length = last ∧ Matches expr before word after

section Spans

variable {subject : Text} {i j : Nat}

theorem Spans.bounds
    {expr : Expr}
    (spans : Spans expr subject i j) :
    i ≤ j ∧ j ≤ subject.length := by
  obtain ⟨before, word, after, rfl, rfl, rfl, _⟩ := spans
  simp only [List.length_append]
  omega

/-- An empty word lies at any position of a subject. -/
theorem spans_of_matches_nil
    {expr : Expr}
    (inside : i ≤ subject.length)
    (found : Matches expr (subject.take i) [] (subject.drop i)) :
    Spans expr subject i i :=
  ⟨subject.take i, [], subject.drop i, by simp, by simp [inside], by simp [inside], found⟩

theorem spans_empty_iff : Spans .empty subject i j ↔ i = j ∧ i ≤ subject.length := by
  constructor
  · rintro ⟨before, word, after, rfl, rfl, rfl, found⟩
    cases found
    simp
  · rintro ⟨rfl, inside⟩
    exact spans_of_matches_nil inside .empty

theorem spans_chars_iff {members : Unicode.CodePoints} :
    Spans (.chars members) subject i j ↔
      j = i + 1 ∧ ∃ c, subject[i]? = some c ∧ members.hasChar c = true := by
  constructor
  · rintro ⟨before, word, after, rfl, rfl, rfl, found⟩
    obtain ⟨c, member, rfl⟩ := matches_chars_iff.1 found
    exact ⟨rfl, c, by simp, member⟩
  · rintro ⟨rfl, c, here, member⟩
    obtain ⟨inside, rfl⟩ := List.getElem?_eq_some_iff.1 here
    refine ⟨subject.take i, [subject[i]], subject.drop (i + 1), ?_, ?_, ?_, .chars member⟩
    · rw [List.take_append_getElem, List.take_append_drop]
    · simp only [List.length_take]
      omega
    · simp only [List.length_take, List.length_singleton]
      omega

theorem spans_look_iff {condition : Look} :
    Spans (.look condition) subject i j ↔
      i = j ∧ i ≤ subject.length ∧
        condition.holds (subject.take i).getLast? (subject.drop i).head? = true := by
  constructor
  · rintro ⟨before, word, after, rfl, rfl, rfl, found⟩
    cases found with
    | look holds => simpa using holds
  · rintro ⟨rfl, inside, holds⟩
    exact spans_of_matches_nil inside (.look holds)

theorem spans_seq_iff {first second : Expr} :
    Spans (.seq first second) subject i j ↔
      ∃ k, Spans first subject i k ∧ Spans second subject k j := by
  constructor
  · rintro ⟨before, word, after, rfl, rfl, rfl, found⟩
    obtain ⟨front, back, rfl, left, right⟩ := matches_seq_iff.1 found
    exact ⟨before.length + front.length,
      ⟨before, front, back ++ after, by simp, rfl, rfl, left⟩,
      ⟨before ++ front, back, after, by simp, by simp, by simp [Nat.add_assoc], right⟩⟩
  · rintro ⟨k, ⟨before, front, rest, rfl, rfl, rfl, left⟩,
      ⟨start, back, after, shape, length, rfl, right⟩⟩
    -- The second word starts where the first one ends, and so the text before it is known.
    rw [List.append_assoc start] at shape
    obtain ⟨rfl, rfl⟩ := List.append_inj shape (by simp [length])
    exact ⟨before, front ++ back, after, by simp, rfl, by simp [Nat.add_assoc],
      .seq left right⟩

theorem spans_alt_iff {left right : Expr} :
    Spans (.alt left right) subject i j ↔
      Spans left subject i j ∨ Spans right subject i j := by
  constructor
  · rintro ⟨before, word, after, shape, first, last, found⟩
    cases found with
    | altLeft inner => exact .inl ⟨before, word, after, shape, first, last, inner⟩
    | altRight inner => exact .inr ⟨before, word, after, shape, first, last, inner⟩
  · rintro (⟨before, word, after, shape, first, last, inner⟩ |
      ⟨before, word, after, shape, first, last, inner⟩)
    · exact ⟨before, word, after, shape, first, last, .altLeft inner⟩
    · exact ⟨before, word, after, shape, first, last, .altRight inner⟩

theorem spans_capture_iff {body : Expr} :
    Spans (.capture body) subject i j ↔ Spans body subject i j := by
  simp only [Spans, matches_capture_iff]

end Spans

/-! ## Rounds of a repetition -/

/-- A number of steps of a relation between positions. -/
inductive Rounds (reach : Nat → Nat → Prop) : Nat → Nat → Nat → Prop
  | none
      {i : Nat} :
      Rounds reach 0 i i
  | again
      {count i k j : Nat}
      (head : reach i k)
      (tail : Rounds reach count k j) :
      Rounds reach (count + 1) i j

namespace Rounds

variable {reach : Nat → Nat → Prop} {count i j k : Nat}

theorem zero_iff : Rounds reach 0 i j ↔ i = j := by
  constructor
  · intro rounds
    cases rounds
    rfl
  · rintro rfl
    exact .none

theorem succ_iff :
    Rounds reach (count + 1) i j ↔ ∃ k, reach i k ∧ Rounds reach count k j := by
  constructor
  · intro rounds
    cases rounds with
    | again head tail => exact ⟨_, head, tail⟩
  · rintro ⟨k, head, tail⟩
    exact .again head tail

theorem add_iff {first second : Nat} :
    Rounds reach (first + second) i j ↔
      ∃ k, Rounds reach first i k ∧ Rounds reach second k j := by
  induction first generalizing i with
  | zero => simp [zero_iff]
  | succ first hypothesis =>
      rw [Nat.add_right_comm]
      simp only [succ_iff, hypothesis]
      constructor
      · rintro ⟨m, head, k, front, back⟩
        exact ⟨k, ⟨m, head, front⟩, back⟩
      · rintro ⟨k, ⟨m, head, front⟩, back⟩
        exact ⟨m, head, k, front, back⟩

/-- Steps that never go back need no more rounds than there are positions between the ends. -/
theorem exists_le_sub
    (ascending : ∀ {i j}, reach i j → i ≤ j)
    (rounds : Rounds reach count i j) :
    i ≤ j ∧ ∃ fewer ≤ j - i, Rounds reach fewer i j := by
  induction rounds with
  | none => exact ⟨Nat.le_refl _, 0, Nat.zero_le _, .none⟩
  | @again count i k j head tail hypothesis =>
      obtain ⟨later, fewer, bound, kept⟩ := hypothesis
      have step : i ≤ k := ascending head
      refine ⟨Nat.le_trans step later, ?_⟩
      rcases Nat.eq_or_lt_of_le step with rfl | moved
      · exact ⟨fewer, bound, kept⟩
      · exact ⟨fewer + 1, by omega, .again head kept⟩

end Rounds

/-- A repetition spans what some allowed number of rounds of its body spans. -/
theorem spans_repeated_iff
    {body : Expr}
    {least : Nat}
    {most : Option Nat}
    {subject : Text}
    {i j : Nat} :
    Spans (.repeated body least most) subject i j ↔
      i ≤ subject.length ∧ ∃ count, least ≤ count ∧ (∀ limit ∈ most, count ≤ limit) ∧
        Rounds (Spans body subject) count i j := by
  constructor
  · rintro ⟨before, word, after, shape, first, last, found⟩
    generalize form : Expr.repeated body least most = expr at found
    induction found generalizing least most i with
    | done =>
        cases form
        subst shape first last
        exact ⟨by simp, 0, Nat.le_refl 0, by simp, .none⟩
    | @again body' least' most' before front back after allowed head tail _ hypothesis =>
        cases form
        subst shape first last
        obtain ⟨_, count, enough, within, rounds⟩ :=
          hypothesis (by simp) rfl (by simp [Nat.add_assoc]) rfl
        refine ⟨by simp, count + 1, by omega, ?_, .again ?_ rounds⟩
        · intro limit chosen
          cases chosen
          have bound := within (limit - 1) rfl
          have positive : limit ≠ 0 := fun zero => allowed (by rw [zero])
          omega
        · exact ⟨before, front, back ++ after, by simp, rfl, by simp, head⟩
    | _ => cases form
  · rintro ⟨inside, count, enough, within, rounds⟩
    induction count generalizing i least most with
    | zero =>
        obtain rfl := Nat.le_zero.1 enough
        obtain rfl := Rounds.zero_iff.1 rounds
        exact spans_of_matches_nil inside .done
    | succ count hypothesis =>
        obtain ⟨k, head, tail⟩ := Rounds.succ_iff.1 rounds
        have fewer : ∀ limit ∈ most.map (· - 1), count ≤ limit := by
          intro limit chosen
          obtain ⟨full, given, rfl⟩ := Option.map_eq_some_iff.1 chosen
          have bound := within full given
          omega
        have rest : Spans (.repeated body (least - 1) (most.map (· - 1))) subject k j :=
          hypothesis head.bounds.2 (by omega) fewer tail
        have allowed : most ≠ some 0 := by
          rintro rfl
          have bound := within 0 rfl
          omega
        obtain ⟨before, word, after, shape, first, last, found⟩ :=
          spans_seq_iff.2 ⟨k, head, rest⟩
        obtain ⟨front, back, rfl, left, right⟩ := matches_seq_iff.1 found
        exact ⟨before, front ++ back, after, shape, first, last, .again allowed left right⟩

/-! ## Sets of positions -/

theorem testBit_marksOf (bits : List Bool) (i : Nat) :
    (marksOf bits).testBit i = bits[i]?.getD false := by
  induction bits generalizing i with
  | nil => simp [marksOf]
  | cons bit rest hypothesis =>
      have split : marksOf (bit :: rest) = 2 * marksOf rest + bit.toNat := rfl
      cases i with
      | zero => cases bit <;> simp [split, Nat.testBit_zero]
      | succ i =>
          have half (marks : Nat) : (2 * marks + bit.toNat) / 2 = marks := by
            have small : bit.toNat ≤ 1 := Bool.toNat_le bit
            omega
          rw [Nat.testBit_add_one, List.getElem?_cons_succ, ← hypothesis, split, half]

/-- The neighbours of a position are the characters next to it. -/
theorem getElem?_gaps
    {subject : Text}
    {i : Nat}
    (inside : i ≤ subject.length) :
    (gaps subject)[i]? = some ((subject.take i).getLast?, (subject.drop i).head?) := by
  rw [gaps, List.getElem?_zip_eq_some]
  constructor
  · cases i with
    | zero => simp
    | succ i =>
        have before : i < subject.length := inside
        simp [List.getLast?_take, List.getElem?_eq_getElem before]
  · rw [List.head?_drop]
    rcases Nat.eq_or_lt_of_le inside with rfl | before
    · simp
    · simp [List.getElem?_append_left, before]

/-- No position of a set lies behind the end of a subject. -/
def Within (size : Nat) (marks : Marks) : Prop :=
  ∀ i, marks.testBit i = true → i ≤ size

/-- A function carries every set of positions along a relation that stays within a subject. -/
structure Carries
    (size : Nat)
    (advance : Marks → Marks)
    (reach : Nat → Nat → Prop) : Prop where
  stays : ∀ {i j}, reach i j → i ≤ size → j ≤ size
  testBit_iff : ∀ {marks}, Within size marks → ∀ j,
    (advance marks).testBit j = true ↔ ∃ i, marks.testBit i = true ∧ reach i j

namespace Carries

variable {size : Nat} {advance further : Marks → Marks} {reach next : Nat → Nat → Prop}
  {marks : Marks}

theorem within
    (carries : Carries size advance reach)
    (inside : Within size marks) :
    Within size (advance marks) := by
  intro j marked
  obtain ⟨i, start, reached⟩ := (carries.testBit_iff inside j).1 marked
  exact carries.stays reached (inside i start)

/-- Only what the relation says about positions of the subject matters. -/
theorem congr
    (carries : Carries size advance reach)
    (same : ∀ {i j}, i ≤ size → (reach i j ↔ next i j)) :
    Carries size advance next where
  stays reached start := carries.stays ((same start).2 reached) start
  testBit_iff := by
    intro marks inside j
    rw [carries.testBit_iff inside]
    exact exists_congr fun i => and_congr_right fun marked => same (inside i marked)

theorem comp
    (carries : Carries size advance reach)
    (after : Carries size further next) :
    Carries size (fun marks => further (advance marks))
      (fun i j => ∃ k, reach i k ∧ next k j) where
  stays := by
    rintro i j ⟨k, front, back⟩ start
    exact after.stays back (carries.stays front start)
  testBit_iff := by
    intro marks inside j
    simp only [after.testBit_iff (carries.within inside), carries.testBit_iff inside]
    constructor
    · rintro ⟨k, ⟨i, marked, front⟩, back⟩
      exact ⟨i, marked, k, front, back⟩
    · rintro ⟨i, marked, k, front, back⟩
      exact ⟨k, ⟨i, marked, front⟩, back⟩

theorem union
    (carries : Carries size advance reach)
    (other : Carries size further next) :
    Carries size (fun marks => advance marks ||| further marks)
      (fun i j => reach i j ∨ next i j) where
  stays := by
    rintro i j (reached | reached) start
    · exact carries.stays reached start
    · exact other.stays reached start
  testBit_iff := by
    intro marks inside j
    simp only [Nat.testBit_or, Bool.or_eq_true, carries.testBit_iff inside,
      other.testBit_iff inside, and_or_left, exists_or]

theorem refl : Carries size (fun marks => marks) (fun i j => i = j) where
  stays := by
    rintro i j rfl start
    exact start
  testBit_iff := by simp

/-! ## Rounds over sets -/

theorem iterate_succ (count : Nat) (marks : Marks) :
    iterate advance (count + 1) marks = iterate advance count (advance marks) := by
  by_cases fixed : advance marks = marks
  · cases count <;> simp [iterate, fixed]
  · simp [iterate, fixed]

theorem saturate_succ (most : Nat) (marks : Marks) :
    saturate advance (most + 1) marks = saturate advance most (marks ||| advance marks) := by
  by_cases fixed : marks ||| advance marks = marks
  · cases most <;> simp [saturate, fixed]
  · simp [saturate, fixed]

theorem iterate
    (carries : Carries size advance reach)
    (count : Nat) :
    Carries size (Pattern.iterate advance count) (Rounds reach count) := by
  induction count with
  | zero => exact refl.congr fun _ => Rounds.zero_iff.symm
  | succ count hypothesis =>
      rw [funext (iterate_succ count)]
      exact (carries.comp hypothesis).congr fun _ => Rounds.succ_iff.symm

theorem saturate
    (carries : Carries size advance reach)
    (most : Nat) :
    Carries size (Pattern.saturate advance most)
      (fun i j => ∃ count ≤ most, Rounds reach count i j) := by
  induction most with
  | zero => exact refl.congr fun _ => by simp [Rounds.zero_iff]
  | succ most hypothesis =>
      rw [funext (saturate_succ most)]
      refine ((refl.union carries).comp hypothesis).congr fun _ => ?_
      constructor
      · rintro ⟨k, rfl | head, count, bound, rounds⟩
        · exact ⟨count, by omega, rounds⟩
        · exact ⟨count + 1, by omega, .again head rounds⟩
      · rintro ⟨count, bound, rounds⟩
        cases rounds with
        | none => exact ⟨_, .inl rfl, 0, Nat.zero_le _, .none⟩
        | again head tail => exact ⟨_, .inr head, _, by omega, tail⟩

end Carries

/-! ## Plans -/

/-- The bounds of a repetition are in order. -/
def BoundsInOrder (least : Nat) (most : Option Nat) : Prop :=
  ∀ limit ∈ most, least ≤ limit

/-- The bounds of every repetition in an expression are in order. -/
def Expr.InOrder : Expr → Prop
  | .empty => True
  | .chars _ => True
  | .look _ => True
  | .seq first second => first.InOrder ∧ second.InOrder
  | .alt left right => left.InOrder ∧ right.InOrder
  | .repeated body least most => BoundsInOrder least most ∧ body.InOrder
  | .capture body => body.InOrder

variable {subject : Text} {i j : Nat}

theorem carries_step (members : Unicode.CodePoints) :
    Carries subject.length ((Expr.chars members).plan subject).ends
      (Spans (.chars members) subject) where
  stays spans _ := spans.bounds.2
  testBit_iff := by
    intro marks _ j
    simp only [Expr.plan, Plan.ends, spans_chars_iff]
    cases j with
    | zero => simp
    | succ j =>
        have shifted : ((marks &&& marksOf (subject.map members.hasChar)) <<< 1).testBit (j + 1) =
            (marks.testBit j && (subject[j]?.map members.hasChar).getD false) := by
          simp [Nat.testBit_shiftLeft, testBit_marksOf]
        rw [shifted]
        cases here : subject[j]? with
        | none => simp +contextual [here]
        | some c => simp +contextual [here]

theorem carries_guard (condition : Look) :
    Carries subject.length ((Expr.look condition).plan subject).ends
      (Spans (.look condition) subject) where
  stays spans _ := spans.bounds.2
  testBit_iff := by
    intro marks inside j
    simp only [Expr.plan, Plan.ends, spans_look_iff, Nat.testBit_and, Bool.and_eq_true,
      testBit_marksOf, List.getElem?_map]
    constructor
    · rintro ⟨marked, holds⟩
      rw [getElem?_gaps (inside j marked)] at holds
      exact ⟨j, marked, rfl, inside j marked, holds⟩
    · rintro ⟨i, marked, rfl, within, holds⟩
      rw [getElem?_gaps within]
      exact ⟨marked, holds⟩

/-- Behind the rounds that are asked for, at most as many rounds as the plan of a repetition
allows lead to every position that the repetition leads to. -/
theorem spans_repeated_iff_rounds
    {body : Expr}
    {least : Nat}
    {most : Option Nat}
    (ordered : BoundsInOrder least most)
    (inside : i ≤ subject.length) :
    Spans (.repeated body least most) subject i j ↔
      ∃ k, Rounds (Spans body subject) least i k ∧
        ∃ count ≤ (most.map (· - least)).getD subject.length,
          Rounds (Spans body subject) count k j := by
  constructor
  · intro spans
    obtain ⟨_, count, enough, limited, rounds⟩ := spans_repeated_iff.1 spans
    obtain ⟨more, rfl⟩ := Nat.exists_eq_add_of_le enough
    obtain ⟨k, front, back⟩ := Rounds.add_iff.1 rounds
    refine ⟨k, front, ?_⟩
    cases most with
    | some limit =>
        have bound := limited limit rfl
        exact ⟨more, by simp only [Option.map_some, Option.getD_some]; omega, back⟩
    | none =>
        -- Without a limit, rounds that stay in place can be left out.
        obtain ⟨_, fewer, bound, kept⟩ := Rounds.exists_le_sub (fun spans => spans.bounds.1) back
        have last : j ≤ subject.length := spans.bounds.2
        exact ⟨fewer, by simp only [Option.map_none, Option.getD_none]; omega, kept⟩
  · rintro ⟨k, front, more, bound, back⟩
    refine spans_repeated_iff.2
      ⟨inside, least + more, Nat.le_add_right _ _, ?_, Rounds.add_iff.2 ⟨k, front, back⟩⟩
    rintro limit given
    obtain rfl := Option.mem_def.1 given
    have least_le := ordered limit rfl
    simp only [Option.map_some, Option.getD_some] at bound
    omega

/-- A plan carries positions along the spans of its expression. -/
theorem Expr.carries_plan
    {expr : Expr}
    (ordered : expr.InOrder) :
    Carries subject.length (expr.plan subject).ends (Spans expr subject) := by
  induction expr with
  | empty =>
      exact Carries.refl.congr fun inside => by simp [spans_empty_iff, inside]
  | chars members => exact carries_step members
  | look condition => exact carries_guard condition
  | seq first second firstHypothesis secondHypothesis =>
      exact ((firstHypothesis ordered.1).comp (secondHypothesis ordered.2)).congr
        fun _ => spans_seq_iff.symm
  | alt left right leftHypothesis rightHypothesis =>
      exact ((leftHypothesis ordered.1).union (rightHypothesis ordered.2)).congr
        fun _ => spans_alt_iff.symm
  | repeated body least most hypothesis =>
      have inner := hypothesis ordered.2
      exact ((inner.iterate least).comp (inner.saturate _)).congr
        fun inside => (spans_repeated_iff_rounds ordered.1 inside).symm
  | capture body hypothesis =>
      exact (hypothesis ordered).congr fun _ => spans_capture_iff.symm

theorem testBit_allPositions (i : Nat) :
    (allPositions subject).testBit i = decide (i ≤ subject.length) := by
  rw [allPositions, Nat.pow_eq, Nat.testBit_two_pow_sub_one]
  exact decide_eq_decide.2 Nat.lt_succ_iff

/-- A search succeeds exactly when the expression matches some word of the subject. -/
theorem Expr.occursIn_iff
    {expr : Expr}
    (ordered : expr.InOrder) :
    expr.occursIn subject = true ↔
      ∃ before word after, subject = before ++ word ++ after ∧
        Matches expr before word after := by
  have inside : Within subject.length (allPositions subject) := by
    intro i marked
    simpa [testBit_allPositions] using marked
  have carries : Carries subject.length (expr.plan subject).ends (Spans expr subject) :=
    Expr.carries_plan ordered
  have ends := carries.testBit_iff inside
  rw [occursIn, bne_iff_ne]
  constructor
  · intro reached
    obtain ⟨j, marked⟩ := Nat.exists_testBit_of_ne_zero reached
    obtain ⟨i, _, before, word, after, shape, _, _, found⟩ := (ends j).1 marked
    exact ⟨before, word, after, shape, found⟩
  · rintro ⟨before, word, after, shape, found⟩ nowhere
    have marked := (ends _).2 ⟨before.length, by simp [testBit_allPositions, shape],
      before, word, after, shape, rfl, rfl, found⟩
    rw [nowhere, Nat.zero_testBit] at marked
    cases marked

end Pattern
end PageCheck
