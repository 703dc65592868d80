import PageCheck.Pattern.Occurrence
import PageCheck.Proofs.Pattern.Search

/-!
# Occurrences are the words furthest to the left

The stops of an expression are where the words that it matches from a place on come to an
end, none of them missing.  Occurrences therefore are words that the expression matches, and
between one of them and the next there is no place from which it matches a word.
-/

namespace PageCheck
namespace Pattern

/-! ## Ends of words -/

/-- The stops that a function leads to are where a relation between places leads to, and this
relation goes forward and stays within a subject. -/
structure Follows
    (size : Nat)
    (advance : Stop → List Stop)
    (reach : Nat → Nat → Prop) : Prop where
  ascends : ∀ {i j}, reach i j → i ≤ j
  stays : ∀ {i j}, reach i j → i ≤ size → j ≤ size
  leads_iff : ∀ {here}, here.place ≤ size → ∀ place,
    (∃ stop ∈ advance here, stop.place = place) ↔ reach here.place place

namespace Follows

variable {size : Nat} {advance further : Stop → List Stop} {reach next : Nat → Nat → Prop}

theorem congr
    (follows : Follows size advance reach)
    (same : ∀ {i j}, i ≤ size → (reach i j ↔ next i j))
    (ascends : ∀ {i j}, next i j → i ≤ j) :
    Follows size advance next where
  ascends := ascends
  stays reached start := follows.stays ((same start).2 reached) start
  leads_iff start place := (follows.leads_iff start place).trans (same start)

theorem comp
    (follows : Follows size advance reach)
    (after : Follows size further next) :
    Follows size (fun here => (advance here).flatMap further)
      (fun i j => ∃ k, reach i k ∧ next k j) where
  ascends := by
    rintro i j ⟨k, front, back⟩
    exact Nat.le_trans (follows.ascends front) (after.ascends back)
  stays := by
    rintro i j ⟨k, front, back⟩ start
    exact after.stays back (follows.stays front start)
  leads_iff := by
    intro here start place
    constructor
    · rintro ⟨stop, member, rfl⟩
      obtain ⟨middle, first, second⟩ := List.mem_flatMap.1 member
      have front := (follows.leads_iff start _).1 ⟨middle, first, rfl⟩
      have inside := follows.stays front start
      exact ⟨middle.place, front, (after.leads_iff inside _).1 ⟨stop, second, rfl⟩⟩
    · rintro ⟨k, front, back⟩
      obtain ⟨middle, first, rfl⟩ := (follows.leads_iff start k).2 front
      have inside := follows.stays front start
      obtain ⟨stop, second, ends⟩ := (after.leads_iff inside place).2 back
      exact ⟨stop, List.mem_flatMap.2 ⟨middle, first, second⟩, ends⟩

theorem refl : Follows size (fun here => [here]) (fun i j => i = j) where
  ascends same := Nat.le_of_eq same
  stays := by
    rintro i j rfl start
    exact start
  leads_iff := by simp

theorem repeatExactly
    (follows : Follows size advance reach)
    (count : Nat) :
    Follows size (Pattern.repeatExactly advance count) (Rounds reach count) := by
  induction count with
  | zero =>
      refine refl.congr (fun _ => Rounds.zero_iff.symm) ?_
      exact fun rounds => Nat.le_of_eq (Rounds.zero_iff.1 rounds)
  | succ count hypothesis =>
      refine (follows.comp hypothesis).congr (fun _ => Rounds.succ_iff.symm) ?_
      exact fun rounds => (Rounds.exists_le_sub follows.ascends rounds).1

theorem union
    (follows : Follows size advance reach)
    (other : Follows size further next) :
    Follows size (fun here => advance here ++ further here)
      (fun i j => reach i j ∨ next i j) where
  ascends := by
    rintro i j (reached | reached)
    · exact follows.ascends reached
    · exact other.ascends reached
  stays := by
    rintro i j (reached | reached) start
    · exact follows.stays reached start
    · exact other.stays reached start
  leads_iff := by
    intro here start place
    simp only [List.mem_append, or_and_right, exists_or, follows.leads_iff start,
      other.leads_iff start]

/-- Rounds that stay in their place can be left out, and so what is reached by a number of
rounds is reached without them. -/
theorem exists_mem_repeatAtMost
    (follows : Follows size advance reach)
    {count j : Nat}
    {here : Stop}
    (rounds : Rounds reach count here.place j)
    {most : Nat}
    (bound : count ≤ most)
    (start : here.place ≤ size) :
    ∃ stop ∈ Pattern.repeatAtMost advance most here, stop.place = j := by
  generalize begun : here.place = i at rounds
  induction rounds generalizing here most with
  | none =>
      subst begun
      cases most with
      | zero => exact ⟨here, List.mem_singleton_self here, rfl⟩
      | succ most => exact ⟨here, List.mem_append_right _ (List.mem_singleton_self here), rfl⟩
  | @again count i k j head tail hypothesis =>
      subst begun
      obtain ⟨middle, first, rfl⟩ := (follows.leads_iff start k).2 head
      rcases Nat.eq_or_lt_of_le (follows.ascends head) with same | moved
      · exact hypothesis (by omega) start same
      · obtain ⟨most, rfl⟩ : ∃ fewer, most = fewer + 1 := ⟨most - 1, by omega⟩
        obtain ⟨stop, second, ends⟩ :=
          hypothesis (Nat.le_of_succ_le_succ bound) (follows.stays head start) rfl
        have moves : middle ∈ (advance here).filter fun next => here.place < next.place :=
          List.mem_filter.2 ⟨first, decide_eq_true moved⟩
        exact ⟨stop, List.mem_append_left _ (List.mem_flatMap.2 ⟨middle, moves, second⟩), ends⟩

theorem repeatAtMost
    (follows : Follows size advance reach)
    (most : Nat) :
    Follows size (Pattern.repeatAtMost advance most)
      (fun i j => ∃ count ≤ most, Rounds reach count i j) where
  ascends := by
    rintro i j ⟨count, -, rounds⟩
    exact (Rounds.exists_le_sub follows.ascends rounds).1
  stays := by
    rintro i j ⟨count, -, rounds⟩ start
    exact (follows.repeatExactly count).stays rounds start
  leads_iff := by
    intro here start place
    constructor
    · rintro ⟨stop, member, rfl⟩
      induction most generalizing here with
      | zero =>
          obtain rfl := List.mem_singleton.1 member
          exact ⟨0, Nat.le_refl 0, .none⟩
      | succ most hypothesis =>
          rcases List.mem_append.1 member with more | here
          · obtain ⟨middle, moves, second⟩ := List.mem_flatMap.1 more
            have first := (List.mem_filter.1 moves).1
            have head := (follows.leads_iff start _).1 ⟨middle, first, rfl⟩
            obtain ⟨count, bound, tail⟩ := hypothesis (follows.stays head start) second
            exact ⟨count + 1, Nat.succ_le_succ bound, .again head tail⟩
          · obtain rfl := List.mem_singleton.1 here
            exact ⟨0, Nat.zero_le _, .none⟩
    · rintro ⟨count, bound, rounds⟩
      exact follows.exists_mem_repeatAtMost rounds bound start

end Follows

variable {subject : Text} {expr : Expr} {here stop : Stop} {i j : Nat}

/-- The words behind a front part of a subject start where the front part ends. -/
theorem spans_append_iff {front text : Text} :
    Spans expr (front ++ text) front.length j ↔
      ∃ word after, text = word ++ after ∧ front.length + word.length = j ∧
        Matches expr front word after := by
  constructor
  · rintro ⟨before, word, after, shape, length, ends, found⟩
    rw [List.append_assoc] at shape
    obtain ⟨rfl, rfl⟩ := List.append_inj shape length.symm
    exact ⟨word, after, rfl, ends, found⟩
  · rintro ⟨word, after, rfl, ends, found⟩
    exact ⟨front, word, after, (List.append_assoc _ _ _).symm, rfl, ends, found⟩

theorem spans_ascends : Spans expr subject i j → i ≤ j := fun spans => spans.bounds.1

theorem mem_stops_chars_iff {members : Unicode.CodePoints} :
    stop ∈ (Expr.chars members).stops subject here ↔
      stop = ⟨here.place + 1, here.group⟩ ∧
        ∃ c, subject[here.place]? = some c ∧ members.hasChar c = true := by
  rw [Expr.stops]
  cases found : subject[here.place]? with
  | none => simp
  | some c => cases member : members.hasChar c <;> simp [member]

theorem mem_stops_seq_iff {first second : Expr} :
    stop ∈ (Expr.seq first second).stops subject here ↔
      ∃ middle ∈ first.stops subject here, stop ∈ second.stops subject middle :=
  List.mem_flatMap

theorem follows_chars (members : Unicode.CodePoints) :
    Follows subject.length ((Expr.chars members).stops subject)
      (Spans (.chars members) subject) where
  ascends := spans_ascends
  stays spans _ := spans.bounds.2
  leads_iff := by
    intro here _ place
    rw [spans_chars_iff]
    constructor
    · rintro ⟨stop, member, rfl⟩
      obtain ⟨rfl, here⟩ := mem_stops_chars_iff.1 member
      exact ⟨rfl, here⟩
    · rintro ⟨rfl, here⟩
      exact ⟨_, mem_stops_chars_iff.2 ⟨rfl, here⟩, rfl⟩

theorem follows_look (condition : Look) :
    Follows subject.length ((Expr.look condition).stops subject)
      (Spans (.look condition) subject) where
  ascends := spans_ascends
  stays spans _ := spans.bounds.2
  leads_iff := by
    intro here start place
    simp only [Expr.stops, spans_look_iff, List.head?_drop]
    split
    · next holds => simp [holds, start]
    · next fails => simp [fails]

/-- A group has the bounds of the word that it matches. -/
theorem mem_stops_capture_iff
    {body : Expr}
    (follows : Follows subject.length (body.stops subject) (Spans body subject))
    (start : here.place ≤ subject.length) :
    stop ∈ (Expr.capture body).stops subject here ↔
      ∃ j, Spans body subject here.place j ∧ stop = ⟨j, some (here.place, j)⟩ := by
  rw [Expr.stops, List.mem_map]
  constructor
  · rintro ⟨inner, member, rfl⟩
    exact ⟨inner.place, (follows.leads_iff start _).1 ⟨inner, member, rfl⟩, rfl⟩
  · rintro ⟨j, spans, rfl⟩
    obtain ⟨inner, member, rfl⟩ := (follows.leads_iff start j).2 spans
    exact ⟨inner, member, rfl⟩

/-- The stops of an expression are the ends of the words that it matches. -/
theorem Expr.follows_stops
    (ordered : expr.InOrder) :
    Follows subject.length (expr.stops subject) (Spans expr subject) := by
  induction expr with
  | empty =>
      exact Follows.refl.congr (fun inside => by simp [spans_empty_iff, inside]) spans_ascends
  | chars members => exact follows_chars members
  | look condition => exact follows_look condition
  | seq first second firstHypothesis secondHypothesis =>
      exact ((firstHypothesis ordered.1).comp (secondHypothesis ordered.2)).congr
        (fun _ => spans_seq_iff.symm) spans_ascends
  | alt left right leftHypothesis rightHypothesis =>
      exact ((leftHypothesis ordered.1).union (rightHypothesis ordered.2)).congr
        (fun _ => spans_alt_iff.symm) spans_ascends
  | repeated body least most hypothesis =>
      have inner := hypothesis ordered.2
      exact ((inner.repeatExactly least).comp (inner.repeatAtMost _)).congr
        (fun inside => (spans_repeated_iff_rounds ordered.1 inside).symm) spans_ascends
  | capture body hypothesis =>
      refine ⟨spans_ascends, fun spans _ => spans.bounds.2, ?_⟩
      intro here start place
      simp only [mem_stops_capture_iff (hypothesis ordered) start, spans_capture_iff]
      constructor
      · rintro ⟨stop, ⟨j, spans, rfl⟩, rfl⟩
        exact spans
      · intro spans
        exact ⟨_, ⟨place, spans, rfl⟩, rfl⟩

/-! ## Occurrences -/

/-- Words of a subject behind a free place: the expression matches each of them, and it
matches no word that starts at an earlier place behind the word before. -/
inductive Leftmost (expr : Expr) (subject : Text) : Nat → List Occurrence → Prop
  | none
      {free : Nat}
      (absent : ∀ start stop, free ≤ start → ¬ Spans expr subject start stop) :
      Leftmost expr subject free []
  | next
      {free : Nat} {found : Occurrence} {rest : List Occurrence}
      (behind : free ≤ found.start)
      (spans : Spans expr subject found.start found.stop)
      (first : ∀ start stop, free ≤ start → start < found.start →
        ¬ Spans expr subject start stop)
      (others : Leftmost expr subject found.stop rest) :
      Leftmost expr subject free (found :: rest)

namespace Expr

theorem spans_iff_exists_mem_stops
    (ordered : expr.InOrder)
    (inside : i ≤ subject.length) :
    Spans expr subject i j ↔ ∃ stop ∈ expr.stops subject ⟨i, none⟩, stop.place = j := by
  have start : (⟨i, none⟩ : Stop).place ≤ subject.length := inside
  exact ((follows_stops ordered).leads_iff start j).symm

/-- What is found at a place is a word that the expression matches. -/
theorem spans_of_occurrence?
    {found : Occurrence}
    (ordered : expr.InOrder)
    (inside : i ≤ subject.length)
    (occurs : expr.occurrence? subject i = some found) :
    found.start = i ∧ Spans expr subject i found.stop := by
  obtain ⟨stop, first, rfl⟩ := Option.map_eq_some_iff.1 occurs
  refine ⟨rfl, (spans_iff_exists_mem_stops ordered inside).2 ?_⟩
  exact ⟨stop, List.mem_of_mem_head? first, rfl⟩

/-- A word is found wherever the expression matches one. -/
theorem not_spans_of_occurrence?
    (ordered : expr.InOrder)
    (inside : i ≤ subject.length)
    (absent : expr.occurrence? subject i = none) :
    ¬ Spans expr subject i j := by
  intro spans
  obtain ⟨stop, member, -⟩ := (spans_iff_exists_mem_stops ordered inside).1 spans
  rw [occurrence?, Option.map_eq_none_iff, List.head?_eq_none_iff] at absent
  rw [absent] at member
  cases member

/-- Places in front of the first free one are passed over. -/
theorem occurrencesAt_append
    {free : Nat}
    {covered : List Nat}
    (before : ∀ place ∈ covered, place < free)
    (places : List Nat) :
    expr.occurrencesAt subject free (covered ++ places) =
      expr.occurrencesAt subject free places := by
  induction covered with
  | nil => rfl
  | cons place covered hypothesis =>
      rw [List.forall_mem_cons] at before
      rw [List.cons_append, occurrencesAt, if_pos before.1, hypothesis before.2]

/-- Behind a word that is found, the search goes on from the end of the word. -/
theorem occurrencesAt_range'
    {free place width : Nat}
    {found : Occurrence}
    (uncovered : free ≤ place)
    (occurs : expr.occurrence? subject place = some found)
    (ends : place + 1 + width = found.stop)
    (count : Nat) :
    expr.occurrencesAt subject free (List.range' place (width + count + 1)) =
      found :: expr.occurrencesAt subject found.stop (List.range' found.stop count) := by
  have covered : ∀ inside ∈ List.range' (place + 1) width, inside < found.stop := by
    intro inside member
    rw [← ends]
    exact (List.mem_range'_1.1 member).2
  rw [List.range'_succ, occurrencesAt, if_neg (Nat.not_lt.2 uncovered), occurs,
    List.cons_inj_right, ← List.range'_append_1, occurrencesAt_append covered, ends]

/-- From a free place on, the words furthest to the left are found, as long as all words have
a character. -/
theorem leftmost_occurrencesAt
    (ordered : expr.InOrder)
    (filled : ∀ i, ¬ Spans expr subject i i)
    {free place count : Nat}
    (size : place + count = subject.length + 1)
    (absent : ∀ start stop, free ≤ start → start < place → ¬ Spans expr subject start stop) :
    Leftmost expr subject free
      (expr.occurrencesAt subject free (List.range' place count)) := by
  induction count generalizing free place with
  | zero =>
      refine .none ?_
      intro start stop behind spans
      have bounds := spans.bounds
      exact absent start stop behind (by omega) spans
  | succ count hypothesis =>
      rw [List.range'_succ, occurrencesAt]
      have inside : place ≤ subject.length := by omega
      have later : place + 1 + count = subject.length + 1 := by omega
      split
      · next covered =>
          apply hypothesis later
          intro start stop behind _
          exact absent start stop behind (by omega)
      · next uncovered =>
          split
          · next found occurs =>
              obtain ⟨rfl, spans⟩ := spans_of_occurrence? ordered inside occurs
              refine .next (Nat.le_of_not_lt uncovered) spans absent (hypothesis later ?_)
              -- The word has a character, so that no place lies between its start and its end.
              intro start stop behind before
              have bounds := spans.bounds
              have moved : found.start ≠ found.stop := fun same => filled _ (same ▸ spans)
              omega
          · next nothing =>
              apply hypothesis later
              intro start stop behind before
              rcases Nat.eq_or_lt_of_le (Nat.le_of_lt_succ before) with rfl | earlier
              · exact not_spans_of_occurrence? ordered inside nothing
              · exact absent start stop behind earlier

/-- The occurrences of an expression are the words furthest to the left that do not overlap. -/
theorem leftmost_occurrences
    (ordered : expr.InOrder)
    (filled : ∀ i, ¬ Spans expr subject i i) :
    Leftmost expr subject 0 (expr.occurrences subject) := by
  rw [occurrences, List.range_eq_range']
  exact leftmost_occurrencesAt ordered filled (Nat.zero_add _) fun _ _ _ before =>
    absurd before (Nat.not_lt_zero _)

end Expr
end Pattern
end PageCheck
