import PageCheck.Proofs.Pattern.Anchoring
import PageCheck.Proofs.Pattern.Search

/-!
# Bounds of repetitions

A pattern with a repetition of more than its greatest number of rounds is not read.  Hence the
bounds of every repetition in a tree that was read are in order, and resolving keeps them.
-/

namespace PageCheck
namespace Pattern

variable {ignoring : Bool} {text after : Text} {least : Nat} {most : Option Nat}

/-! ## Repetitions that are read -/

theorem endRepetition_boundsInOrder
    {read : Nat × Option Nat × Text}
    (found : endRepetition ignoring least most text = some read) :
    BoundsInOrder read.1 read.2.1 := by
  unfold endRepetition at found
  split at found
  · split_ifs at found with ordered
    cases found
    simpa [BoundsInOrder, Option.all_eq_true] using ordered
  · cases found

theorem readMost_boundsInOrder
    {read : Nat × Option Nat × Text}
    (found : readMost ignoring least text = some read) :
    BoundsInOrder read.1 read.2.1 := by
  unfold readMost at found
  split at found
  · exact endRepetition_boundsInOrder found
  · split at found
    · exact endRepetition_boundsInOrder found
    · cases found

theorem readRepetition_boundsInOrder
    {read : Nat × Option Nat × Text}
    (found : readRepetition ignoring text = some read) :
    BoundsInOrder read.1 read.2.1 := by
  rw [readRepetition_eq] at found
  split at found
  · exact readMost_boundsInOrder found
  · exact endRepetition_boundsInOrder found
  · cases found

/-! ## Trees that are read -/

namespace Node

mutual

/-- The bounds of every repetition in a tree are in order. -/
def InOrder : Node → Prop
  | .repeated body least most => BoundsInOrder least most ∧ body.InOrder
  | .group _ _ body => body.InOrder
  | .alternatives branches => InOrderAll branches
  | .sequence items => InOrderAll items
  | _ => True

/-- The bounds of every repetition in some trees are in order. -/
def InOrderAll : List Node → Prop
  | [] => True
  | node :: rest => node.InOrder ∧ InOrderAll rest

end

theorem inOrderAll_iff {nodes : List Node} :
    InOrderAll nodes ↔ ∀ node ∈ nodes, node.InOrder := by
  induction nodes with
  | nil => simp [InOrderAll]
  | cons node rest hypothesis => simp [InOrderAll, hypothesis]

theorem inOrder_ofItems
    {items : List Node}
    (ordered : ∀ item ∈ items, item.InOrder) :
    (ofItems items).InOrder := by
  unfold ofItems
  split
  · trivial
  · exact ordered _ List.mem_cons_self
  · exact inOrderAll_iff.2 ordered

theorem inOrder_ofBranches
    {branches : List Node}
    (ordered : ∀ branch ∈ branches, branch.InOrder) :
    (ofBranches branches).InOrder := by
  unfold ofBranches
  split
  · exact ordered _ List.mem_cons_self
  · exact inOrderAll_iff.2 ordered

end Node

/-- The bounds of repetitions in a part are in order. -/
def Part.InOrder : Part → Prop
  | .item node => node.InOrder
  | .repetition least most => BoundsInOrder least most
  | _ => True

theorem scanPart_inOrder
    {part : Part}
    (found : scanPart ignoring text = some (part, after)) :
    part.InOrder := by
  unfold scanPart at found
  split at found
  case h_1 => cases found
  case h_2 =>
    obtain ⟨read, _, same⟩ := Option.map_eq_some_iff.1 found
    cases same
    trivial
  case h_5 =>
    obtain ⟨read, _, same⟩ := Option.map_eq_some_iff.1 found
    cases same
    trivial
  case h_9 =>
    obtain ⟨read, repeats, same⟩ := Option.map_eq_some_iff.1 found
    cases same
    exact readRepetition_boundsInOrder repeats
  case h_10 =>
    obtain ⟨⟨escape, rest⟩, _, same⟩ := Option.map_eq_some_iff.1 found
    cases same
    cases escape <;> trivial
  all_goals
    cases found
    simp [Part.InOrder, BoundsInOrder, Node.InOrder]

namespace ReaderState

/-- The bounds of all repetitions that have been read are in order. -/
structure InOrder (state : ReaderState) : Prop where
  branches : ∀ node ∈ state.branches, node.InOrder
  items : ∀ node ∈ state.items, node.InOrder
  frames : ∀ frame ∈ state.stack,
    (∀ node ∈ frame.branches, node.InOrder) ∧ ∀ node ∈ frame.items, node.InOrder

namespace InOrder

variable {state next : ReaderState}

theorem branch (ordered : state.InOrder) : (Node.ofItems state.items.reverse).InOrder :=
  Node.inOrder_ofItems fun node inside => ordered.items node (List.mem_reverse.1 inside)

theorem body (ordered : state.InOrder) : state.body.InOrder := by
  refine Node.inOrder_ofBranches fun node inside => ?_
  rcases List.mem_cons.1 (List.mem_reverse.1 inside) with rfl | earlier
  · exact ordered.branch
  · exact ordered.branches node earlier

theorem push
    (ordered : state.InOrder)
    {item : Node}
    (itemOrdered : item.InOrder) :
    (state.push item).InOrder where
  branches := ordered.branches
  items := List.forall_mem_cons.2 ⟨itemOrdered, ordered.items⟩
  frames := ordered.frames

theorem openGroup
    (ordered : state.InOrder)
    (captures : Bool)
    (settings : Settings) :
    (state.openGroup captures settings).InOrder where
  branches := by simp [ReaderState.openGroup]
  items := by simp [ReaderState.openGroup]
  frames := List.forall_mem_cons.2 ⟨⟨ordered.branches, ordered.items⟩, ordered.frames⟩

theorem closeGroup?
    (ordered : state.InOrder)
    (closed : state.closeGroup? = some next) :
    next.InOrder := by
  unfold ReaderState.closeGroup? at closed
  split at closed
  · cases closed
  · rename_i frame stack frames
    cases closed
    have waiting := ordered.frames
    rw [frames, List.forall_mem_cons] at waiting
    exact ⟨waiting.1.1, List.forall_mem_cons.2 ⟨ordered.body, waiting.1.2⟩, waiting.2⟩

theorem repeatLast?
    (ordered : state.InOrder)
    (bounds : BoundsInOrder least most)
    (repeated : state.repeatLast? least most = some next) :
    next.InOrder := by
  unfold ReaderState.repeatLast? at repeated
  split at repeated
  · cases repeated
  · rename_i item items read
    split_ifs at repeated
    cases repeated
    have itemsOrdered := ordered.items
    rw [read, List.forall_mem_cons] at itemsOrdered
    exact ⟨ordered.branches,
      List.forall_mem_cons.2 ⟨⟨bounds, itemsOrdered.1⟩, itemsOrdered.2⟩, ordered.frames⟩

theorem add?
    {part : Part}
    (ordered : state.InOrder)
    (partOrdered : part.InOrder)
    (added : state.add? part = some next) :
    next.InOrder := by
  cases part with
  | item node =>
      cases added
      exact ordered.push partOrdered
  | opening start =>
      cases start with
      | settings changes =>
          cases added
          have pushed : (state.push (.settings changes)).InOrder := ordered.push trivial
          exact ⟨pushed.branches, pushed.items, pushed.frames⟩
      | group captures changes =>
          cases added
          exact ordered.openGroup captures changes
      | named name =>
          simp only [ReaderState.add?] at added
          split_ifs at added
          cases added
          have opened := ordered.openGroup true []
          exact ⟨opened.branches, opened.items, opened.frames⟩
  | closing => exact ordered.closeGroup? added
  | bar =>
      cases added
      exact ⟨List.forall_mem_cons.2 ⟨ordered.branch, ordered.branches⟩, by simp, ordered.frames⟩
  | repetition least most => exact ordered.repeatLast? partOrdered added

end InOrder
end ReaderState

theorem readParts_inOrder
    {fuel : Nat}
    {state : ReaderState}
    {reading : Reading}
    (ordered : state.InOrder)
    (found : readParts fuel state text = some reading) :
    reading.tree.InOrder := by
  induction fuel generalizing state text with
  | zero => cases found
  | succ fuel hypothesis =>
      cases left : layout state.ignoring text with
      | mk rest cut =>
          cases rest with
          | nil =>
              rw [readParts_of_end left] at found
              split_ifs at found
              cases found
              exact ordered.body
          | cons c rest =>
              rw [readParts_of_part left] at found
              obtain ⟨⟨next, behind⟩, read, further⟩ := Option.bind_eq_some_iff.1 found
              obtain ⟨part, scanned, added⟩ := readPart_eq_some_iff.1 read
              exact hypothesis (ordered.add? (scanPart_inOrder scanned) added) further

/-- The bounds of every repetition in a pattern are in order. -/
theorem read?_inOrder
    {reading : Reading}
    (found : read? text = some reading) :
    reading.tree.InOrder :=
  readParts_inOrder ⟨by simp, by simp, by simp⟩ found

/-! ## Expressions -/

theorem Flags.literal?_inOrder
    {flags : Flags}
    {written : Literal}
    {expr : Expr}
    (found : flags.literal? written = some expr) :
    expr.InOrder := by
  simp only [Flags.literal?] at found
  split_ifs at found
  · cases found
    trivial
  · cases found
    trivial

theorem Flags.anyChar?_inOrder
    {flags : Flags}
    {expr : Expr}
    (found : flags.anyChar? = some expr) :
    expr.InOrder := by
  simp only [Flags.anyChar?] at found
  split_ifs at found
  all_goals
    cases found
    trivial

theorem Expr.inOrder_sequence
    {items : List Expr}
    (ordered : ∀ item ∈ items, item.InOrder) :
    (sequence items).InOrder := by
  induction items with
  | nil => trivial
  | cons item rest hypothesis =>
      rw [List.forall_mem_cons] at ordered
      cases rest with
      | nil => exact ordered.1
      | cons second rest => exact ⟨ordered.1, hypothesis ordered.2⟩

theorem Expr.inOrder_alternatives
    {branches : List Expr}
    (ordered : ∀ branch ∈ branches, branch.InOrder) :
    (alternatives branches).InOrder := by
  induction branches with
  | nil => trivial
  | cons branch rest hypothesis =>
      rw [List.forall_mem_cons] at ordered
      cases rest with
      | nil => exact ordered.1
      | cons second rest => exact ⟨ordered.1, hypothesis ordered.2⟩

mutual

/-- Resolving keeps the bounds of repetitions. -/
theorem Node.inOrder_of_resolve?
    (node : Node)
    {flags : Flags}
    {resolved : Expr × Flags}
    (ordered : node.InOrder)
    (found : node.resolve? flags = some resolved) :
    resolved.1.InOrder := by
  match node with
  | .empty =>
      cases found
      trivial
  | .settings changes =>
      cases found
      trivial
  | .literal written =>
      obtain ⟨expr, chars, rfl⟩ := Option.map_eq_some_iff.1 found
      exact Flags.literal?_inOrder chars
  | .anyChar =>
      obtain ⟨expr, chars, rfl⟩ := Option.map_eq_some_iff.1 found
      exact Flags.anyChar?_inOrder chars
  | .place kind =>
      cases found
      trivial
  | .oneOf members =>
      obtain ⟨set, _, rfl⟩ := Option.map_eq_some_iff.1 found
      trivial
  | .repeated body least most =>
      obtain ⟨inner, read, rfl⟩ := Option.map_eq_some_iff.1 found
      exact ⟨ordered.1, body.inOrder_of_resolve? ordered.2 read⟩
  | .group captures changes body =>
      obtain ⟨inner, read, rfl⟩ := Option.map_eq_some_iff.1 found
      have kept := body.inOrder_of_resolve? ordered read
      cases captures <;> exact kept
  | .alternatives branches =>
      obtain ⟨inner, read, rfl⟩ := Option.map_eq_some_iff.1 found
      exact Expr.inOrder_alternatives (Node.inOrder_of_resolveAll? branches ordered read)
  | .sequence items =>
      obtain ⟨inner, read, rfl⟩ := Option.map_eq_some_iff.1 found
      exact Expr.inOrder_sequence (Node.inOrder_of_resolveAll? items ordered read)

theorem Node.inOrder_of_resolveAll?
    (nodes : List Node)
    {flags : Flags}
    {resolved : List Expr × Flags}
    (ordered : InOrderAll nodes)
    (found : resolveAll? nodes flags = some resolved) :
    ∀ expr ∈ resolved.1, expr.InOrder := by
  match nodes with
  | [] => cases found; simp
  | node :: rest =>
      rw [resolveAll?] at found
      split at found
      · rename_i expr next first
        obtain ⟨others, more, rfl⟩ := Option.map_eq_some_iff.1 found
        exact List.forall_mem_cons.2 ⟨node.inOrder_of_resolve? ordered.1 first,
          Node.inOrder_of_resolveAll? rest ordered.2 more⟩
      · cases found

end

variable {caseInsensitive : Bool}

/-- The bounds of every repetition in the expression of a pattern are in order. -/
theorem compile?_inOrder
    {expr : Expr}
    (compiled : compile? caseInsensitive text = some expr) :
    expr.InOrder := by
  obtain ⟨reading, read, tree, _⟩ := compile?_eq_some_iff.1 compiled
  obtain ⟨_, flags, resolved⟩ := compileTree?_eq_some_iff.1 tree
  exact reading.tree.inOrder_of_resolve? (read?_inOrder read) resolved

end Pattern
end PageCheck
