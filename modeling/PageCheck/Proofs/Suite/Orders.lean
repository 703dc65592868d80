import Mathlib.Data.List.Pairwise
import Mathlib.Data.List.Perm.Basic
import PageCheck.Proofs.Suite.Requests

/-!
# Request modifiers in every order

A request modifier is checked only against those that were attached before it.  Since
compatibility goes both ways, the order still does not decide whether all of them can be
attached, and it moves the parts of the request without changing them.

One part can depend on the order: of several raw contents the last one is sent.
-/

namespace PageCheck

/-! ## Requests up to the order of their parts -/

namespace Body

/-- The shapes of a body. -/
inductive Shape
  | empty
  | raw
  | form
deriving DecidableEq, Repr

/-- The shape of a body. -/
def shape : Body → Shape
  | .empty => .empty
  | .raw _ => .raw
  | .form _ _ => .form

end Body

/-- Two requests of one method and one URL with the same headers, parameters and files,
each in an order of its own, and with bodies of the same shape. -/
structure Request.SameUpToOrder (left right : Request) : Prop where
  method_eq : left.method = right.method
  url_eq : left.url = right.url
  headers_perm : left.headers.Perm right.headers
  parameters_perm : left.body.parameters.Perm right.body.parameters
  files_perm : left.body.files.Perm right.body.files
  shape_eq : left.body.shape = right.body.shape

namespace RequestModifier

/-- Modifiers that a method admits, and any two of which are compatible. -/
structure FitTogether (method : Method) (modifiers : List RequestModifier) : Prop where
  allowed : ∀ modifier ∈ modifiers, modifier.isAllowedFor method = true
  compatible : ∀ left ∈ modifiers, ∀ right ∈ modifiers, left.isCompatibleWith right = true

variable {modifiers others : List RequestModifier} {body other : Body}

/-- Compatibility goes both ways and holds of every modifier and itself, so it is enough that
each modifier is compatible with those before it. -/
theorem pairwise_isCompatibleWith_iff :
    (modifiers.Pairwise fun earlier later => later.isCompatibleWith earlier = true) ↔
      ∀ left ∈ modifiers, ∀ right ∈ modifiers, left.isCompatibleWith right = true := by
  have symmetric : Std.Symm fun earlier later : RequestModifier =>
      later.isCompatibleWith earlier = true := by
    constructor
    intro earlier later fits
    rwa [isCompatibleWith_comm]
  constructor
  · intro pairs left insideLeft right insideRight
    exact pairs.forall_of_forall (fun other _ => other.isCompatibleWith_self)
      insideRight insideLeft
  · intro all
    exact List.pairwise_of_forall_mem_list fun earlier inside later insideToo =>
      all later insideToo earlier inside

/-- Whether modifiers fit together does not depend on their order. -/
theorem fitTogether_congr
    {method : Method}
    (perm : modifiers.Perm others) :
    FitTogether method modifiers ↔ FitTogether method others := by
  constructor
  · rintro ⟨allowed, compatible⟩
    simp only [perm.mem_iff] at allowed compatible
    exact ⟨allowed, compatible⟩
  · rintro ⟨allowed, compatible⟩
    simp only [← perm.mem_iff] at allowed compatible
    exact ⟨allowed, compatible⟩

/-- The modifiers decide the shape of the body, whatever their order. -/
theorem Gives.shape_eq
    (gives : Gives modifiers body) :
    body.shape =
      if modifiers.any isRaw then .raw else if modifiers.any isForm then .form else .empty := by
  cases gives with
  | @raw front back content split last noForm =>
      have someRaw : modifiers.any isRaw = true := by simp [split, isRaw]
      rw [if_pos someRaw]
      rfl
  | form someForm noRaw =>
      have withoutRaw : ¬ modifiers.any isRaw = true := by simpa using noRaw
      rw [if_neg withoutRaw, if_pos (List.any_eq_true.2 someForm)]
      rfl
  | empty noBody =>
      have parts := fun other inside => Bool.or_eq_false_iff.1 (noBody other inside)
      have withoutForm : ¬ modifiers.any isForm = true := by
        simpa using fun other inside => (parts other inside).1
      have withoutRaw : ¬ modifiers.any isRaw = true := by
        simpa using fun other inside => (parts other inside).2
      rw [if_neg withoutRaw, if_neg withoutForm]
      rfl

/-- In another order, the modifiers give a body of the same shape. -/
theorem Gives.shape_eq_of_perm
    (gives : Gives modifiers body)
    (givesOther : Gives others other)
    (perm : modifiers.Perm others) :
    body.shape = other.shape := by
  rw [gives.shape_eq, givesOther.shape_eq, perm.any_eq, perm.any_eq]

end RequestModifier

/-- Requests that carry the same modifiers in different orders differ only in the order of
their parts. -/
theorem Request.Carries.sameUpToOrder
    {method : Method}
    {url : Url}
    {modifiers others : List RequestModifier}
    {left right : Request}
    (carries : left.Carries method url modifiers)
    (carriesOther : right.Carries method url others)
    (perm : modifiers.Perm others) :
    left.SameUpToOrder right where
  method_eq := carries.method_eq.trans carriesOther.method_eq.symm
  url_eq := carries.url_eq.trans carriesOther.url_eq.symm
  headers_perm := by
    rw [carries.headers_eq, carriesOther.headers_eq]
    exact perm.filterMap _
  parameters_perm := by
    rw [carries.body.parts_eq.1, carriesOther.body.parts_eq.1]
    exact perm.filterMap _
  files_perm := by
    rw [carries.body.parts_eq.2, carriesOther.body.parts_eq.2]
    exact perm.filterMap _
  shape_eq := carries.body.shape_eq_of_perm carriesOther.body perm

/-! ## Attaching a list of modifiers -/

namespace TestCase

variable {testCase built : TestCase} {modifiers others : List RequestModifier}

/-- All the modifiers of a list can be attached to a test case without any exactly if they
fit together. -/
theorem exists_foldlM_addModifier_iff
    (bare : testCase.modifiers = []) :
    (∃ built, modifiers.foldlM addModifier testCase = .ok built) ↔
      RequestModifier.FitTogether testCase.method modifiers := by
  simp only [foldlM_addModifier_eq_ok_iff]
  constructor
  · rintro ⟨_, allowed, -, pairs, -⟩
    exact ⟨allowed, RequestModifier.pairwise_isCompatibleWith_iff.1 pairs⟩
  · rintro ⟨allowed, compatible⟩
    have pairs := RequestModifier.pairwise_isCompatibleWith_iff.2 compatible
    refine ⟨_, allowed, fun modifier _ => ?_, pairs, rfl⟩
    rw [bare]
    exact List.forall_mem_nil _

/-- The request that attaching a list to a test case without modifiers leads to carries the
modifiers of the list. -/
theorem carries_of_attached
    (bare : testCase.modifiers = [])
    (attached : modifiers.foldlM addModifier testCase = .ok built) :
    built.request.Carries testCase.method testCase.url modifiers := by
  obtain ⟨allowed, -, pairs, rfl⟩ := foldlM_addModifier_eq_ok_iff.1 attached
  have consistent : { testCase with modifiers := modifiers }.Consistent := ⟨allowed, pairs⟩
  rw [bare, List.nil_append]
  exact consistent.carries

/-- All the modifiers of a list can be attached to a test case without any exactly if they can
be attached in another order, namely if they fit together, and then the two requests differ
only in the order of their parts. -/
theorem attachable_in_every_order
    (bare : testCase.modifiers = [])
    (perm : modifiers.Perm others) :
    ((∃ built, modifiers.foldlM addModifier testCase = .ok built) ↔
      ∃ rearranged, others.foldlM addModifier testCase = .ok rearranged) ∧
    ((∃ built, modifiers.foldlM addModifier testCase = .ok built) ↔
      RequestModifier.FitTogether testCase.method modifiers) ∧
    ∀ built rearranged,
      modifiers.foldlM addModifier testCase = .ok built →
      others.foldlM addModifier testCase = .ok rearranged →
      built.request.SameUpToOrder rearranged.request := by
  refine ⟨?_, exists_foldlM_addModifier_iff bare, ?_⟩
  · rw [exists_foldlM_addModifier_iff bare, exists_foldlM_addModifier_iff bare,
      RequestModifier.fitTogether_congr perm]
  · intro built rearranged attached attachedToo
    exact (carries_of_attached bare attached).sameUpToOrder
      (carries_of_attached bare attachedToo) perm

/-- Two raw contents and two headers in two orders can be attached, and each order sends
the raw content that comes last in it. -/
theorem attachable_in_every_order_raws_and_headers :
    ∃ built rearranged,
      [.raw "left", .header "Accept" "a", .raw "right", .header "Accept" "b"].foldlM addModifier
        (fresh ⟨"main.webunit", 1⟩ .post default) = .ok built ∧
      [.header "Accept" "b", .raw "right", .raw "left", .header "Accept" "a"].foldlM addModifier
        (fresh ⟨"main.webunit", 1⟩ .post default) = .ok rearranged ∧
      built.request.SameUpToOrder rearranged.request ∧
      built.request.body = .raw "right" ∧
      rearranged.request.body = .raw "left" := by
  have bare : (fresh ⟨"main.webunit", 1⟩ .post default).modifiers = [] := rfl
  have perm : [RequestModifier.raw "left", .header "Accept" "a", .raw "right",
      .header "Accept" "b"].Perm
      [.header "Accept" "b", .raw "right", .raw "left", .header "Accept" "a"] := by
    decide
  refine ⟨_, _, rfl, rfl, ?_, rfl, rfl⟩
  exact (attachable_in_every_order bare perm).2.2 _ _ rfl rfl

end TestCase
end PageCheck
