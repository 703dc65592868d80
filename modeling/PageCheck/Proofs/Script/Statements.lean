import PageCheck.Proofs.Script.Values
import PageCheck.Proofs.Text.Number
import PageCheck.Script.Writer

/-!
# Statements that are written and read back

The tokens that a statement is written with are read as that statement: the texts give
their values back, the signs of modifiers give the modifiers back in any order, and a
header argument never goes on in a sign.
-/

namespace PageCheck

open Results

/-! ## Signs of modifiers -/

/-- The signs stand for the modifiers of a set, each once and in any order. -/
structure Modifiers.SignedBy (modifiers : Modifiers) (signs : List Modifier) : Prop where
  distinct : signs.Nodup
  complete : ∀ modifier, modifiers.has modifier = true ↔ modifier ∈ signs

@[simp] theorem Modifiers.has_insert
    (modifiers : Modifiers)
    (added modifier : Modifier) :
    (modifiers.insert added).has modifier =
      (modifiers.has modifier || decide (added = modifier)) := by
  rw [insert, has_union, has_only]

namespace Statement

variable {scope : Variables} {command : Command}

/-- Signs are read behind other modifiers as the set of all of them. -/
theorem readModifiers_ofSign
    {seen modifiers : Modifiers}
    {signs : List Modifier}
    (distinct : signs.Nodup)
    (fresh : ∀ modifier ∈ signs, seen.has modifier = false)
    (complete : ∀ modifier, modifiers.has modifier = true ↔
      seen.has modifier = true ∨ modifier ∈ signs) :
    readModifiers command seen (signs.map Token.ofSign) = .ok modifiers := by
  induction signs generalizing seen with
  | nil =>
      have same : seen = modifiers := by
        apply Modifiers.ext_has
        intro modifier
        rw [Bool.eq_iff_iff, complete]
        simp
      rw [List.map_nil, readModifiers, same]
  | cons sign signs hypothesis =>
      rw [List.nodup_cons] at distinct
      have unseen := fresh sign List.mem_cons_self
      rw [List.map_cons, readModifiers, Token.modifier?_ofSign]
      simp only [unseen, Bool.false_eq_true, if_false]
      apply hypothesis distinct.2
      · intro modifier inside
        have different : sign ≠ modifier := by
          rintro rfl
          exact distinct.1 inside
        rw [Modifiers.has_insert, fresh modifier (List.mem_cons_of_mem sign inside)]
        simpa using different
      · intro modifier
        rw [complete, Modifiers.has_insert, List.mem_cons, Bool.or_eq_true,
          decide_eq_true_eq, or_assoc, @eq_comm _ sign modifier]

/-- The signs of a set of modifiers are read as that set. -/
theorem readModifiers_of_signedBy
    {modifiers : Modifiers}
    {signs : List Modifier}
    (signed : modifiers.SignedBy signs) :
    readModifiers command .none (signs.map Token.ofSign) = .ok modifiers := by
  apply readModifiers_ofSign signed.distinct
  · intro modifier _
    exact Modifiers.has_none modifier
  · intro modifier
    rw [signed.complete modifier, Modifiers.has_none]
    simp

/-! ## Arguments -/

/-- A text in double quotes is read as that text. -/
theorem value_ofText
    {text : Text}
    (literal : ¬ Value.HasReference text) :
    value scope (Token.ofText text) = .ok text := by
  rw [value, Token.ofText, Value.resolve_write literal, ok_mapError]

/-- A header argument that nothing but modifiers can follow is the value of its first token,
even if that ends with a colon. -/
theorem readHeader_of_value
    {first : Token}
    {header : Text}
    {rest : List Token}
    {allowsModifiers : Bool}
    (valued : value scope first = .ok header)
    (signs : ∀ second ∈ rest.head?, (allowsModifiers && second.modifier?.isSome) = true) :
    readHeader scope allowsModifiers first rest = .ok (header, rest) := by
  rw [readHeader, valued, ok_do]
  cases rest with
  | nil => rfl
  | cons second behind =>
      simp only [signs second rfl, Bool.not_true, Bool.false_eq_true, and_false, if_false]
      rfl

/-- A header argument that ends with a colon goes on in a token that is no modifier. -/
theorem readHeader_of_colon
    {first second : Token}
    {front back : Text}
    {behind : List Token}
    (valued : value scope first = .ok front)
    (colon : front.getLast? = some ':')
    (plain : second.modifier? = none)
    (valuedNext : value scope second = .ok back)
    (allowsModifiers : Bool) :
    readHeader scope allowsModifiers first (second :: behind) =
      .ok (front ++ [' '] ++ back, behind) := by
  rw [readHeader, valued, ok_do]
  simp only [colon, plain, Option.isSome_none, Bool.and_false, Bool.not_false, and_self, if_true,
    valuedNext, ok_do]
  rfl

/-- Signs are nothing but modifiers. -/
theorem isSome_modifier?_of_mem_head?
    {signs : List Modifier}
    {second : Token}
    (first : second ∈ (signs.map Token.ofSign).head?) :
    second.modifier?.isSome = true := by
  cases signs with
  | nil => cases first
  | cons sign signs =>
      cases first
      simp

/-- A status code within the limit is read from its decimal digits. -/
theorem readStatusCode_ofNat
    {code : Nat}
    (bounded : code ≤ statusCodeLimit) :
    readStatusCode (Text.ofNat code) = .ok code := by
  rw [readStatusCode, Text.readNumber_ofNat bounded, ok_mapError]

/-! ## Lines -/

/-- The tokens of an expectation are read as that expectation with the modifiers that
the signs stand for. -/
theorem readExpectation_tokens
    {expectation : Expectation}
    {modifiers : Modifiers}
    {signs : List Modifier}
    {kind : AssertionCommand}
    (known : expectation.command = .assertion kind)
    (literal : ∀ text ∈ expectation.arguments, ¬ Value.HasReference text)
    (bounded : ∀ code, expectation = .statusCode code → code ≤ statusCodeLimit)
    (signed : modifiers.SignedBy signs) :
    readExpectation scope kind
        (expectation.arguments.map Token.ofText ++ signs.map Token.ofSign) =
      .ok (.expect expectation modifiers) := by
  have modified : ∀ command, readModifiers command .none (signs.map Token.ofSign) =
      .ok modifiers := fun command => readModifiers_of_signedBy signed
  cases expectation with
  | statusCode code =>
      cases known
      have valued := @value_ofText scope _ (literal _ List.mem_cons_self)
      have number := readStatusCode_ofNat (bounded code rfl)
      simp only [readExpectation, Expectation.arguments, List.map_cons, List.map_nil,
        List.cons_append, List.nil_append, takeArgument, ok_do, modified, valued, number, ok_map]
      rfl
  | contains text | containsNot text | equals text =>
      cases known
      have valued := @value_ofText scope _ (literal _ List.mem_cons_self)
      simp only [readExpectation, Expectation.arguments, List.map_cons, List.map_nil,
        List.cons_append, List.nil_append, takeArgument, ok_do, modified, valued]
      rfl
  | empty =>
      cases known
      simp only [readExpectation, Expectation.arguments, List.map_nil, List.nil_append,
        modified, ok_do]
      rfl
  | header argument =>
      cases known
      have valued := @readHeader_of_value scope (Token.ofText argument) argument
        (signs.map Token.ofSign) true (value_ofText (literal _ List.mem_cons_self))
        fun _ first => isSome_modifier?_of_mem_head? first
      simp only [readExpectation, Expectation.arguments, List.map_cons, List.map_nil,
        List.cons_append, List.nil_append, takeArgument, ok_do, modified, valued]
      rfl

/-- The tokens of a change are read as that change. -/
theorem readChange_tokens
    {wanted : Change}
    {kind : ModifierCommand}
    (known : wanted.command = .modifier kind)
    (literal : ∀ text ∈ wanted.arguments, ¬ Value.HasReference text) :
    readChange scope kind (wanted.arguments.map Token.ofText) = .ok (.change wanted) := by
  cases wanted with
  | header line =>
      cases known
      have valued := @readHeader_of_value scope (Token.ofText line) line [] false
        (value_ofText (literal _ List.mem_cons_self)) (by simp)
      simp only [readChange, Change.arguments, List.map_cons, List.map_nil, takeArgument,
        ok_do, valued, rejectExtra]
      rfl
  | parameter name text | file name text =>
      cases known
      have named := @value_ofText scope _ (literal name List.mem_cons_self)
      have valued := @value_ofText scope _
        (literal text (List.mem_cons_of_mem name List.mem_cons_self))
      simp only [readChange, Change.arguments, List.map_cons, List.map_nil, takeArgument,
        ok_do, named, valued, rejectExtra]
      rfl
  | raw content =>
      cases known
      have valued := @value_ofText scope _ (literal content List.mem_cons_self)
      simp only [readChange, Change.arguments, List.map_cons, List.map_nil, takeArgument,
        ok_do, valued, rejectExtra]
      rfl

end Statement
end PageCheck
