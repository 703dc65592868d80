import PageCheck.CommandLine.Basic
import PageCheck.Proofs.Script.Precedence

/-!
# Names of variables

A name has no blank, no quote and no equals sign, and so it is found again in front of the
value that it gets.  The names that are given a value by lines and by arguments are all
names, and nothing else.
-/

namespace PageCheck

open Results

/-! ## Characters of names -/

namespace Variables

/-- No blank is part of a name. -/
theorem isBlank_of_isNameChar
    {c : Char}
    (part : isNameChar c = true) :
    Text.isBlank c = false := by
  rw [isNameChar_iff_toNat, isNameStart_iff_toNat] at part
  simp only [Text.isBlank, Bool.or_eq_false_iff, Bool.and_eq_false_iff, beq_eq_false_iff_ne,
    decide_eq_false_iff_not]
  omega

variable {name : Text}

theorem isName_visible
    (named : isName name = true) :
    ∀ c ∈ name, Text.isBlank c = false :=
  fun _ inside => isBlank_of_isNameChar (Value.isNameChar_of_mem named inside)

/-- No name looks like a text in quotes. -/
theorem startsWithQuote_of_isName
    (named : isName name = true) :
    Token.startsWithQuote name = false := by
  have double : '\"' ∉ name := notMem_of_isName named (by decide)
  have single : '\'' ∉ name := notMem_of_isName named (by decide)
  rw [Token.startsWithQuote, Bool.or_eq_false_iff, beq_eq_false_iff_ne, beq_eq_false_iff_ne]
  exact ⟨fun first => double (List.mem_of_mem_head? first),
    fun first => single (List.mem_of_mem_head? first)⟩

theorem trim_of_isName
    (named : isName name = true) :
    Text.trim name = name :=
  (Text.isTrimmed_of_visible (isName_visible named)).trim_eq

end Variables

/-! ## Names that get a value -/

/-- An argument gives a value to a variable exactly if the name of the variable and an
equals sign stand in front of it. -/
theorem CommandLine.readVariable_eq_ok_iff
    {argument name value : Text} :
    readVariable argument = .ok (name, value) ↔
      argument = name ++ '=' :: value ∧ Variables.isName name = true := by
  rw [readVariable]
  constructor
  · intro read
    split at read
    · cases read
    · next front back split =>
        split at read
        · next named =>
            cases read
            exact ⟨(Text.splitFirst?_eq_some_iff.1 split).1, named⟩
        · cases read
  · rintro ⟨rfl, named⟩
    rw [Text.splitFirst?_eq_some_iff.2 ⟨rfl, Variables.notMem_of_isName named (by decide)⟩]
    exact if_pos named

/-- A name, an equals sign and a text in quotes set the variable of that name to the text,
if it refers to no variable. -/
theorem Statement.assigns_joinWith
    {name value : Text}
    (named : Variables.isName name = true)
    (literal : ¬ Value.HasReference value)
    (scope : Variables) :
    Assigns scope (Text.joinWith [' '] [name, ['='], Quoted.write value]) name value := by
  have shape : Text.joinWith [' '] [name, ['='], Quoted.write value] =
      (name ++ [' ']) ++ '=' :: ' ' :: Quoted.write value := by
    rw [Text.joinWith_cons]
    simp
  have trimmed : Text.trim (name ++ [' ']) = name := by
    rw [Text.trim_append_of_isBlank (by decide), Variables.trim_of_isName named]
  have first : '=' ∉ name ++ [' '] := by
    simp [Variables.notMem_of_isName named (by decide : Variables.isNameChar '=' = false)]
  have alone : ∀ token ∈ [Token.ofText value], token.StandsAlone :=
    List.forall_mem_singleton.2 (Token.standsAlone_ofText value)
  have argument : IsArgument scope (' ' :: Quoted.write value) value :=
    ⟨Token.ofText value, tokenize_of_trimStart_eq alone (by simp [Token.ofText]),
      Value.resolve_write literal scope⟩
  have assigns : Assigns scope ((name ++ [' ']) ++ '=' :: ' ' :: Quoted.write value)
      (Text.trim (name ++ [' '])) value :=
    .intro first (trimmed.symm ▸ named) argument
  rw [shape]
  rwa [trimmed] at assigns

/-- Lines set the variables of all names, and no others. -/
theorem Statement.exists_readAssignment_iff
    (command : Command)
    {name : Text} :
    (∃ scope text value, readAssignment scope command text = .ok (name, value)) ↔
      Variables.isName name = true := by
  constructor
  · rintro ⟨scope, text, value, read⟩
    cases readAssignment_eq_ok_iff.1 read with
    | intro _ named _ => exact named
  · intro named
    have literal : ¬ Value.HasReference [] := Value.not_hasReference_of_notMem List.not_mem_nil
    exact ⟨{}, _, [], readAssignment_eq_ok_iff.2 (assigns_joinWith named literal {})⟩

theorem Statement.exists_read_set_iff
    {name : Text} :
    (∃ scope text value, read scope .set text = .ok (.set name value)) ↔
      Variables.isName name = true := by
  rw [← exists_readAssignment_iff .set]
  simp only [read, map_eq_ok_iff, Prod.exists, Statement.set.injEq, exists_eq_right_right,
    exists_eq_right]

theorem Statement.exists_read_setDefault_iff
    {name : Text} :
    (∃ scope text value, read scope .setDefault text = .ok (.setDefault name value)) ↔
      Variables.isName name = true := by
  rw [← exists_readAssignment_iff .setDefault]
  simp only [read, map_eq_ok_iff, Prod.exists, Statement.setDefault.injEq,
    exists_eq_right_right, exists_eq_right]

/-- Arguments give values to the variables of all names, and of no others. -/
theorem CommandLine.exists_readVariable_iff
    {name : Text} :
    (∃ argument value, readVariable argument = .ok (name, value)) ↔
      Variables.isName name = true := by
  constructor
  · rintro ⟨argument, value, read⟩
    exact (readVariable_eq_ok_iff.1 read).2
  · intro named
    exact ⟨_, [], readVariable_eq_ok_iff.2 ⟨rfl, named⟩⟩

end PageCheck
