import PageCheck.Proofs.Script.LineForms
import PageCheck.Proofs.Script.LineGrammar

/-!
# Signs behind the arguments

The tokens behind the arguments of an assertion command are read as modifiers exactly if
they are bare signs, none of them given twice, and their order does not matter.  Otherwise
the first token that breaks this rule decides the error.
-/

namespace PageCheck

open Results

/-! ## Tokens that spell modifiers -/

namespace Token

/-- A token spells a modifier if it is the bare sign of it. -/
inductive Spells : Token → Modifier → Prop
  | negated : Spells ⟨['!'], false⟩ .negated
  | caseInsensitive : Spells ⟨['~'], false⟩ .caseInsensitive
  | regexp : Spells ⟨['/'], false⟩ .regexp

theorem spells_iff
    {token : Token}
    {modifier : Modifier} :
    token.Spells modifier ↔ token = ofSign modifier := by
  constructor
  · intro spells
    cases spells <;> rfl
  · rintro rfl
    cases modifier
    · exact .negated
    · exact .caseInsensitive
    · exact .regexp

/-- Tokens are signs if each of them spells a modifier, and no two the same one. -/
structure AreSigns (tokens : List Token) : Prop where
  spelled : ∀ token ∈ tokens, ∃ modifier, token.Spells modifier
  distinct : tokens.Pairwise fun token other =>
    ∀ modifier, token.Spells modifier → ¬ other.Spells modifier

theorem areSigns_nil : AreSigns [] := ⟨List.forall_mem_nil _, .nil⟩

theorem AreSigns.tail
    {token : Token}
    {rest : List Token}
    (signs : AreSigns (token :: rest)) :
    AreSigns rest :=
  ⟨(List.forall_mem_cons.1 signs.spelled).2, (List.pairwise_cons.1 signs.distinct).2⟩

/-- One more sign that is not there yet makes signs again. -/
theorem AreSigns.concat
    {front : List Token}
    {token : Token}
    {modifier : Modifier}
    (signs : AreSigns front)
    (spells : token.Spells modifier)
    (fresh : ∀ earlier ∈ front, ¬ earlier.Spells modifier) :
    AreSigns (front ++ [token]) := by
  constructor
  · rw [List.forall_mem_append, List.forall_mem_singleton]
    exact ⟨signs.spelled, modifier, spells⟩
  · rw [List.pairwise_append]
    refine ⟨signs.distinct, List.pairwise_singleton _ _, ?_⟩
    intro earlier inside last isLast other first second
    rw [List.mem_singleton.1 isLast, spells_iff] at second
    rw [spells_iff.1 spells] at second
    rw [← Token.ofSign_injective second] at first
    exact fresh earlier inside first

/-- Signs come from different modifiers. -/
theorem areSigns_iff
    {tokens : List Token} :
    AreSigns tokens ↔ ∃ signs : List Modifier, tokens = signs.map ofSign ∧ signs.Nodup := by
  constructor
  · intro signs
    induction tokens with
    | nil => exact ⟨[], rfl, List.nodup_nil⟩
    | cons token rest hypothesis =>
        obtain ⟨others, rfl, distinct⟩ := hypothesis signs.tail
        obtain ⟨modifier, spells⟩ := signs.spelled token List.mem_cons_self
        refine ⟨modifier :: others, ?_, List.nodup_cons.2 ⟨?_, distinct⟩⟩
        · rw [spells_iff.1 spells, List.map_cons]
        · intro inside
          have again := (List.pairwise_cons.1 signs.distinct).1 (ofSign modifier)
            (List.mem_map_of_mem inside)
          exact again modifier spells (spells_iff.2 rfl)
  · rintro ⟨signs, rfl, distinct⟩
    constructor
    · rw [List.forall_mem_map]
      exact fun modifier _ => ⟨modifier, spells_iff.2 rfl⟩
    · rw [List.pairwise_map]
      apply distinct.imp
      intro first second different modifier spells spellsToo
      rw [spells_iff] at spells spellsToo
      exact different (ofSign_injective (spells.trans spellsToo.symm))

/-- The order of signs does not matter. -/
theorem AreSigns.perm
    {tokens others : List Token}
    (signs : AreSigns tokens)
    (shuffled : tokens.Perm others) :
    AreSigns others := by
  constructor
  · intro token inside
    exact signs.spelled token (shuffled.mem_iff.2 inside)
  · apply signs.distinct.perm shuffled
    intro first second apart modifier spells spellsToo
    exact apart modifier spellsToo spells

end Token

/-! ## Reading signs -/

namespace Statement

open Token (AreSigns Spells)

variable {command : Command} {tokens : List Token}

/-- Tokens are read as a set of modifiers exactly if they are signs, and the set has those
that they spell. -/
theorem readModifiers_eq_ok_iff_areSigns
    {modifiers : Modifiers} :
    readModifiers command .none tokens = .ok modifiers ↔
      AreSigns tokens ∧ ∀ modifier, modifiers.has modifier = true ↔
        ∃ token ∈ tokens, token.Spells modifier := by
  have spelled : ∀ (signs : List Modifier) (modifier : Modifier),
      (∃ token ∈ signs.map Token.ofSign, token.Spells modifier) ↔ modifier ∈ signs := by
    intro signs modifier
    simp only [Token.spells_iff, exists_eq_right]
    exact List.mem_map_of_injective Token.ofSign_injective
  rw [readModifiers_none_eq_ok_iff, Token.areSigns_iff]
  constructor
  · rintro ⟨signs, rfl, signed⟩
    refine ⟨⟨signs, rfl, signed.distinct⟩, fun modifier => ?_⟩
    rw [spelled, signed.complete]
  · rintro ⟨⟨signs, rfl, distinct⟩, complete⟩
    refine ⟨signs, rfl, distinct, fun modifier => ?_⟩
    rw [complete, spelled]

/-- Signs are read. -/
theorem exists_readModifiers_iff :
    (∃ modifiers, readModifiers command .none tokens = .ok modifiers) ↔ AreSigns tokens := by
  constructor
  · rintro ⟨modifiers, read⟩
    exact (readModifiers_eq_ok_iff_areSigns.1 read).1
  · intro signs
    obtain ⟨spelled, rfl, distinct⟩ := Token.areSigns_iff.1 signs
    obtain ⟨modifiers, signed⟩ := Modifiers.exists_signedBy distinct
    exact ⟨modifiers, readModifiers_of_signedBy signed⟩

/-- Reading goes on behind the tokens that have been read. -/
theorem readModifiers_append
    {seen between : Modifiers}
    {front : List Token}
    (read : readModifiers command seen front = .ok between)
    (back : List Token) :
    readModifiers command seen (front ++ back) = readModifiers command between back := by
  induction front generalizing seen with
  | nil =>
      cases read
      rfl
  | cons token rest hypothesis =>
      rw [readModifiers] at read
      rw [List.cons_append, readModifiers]
      cases found : token.modifier? with
      | none =>
          rw [found] at read
          cases read
      | some modifier =>
          rw [found] at read
          dsimp only at read ⊢
          split at read
          · cases read
          · next fresh =>
              rw [if_neg fresh]
              exact hypothesis read

/-! ## The first token that breaks the rule -/

/-- Where tokens stop to be signs, and the error of the token that is there. -/
inductive Stops (command : Command) : List Token → LineError → Prop
  | foreign
      {front back : List Token} {token : Token}
      (signs : AreSigns front)
      (foreign : ∀ modifier, ¬ token.Spells modifier) :
      Stops command (front ++ token :: back) (.argumentExtra token.raw command)
  | repeated
      {front back : List Token} {token earlier : Token} {modifier : Modifier}
      (signs : AreSigns front)
      (spells : token.Spells modifier)
      (inside : earlier ∈ front)
      (same : earlier.Spells modifier) :
      Stops command (front ++ token :: back) (.modifierRepeated token.raw command)

/-- More tokens at the end do not change where tokens stop to be signs. -/
theorem Stops.append
    {error : LineError}
    (stops : Stops command tokens error)
    (more : List Token) :
    Stops command (tokens ++ more) error := by
  cases stops with
  | foreign signs foreign =>
      rw [List.append_assoc]
      exact .foreign signs foreign
  | repeated signs spells inside same =>
      rw [List.append_assoc]
      exact .repeated signs spells inside same

/-- Tokens are signs, or else there is a first one that breaks the rule. -/
theorem areSigns_or_stops
    (command : Command)
    (tokens : List Token) :
    AreSigns tokens ∨ ∃ error, Stops command tokens error := by
  -- Tokens are added at the end, where they cannot break the rule for those in front.
  induction tokens using List.reverseRecOn with
  | nil => exact Or.inl Token.areSigns_nil
  | append_singleton front token hypothesis =>
      rcases hypothesis with signs | ⟨error, stops⟩
      · by_cases spelled : ∃ modifier, token.Spells modifier
        · obtain ⟨modifier, spells⟩ := spelled
          by_cases again : ∃ earlier ∈ front, earlier.Spells modifier
          · obtain ⟨earlier, inside, same⟩ := again
            exact Or.inr ⟨_, .repeated signs spells inside same⟩
          · left
            apply signs.concat spells
            exact fun earlier inside same => again ⟨earlier, inside, same⟩
        · exact Or.inr ⟨_, .foreign signs (not_exists.1 spelled)⟩
      · exact Or.inr ⟨error, stops.append [token]⟩

/-- The first token that breaks the rule decides the error. -/
theorem Stops.readModifiers_eq
    {error : LineError}
    (stops : Stops command tokens error) :
    readModifiers command .none tokens = .error error := by
  cases stops with
  | @foreign front back token signs foreign =>
      obtain ⟨between, read⟩ := exists_readModifiers_iff.2 signs
      have unread : token.modifier? = none := by
        rw [Option.eq_none_iff_forall_ne_some]
        intro modifier found
        exact foreign modifier (Token.spells_iff.2 (Token.modifier?_eq_some_iff.1 found))
      rw [readModifiers_append read, readModifiers, unread]
  | @repeated front back token earlier modifier signs spells inside same =>
      obtain ⟨between, read⟩ := exists_readModifiers_iff.2 signs
      have found : token.modifier? = some modifier :=
        Token.modifier?_eq_some_iff.2 (Token.spells_iff.1 spells)
      have seen : between.has modifier = true :=
        ((readModifiers_eq_ok_iff_areSigns.1 read).2 modifier).2 ⟨earlier, inside, same⟩
      rw [readModifiers_append read, readModifiers, found]
      dsimp only
      rw [if_pos seen]

theorem readModifiers_eq_error_iff
    {error : LineError} :
    readModifiers command .none tokens = .error error ↔ Stops command tokens error := by
  constructor
  · intro failed
    rcases areSigns_or_stops command tokens with signs | ⟨other, stops⟩
    · obtain ⟨modifiers, read⟩ := exists_readModifiers_iff.2 signs
      rw [failed] at read
      cases read
    · rw [stops.readModifiers_eq] at failed
      cases failed
      exact stops
  · exact Stops.readModifiers_eq

/-- Tokens are read as modifiers exactly if they are signs, as the set of the modifiers that
they spell, and so in every order.  Otherwise the error is that of the first token that is
no sign or spells a modifier for the second time, whatever follows it: an extra argument or
a repeated modifier, in words that show the token. -/
theorem readModifiers_spelled
    (command : Command)
    (tokens : List Token) :
    (∀ modifiers, readModifiers command .none tokens = .ok modifiers ↔
      AreSigns tokens ∧ ∀ modifier, modifiers.has modifier = true ↔
        ∃ token ∈ tokens, token.Spells modifier) ∧
    ((∃ modifiers, readModifiers command .none tokens = .ok modifiers) ↔ AreSigns tokens) ∧
    (∀ others, tokens.Perm others → ∀ modifiers,
      readModifiers command .none tokens = .ok modifiers ↔
        readModifiers command .none others = .ok modifiers) ∧
    (∀ error, readModifiers command .none tokens = .error error ↔
      Stops command tokens error) ∧
    ∀ raw,
      let extra := LineError.argumentExtra raw command
      let again := LineError.modifierRepeated raw command
      extra.kind = .extraArgument ∧ again.kind = .duplicateModifier ∧
      extra.message = "Unexpected argument " ++ raw ++ " for " ++ command.keyword ++ "." ∧
      again.message =
        "Modifier " ++ raw ++ " given more than once for " ++ command.keyword ++ "." := by
  refine ⟨fun _ => readModifiers_eq_ok_iff_areSigns, exists_readModifiers_iff, ?_,
    fun _ => readModifiers_eq_error_iff, fun _ => ⟨rfl, rfl, rfl, rfl⟩⟩
  intro others shuffled modifiers
  have signs : AreSigns tokens ↔ AreSigns others :=
    ⟨fun signs => signs.perm shuffled, fun signs => signs.perm shuffled.symm⟩
  simp only [readModifiers_eq_ok_iff_areSigns, signs, shuffled.mem_iff]

end Statement
end PageCheck
