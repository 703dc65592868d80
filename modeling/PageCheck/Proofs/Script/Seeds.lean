import PageCheck.Proofs.Script.References

/-!
# Variables that are seeded

A variable gets the same value from an argument in front of all lines as from a line that
sets it to a text in quotes.  Seeds can therefore be written into a file: reading it with
the seeds is reading it without them, behind as many lines that set the same variables.
-/

namespace PageCheck

open Results

/-- A pair of a name and a value that can be written as a line that sets a variable. -/
structure Variables.IsWritable (pair : Text × Text) : Prop where
  named : isName pair.1 = true
  plain : pair.2.IsPlain

/-- The line that sets a variable to a value. -/
def Variables.lineOf (pair : Text × Text) : Text :=
  (Statement.set pair.1 pair.2).write

/-- The argument that gives a value to a variable. -/
def Variables.argumentOf (pair : Text × Text) : Text :=
  pair.1 ++ '=' :: pair.2

/-! ## One variable -/

namespace Variables

/-- The tokens of the line that sets a variable. -/
def tokensOf (pair : Text × Text) : List Token :=
  [⟨pair.1, false⟩, ⟨['='], false⟩, Token.ofText pair.2]

theorem lineOf_eq (pair : Text × Text) :
    lineOf pair = Command.set.write ((tokensOf pair).map Token.raw) := rfl

namespace IsWritable

variable {pair : Text × Text}

/-- The tokens of a line that sets a variable fit on it: names have neither blanks nor
quotes, and values are escaped. -/
theorem fitsOnLine
    (writable : IsWritable pair) :
    ∀ token ∈ tokensOf pair, token.FitsOnLine := by
  have named := writable.named
  have filled : pair.1 ≠ [] := by
    intro hollow
    rw [hollow] at named
    cases named
  have sign : Token.StandsAlone ⟨['='], false⟩ :=
    Token.standsAlone_word (List.cons_ne_nil _ _) (Text.visible_of_any_eq_false rfl) rfl
  simp only [tokensOf, List.forall_mem_cons]
  refine ⟨⟨?_, notMem_of_isName named (by decide)⟩, ⟨sign, by decide⟩, ?_, List.forall_mem_nil _⟩
  · exact Token.standsAlone_word filled (isName_visible named) (startsWithQuote_of_isName named)
  · exact ⟨Token.standsAlone_ofText pair.2, Quoted.lineFeed_notMem_write writable.plain.whole⟩

/-- The line of a variable sets it, whatever the variables are before it. -/
theorem isSetBy
    (writable : IsWritable pair)
    (scope : Variables) :
    scope.IsSetBy (Text.trim (lineOf pair)) .set pair.1 pair.2 := by
  have alone : ∀ token ∈ tokensOf pair, token.StandsAlone := fun token inside =>
    (writable.fitsOnLine token inside).alone
  rw [lineOf_eq, (Command.isTrimmed_write alone).trim_eq]
  have split : Reader.splitKeyword (Command.set.write ((tokensOf pair).map Token.raw)) = _ :=
    Reader.splitKeyword_write alone
  refine ⟨.inl rfl, by rw [split], ?_⟩
  rw [split]
  exact Statement.assigns_joinWith writable.named writable.plain.literal scope

/-- The line of a variable is one line. -/
theorem lineFeed_notMem
    (writable : IsWritable pair) :
    '\n' ∉ lineOf pair := by
  rw [lineOf_eq]
  exact Command.lineFeed_notMem_write fun token inside =>
    (writable.fitsOnLine token inside).whole

end IsWritable
end Variables

/-! ## Runs -/

namespace Reader

variable {files : FileSystem} {path : Text} {reader : Reader}

/-- Empty lines do nothing. -/
theorem readFrom_replicate_nil
    (number count : Nat) :
    reader.readFrom files path number (List.replicate count []) = reader := by
  apply readFrom_of_blank
  intro line inside
  rw [List.eq_of_mem_replicate inside, Text.trim_nil]

/-- Lines of variables set them one by one and do nothing else. -/
theorem readFrom_map_lineOf
    {pairs : List (Text × Text)}
    (writable : ∀ pair ∈ pairs, Variables.IsWritable pair)
    (number : Nat) :
    reader.readFrom files path number (pairs.map Variables.lineOf) =
      { reader with
        scope := pairs.foldl (fun scope pair => scope.set pair.1 pair.2) reader.scope } := by
  induction pairs generalizing reader number with
  | nil => rfl
  | cons pair pairs hypothesis =>
      rw [List.forall_mem_cons] at writable
      rw [List.map_cons, readFrom_cons, step_of_isSetBy (writable.1.isSetBy reader.scope),
        hypothesis writable.2]
      rfl

end Reader

namespace Script

/-- The lines of seeds can stand for the seeds, behind which as many empty lines keep the
numbers of the other lines. -/
theorem ofLines_map_lineOf
    {pairs : List (Text × Text)}
    (files : FileSystem)
    (path : Text)
    (writable : ∀ pair ∈ pairs, Variables.IsWritable pair)
    (lines : List Text) :
    ofLines files path {} (pairs.map Variables.lineOf ++ lines) =
      ofLines files path (.ofList pairs) (List.replicate pairs.length [] ++ lines) := by
  simp only [ofLines, Reader.readLines_eq_readFrom, Reader.readFrom_append,
    Reader.readFrom_map_lineOf writable, Reader.readFrom_replicate_nil, List.length_map,
    List.length_replicate, Variables.ofList]

/-- Seeding variables by arguments is setting them by lines.  An argument is accepted
exactly if it has a name in front of its first equals sign, and pairs of names and plain
values are given back by their arguments and act on any file like their lines. -/
theorem ofLines_seeds
    (files : FileSystem)
    (path : Text) :
    (∀ argument pair, CommandLine.readVariable argument = .ok pair ↔
      argument = Variables.argumentOf pair ∧ Variables.isName pair.1 = true) ∧
    ∀ pairs : List (Text × Text), (∀ pair ∈ pairs, Variables.IsWritable pair) →
      (∀ pair ∈ pairs, CommandLine.readVariable (Variables.argumentOf pair) = .ok pair) ∧
      (∀ lines,
        ofLines files path (.ofList pairs) (List.replicate pairs.length [] ++ lines) =
          ofLines files path {} (pairs.map Variables.lineOf ++ lines)) ∧
      ∀ content,
        ofContent files path (.ofList pairs)
            (Text.unlines (List.replicate pairs.length []) ++ content) =
          ofContent files path {} (Text.unlines (pairs.map Variables.lineOf) ++ content) := by
  refine ⟨fun argument pair => CommandLine.readVariable_eq_ok_iff, ?_⟩
  intro pairs writable
  have wholeEmpty : ∀ line ∈ List.replicate pairs.length ([] : Text), '\n' ∉ line := by
    intro line member
    rw [List.eq_of_mem_replicate member]
    exact List.not_mem_nil
  have wholeLines : ∀ line ∈ pairs.map Variables.lineOf, '\n' ∉ line :=
    List.forall_mem_map.2 fun pair member => (writable pair member).lineFeed_notMem
  refine ⟨?_, fun lines => (ofLines_map_lineOf files path writable lines).symm, ?_⟩
  · intro pair member
    exact CommandLine.readVariable_eq_ok_iff.2 ⟨rfl, (writable pair member).named⟩
  · intro content
    rw [ofContent_unlines_append files path _ wholeEmpty,
      ofContent_unlines_append files path _ wholeLines, ofLines_map_lineOf files path writable]

/-- Values may hold equals signs, quotes, backslashes, blanks at their ends and braces that
make no reference, and a name may be given twice. -/
theorem ofLines_seeds_quotes_and_blanks :
    let files := (FileNode.directory []).toFileSystem []
    let pairs : List (Text × Text) :=
      [("Q", " a=\"b\\ "), ("_x1", "'\\\""), ("Q", "\x7b3\x7d=")]
    let lines : List Text := ["get example:\x7bQ\x7d", "assert-contains \x7b_x1\x7d", "\x7bQ\x7d"]
    (∀ pair ∈ pairs, Variables.IsWritable pair) ∧
    pairs.map Variables.argumentOf = ["Q= a=\"b\\ ", "_x1='\\\"", "Q=\x7b3\x7d="] ∧
    pairs.map Variables.lineOf =
      ["set Q = \" a=\\\"b\\\\ \"", "set _x1 = \"'\\\\\\\"\"", "set Q = \"\x7b3\x7d=\""] ∧
    (∀ pair ∈ pairs, CommandLine.readVariable (Variables.argumentOf pair) = .ok pair) ∧
    ofLines files "t" (.ofList pairs) ([] :: [] :: [] :: lines) =
      ofLines files "t" {} (pairs.map Variables.lineOf ++ lines) := by
  intro files pairs lines
  have writable : ∀ pair ∈ pairs, Variables.IsWritable pair := by
    simp only [pairs, List.forall_mem_cons]
    exact ⟨⟨by decide, by decide, by decide⟩, ⟨by decide, by decide, by decide⟩,
      ⟨by decide, by decide, by decide⟩, List.forall_mem_nil _⟩
  obtain ⟨accepted, agree, -⟩ := (ofLines_seeds files "t").2 pairs writable
  exact ⟨writable, by decide, by decide, accepted, agree lines⟩

end Script
end PageCheck
