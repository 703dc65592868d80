import PageCheck.Proofs.Script.Arguments
import PageCheck.Proofs.Script.Isolation
import PageCheck.Proofs.Script.LineNumbers
import PageCheck.Proofs.Script.WrittenLines

/-!
# Which value a variable has

Behind any number of lines, the value of a variable is the one that was set last; without
one, it is the last one that the variables were seeded with; without that, it is the
default that was given first.  Every value is found with the variables as they are where
its line stands.
-/

namespace PageCheck

open Results

/-! ## Lines that set variables -/

/-- A line sets a variable to a value by one of the two commands that do. -/
structure Variables.IsSetBy (scope : Variables) (line : Text) (command : Command)
    (name value : Text) : Prop where
  setting : command = .set ∨ command = .setDefault
  keyword : (Reader.splitKeyword line).1 = command.keyword
  assigns : Statement.Assigns scope (Reader.splitKeyword line).2 name value

/-- The variables behind a command that sets one of them. -/
def Variables.assign (scope : Variables) (command : Command) (name value : Text) :
    Variables :=
  if command = .setDefault then scope.setDefault name value else scope.set name value

namespace Script

section Definitions

variable (files : FileSystem) (path : Text) (seeds : List (Text × Text)) (lines : List Text)

/-- The variables behind the first lines of a file, which are those of the next line. -/
def scopeBehind (count : Nat) : Variables :=
  (Reader.readLines files path { scope := .ofList seeds } (lines.take count)).scope

/-- The line at an index, counted from zero, sets a variable. -/
def SetsAt (index : Nat) (command : Command) (name value : Text) : Prop :=
  ∃ line, lines[index]? = some line ∧
    (scopeBehind files path seeds lines index).IsSetBy (Text.trim line) command name value

/-- What the value of a variable is behind the first lines of a file. -/
inductive Determines (count : Nat) (name : Text) : Option Text → Prop
  | set
      {index : Nat} {value : Text}
      (before : index < count)
      (sets : SetsAt files path seeds lines index .set name value)
      (last : ∀ later, index < later → later < count →
        ∀ other, ¬ SetsAt files path seeds lines later .set name other) :
      Determines count name (some value)
  | seed
      {front back : List (Text × Text)} {value : Text}
      (unset : ∀ index < count, ∀ other, ¬ SetsAt files path seeds lines index .set name other)
      (split : seeds = front ++ (name, value) :: back)
      (last : ∀ pair ∈ back, pair.1 ≠ name) :
      Determines count name (some value)
  | default
      {index : Nat} {value : Text}
      (unset : ∀ index < count, ∀ other, ¬ SetsAt files path seeds lines index .set name other)
      (unseeded : ∀ pair ∈ seeds, pair.1 ≠ name)
      (before : index < count)
      (sets : SetsAt files path seeds lines index .setDefault name value)
      (first : ∀ earlier < index,
        ∀ other, ¬ SetsAt files path seeds lines earlier .setDefault name other) :
      Determines count name (some value)
  | undefined
      (unset : ∀ index < count, ∀ other, ¬ SetsAt files path seeds lines index .set name other)
      (unseeded : ∀ pair ∈ seeds, pair.1 ≠ name)
      (undefaulted : ∀ index < count,
        ∀ other, ¬ SetsAt files path seeds lines index .setDefault name other) :
      Determines count name none

/-- How variables get their values in a file: by the rules, from every accepted line that
has the keyword for it, and from no other line. -/
structure Precedence : Prop where
  resolve_iff : ∀ name count found, Variables.isName name = true →
    (Determines files path seeds lines count name found ↔
      Value.resolve (scopeBehind files path seeds lines count) (Value.reference name) =
        found.elim (.error (.missingVariable name)) .ok)
  sets_iff : ∀ index line command, lines[index]? = some line →
    (command = .set ∨ command = .setDefault) →
    (Reader.splitKeyword (Text.trim line)).1 = command.keyword →
    ((∃ name value, SetsAt files path seeds lines index command name value) ↔
      (ofLines files path (.ofList seeds) lines).rejects (index + 1) = false)
  scope_eq : ∀ index line, lines[index]? = some line →
    (Reader.isSettingLine (Text.trim line) = false ∨
      (ofLines files path (.ofList seeds) lines).rejects (index + 1) = true) →
    scopeBehind files path seeds lines (index + 1) = scopeBehind files path seeds lines index

end Definitions
end Script

/-! ## References are resolved -/

namespace Value

variable {name : Text}

/-- The ends of a reference are its braces. -/
theorem isTrimmed_reference (name : Text) : Text.IsTrimmed (reference name) := by
  constructor
  · intro c first
    cases first
    decide
  · intro c last
    rw [reference, ← List.cons_append, List.getLast?_concat] at last
    cases last
    decide

/-- A reference has the value of its variable. -/
theorem resolve_reference
    (named : Variables.isName name = true)
    (scope : Variables) :
    resolve scope (reference name) =
      (scope.get? name).elim (.error (.missingVariable name)) .ok := by
  have plain : unquote (reference name) = .ok (reference name) := by
    simp [unquote, reference]
  have scans : Scans (reference name ++ []) [.reference name] := .reference named .done
  rw [List.append_nil] at scans
  rw [resolve, (isTrimmed_reference name).trim_eq, plain]
  change substitute scope (reference name) = _
  rw [scans.substitute_eq_iff]
  cases known : scope.get? name with
  | none => exact .missing (List.forall_mem_nil _) known
  | some value =>
      have defined : [Part.reference name].map (Part.value? scope) = [value].map some := by
        rw [List.map_singleton, Part.value?, known]
        rfl
      have fills : Fills scope [.reference name] (.ok [value].flatten) := .filled defined
      rw [List.flatten_singleton] at fills
      exact fills

end Value

/-! ## Variables -/

namespace Variables

variable {scope : Variables} {name value other : Text}

theorem get?_setDefault (scope : Variables) (name value wanted : Text) :
    (scope.setDefault name value).get? wanted =
      if name = wanted then some ((scope.get? wanted).getD value) else scope.get? wanted := by
  rw [setDefault, has]
  by_cases same : name = wanted
  · subst same
    cases known : scope.get? name <;> simp [known]
  · cases scope.get? name <;> simp [same]

/-- The value that is put in for a name last is the one that counts. -/
theorem get?_ofList_append
    {pairs : List (Text × Text)}
    (last : ∀ pair ∈ pairs, pair.1 ≠ name)
    (scope : Variables) :
    (pairs.foldl (fun scope pair => scope.set pair.1 pair.2) scope).get? name =
      scope.get? name := by
  induction pairs generalizing scope with
  | nil => rfl
  | cons pair pairs hypothesis =>
      rw [List.forall_mem_cons] at last
      rw [List.foldl_cons, hypothesis last.2, get?_set, if_neg last.1]

theorem get?_assign_self (scope : Variables) (command : Command) (name value : Text) :
    (scope.assign command name value).get? name =
      if command = .setDefault then some ((scope.get? name).getD value) else some value := by
  rw [assign]
  split
  · rw [get?_setDefault, if_pos rfl]
  · rw [get?_set, if_pos rfl]

theorem get?_assign_of_ne
    (different : other ≠ name)
    (scope : Variables)
    (command : Command)
    (value : Text) :
    (scope.assign command other value).get? name = scope.get? name := by
  rw [assign]
  split
  · rw [get?_setDefault, if_neg different]
  · rw [get?_set, if_neg different]

/-- A line sets at most one variable, by one command and to one value. -/
theorem IsSetBy.unique
    {line : Text}
    {command otherCommand : Command}
    {otherName otherValue : Text}
    (isSet : scope.IsSetBy line command name value)
    (again : scope.IsSetBy line otherCommand otherName otherValue) :
    otherCommand = command ∧ otherName = name ∧ otherValue = value := by
  have known := Command.ofKeyword?_eq_some_iff.2 isSet.keyword.symm
  rw [Command.ofKeyword?_eq_some_iff.2 again.keyword.symm] at known
  have read : Statement.readAssignment scope command (Reader.splitKeyword line).2 =
      .ok (name, value) :=
    Statement.readAssignment_eq_ok_iff.2 isSet.assigns
  rw [Statement.readAssignment_eq_ok_iff.2 again.assigns] at read
  cases known
  cases read
  exact ⟨rfl, rfl, rfl⟩

end Variables

/-! ## Steps -/

namespace Reader

variable {files : FileSystem} {path : Text} {location : Location} {line : Text}
variable {reader next : Reader} {command : Command} {name value : Text}

/-- The two commands that set variables make their lines such that set variables. -/
theorem isSettingLine_of_keyword
    (setting : command = .set ∨ command = .setDefault)
    (keyword : (splitKeyword line).1 = command.keyword) :
    isSettingLine line = true := by
  rw [isSettingLine, Command.ofKeyword?_eq_some_iff.2 keyword.symm]
  rcases setting with rfl | rfl <;> rfl

/-- A line that sets a variable is accepted and does nothing else. -/
theorem accept_of_isSetBy
    (isSet : reader.scope.IsSetBy line command name value) :
    reader.accept files location line =
      .ok { reader with scope := reader.scope.assign command name value } := by
  obtain ⟨setting, keyword, assigns⟩ := isSet
  have known := Command.ofKeyword?_eq_some_iff.2 keyword.symm
  rcases setting with rfl | rfl
  · have read := (Statement.read_eq_ok_iff (by decide) (by decide)).2 (.set assigns)
    exact bind_eq_ok_iff.2
      ⟨_, lineEffect_eq_ok_iff.2 ⟨.set, _, known, rfl, read, .set⟩, rfl⟩
  · have read := (Statement.read_eq_ok_iff (by decide) (by decide)).2 (.setDefault assigns)
    exact bind_eq_ok_iff.2
      ⟨_, lineEffect_eq_ok_iff.2 ⟨.setDefault, _, known, rfl, read, .setDefault⟩, rfl⟩

/-- An accepted line with a keyword for that sets a variable. -/
theorem exists_isSetBy_of_accept
    (accepted : reader.accept files location line = .ok next)
    (setting : isSettingLine line = true) :
    ∃ command name value, reader.scope.IsSetBy line command name value := by
  obtain ⟨effect, found, -⟩ := bind_eq_ok_iff.1 accepted
  obtain ⟨command, statement, known, -, read, -⟩ := lineEffect_eq_ok_iff.1 found
  have keyword := (Command.ofKeyword?_eq_some_iff.1 known).symm
  rw [isSettingLine, known] at setting
  cases command with
  | set =>
      obtain ⟨⟨name, value⟩, assigned, -⟩ := map_eq_ok_iff.1 read
      exact ⟨.set, name, value, .inl rfl, keyword,
        Statement.readAssignment_eq_ok_iff.1 assigned⟩
  | setDefault =>
      obtain ⟨⟨name, value⟩, assigned, -⟩ := map_eq_ok_iff.1 read
      exact ⟨.setDefault, name, value, .inr rfl, keyword,
        Statement.readAssignment_eq_ok_iff.1 assigned⟩
  | request | assertion | modifier => cases setting

/-- Any other accepted line leaves the variables as they are. -/
theorem scope_eq_of_accept
    (accepted : reader.accept files location line = .ok next)
    (other : isSettingLine line = false) :
    next.scope = reader.scope := by
  rw [isSettingLine_of_accept accepted] at other
  cases accepts_of_accept accepted with
  | opens | asserts | modifies | idles => rfl
  | sets request attachment | setsDefault request attachment =>
      simp [request, attachment] at other

/-- A step over a line that sets a variable does this and leaves no error. -/
theorem step_of_isSetBy
    {number : Nat}
    (isSet : reader.scope.IsSetBy (Text.trim line) command name value) :
    reader.step files path (line, number) =
      { reader with scope := reader.scope.assign command name value } := by
  refine step_of_accept ?_ (accept_of_isSetBy isSet)
  intro hollow
  have keyword := isSet.keyword
  rw [hollow] at keyword
  exact command.keyword_ne_nil keyword.symm

/-- A line that has a keyword for it sets a variable exactly if the step over it leaves no
error. -/
theorem exists_isSetBy_iff
    {number : Nat}
    (setting : isSettingLine (Text.trim line) = true) :
    (∃ command name value, reader.scope.IsSetBy (Text.trim line) command name value) ↔
      (reader.step files path (line, number)).errors = reader.errors := by
  constructor
  · rintro ⟨command, name, value, isSet⟩
    rw [step_of_isSetBy isSet]
  · intro silent
    rcases step_cases files path reader (line, number) with
      ⟨hollow, _⟩ | ⟨next, _, accepted, _⟩ | ⟨cause, _, _, same⟩
    · rw [hollow] at setting
      cases setting
    · exact exists_isSetBy_of_accept accepted setting
    · rw [same, errors_refuse, List.append_right_eq_self] at silent
      cases silent

/-- A step leaves the variables as they are if its line has another keyword or is
refused. -/
theorem scope_step
    {number : Nat}
    (idle : isSettingLine (Text.trim line) = false ∨
      (reader.step files path (line, number)).errors ≠ reader.errors) :
    (reader.step files path (line, number)).scope = reader.scope := by
  rcases step_cases files path reader (line, number) with
    ⟨_, same⟩ | ⟨next, _, accepted, same⟩ | ⟨cause, _, _, same⟩
  · rw [same]
  · rcases idle with other | added
    · rw [same, scope_eq_of_accept accepted other]
    · rw [same] at added
      exact absurd (accepts_of_accept accepted).errors_eq added
  · rw [same, scope_refuse]

end Reader

/-! ## Runs -/

namespace Script

variable {files : FileSystem} {path : Text} {seeds : List (Text × Text)}
variable {lines : List Text} {index : Nat} {line name value : Text} {command : Command}

/-- One more line takes one more step. -/
theorem readLines_take_succ
    (found : lines[index]? = some line)
    (reader : Reader) :
    reader.readLines files path (lines.take (index + 1)) =
      (reader.readLines files path (lines.take index)).step files path (line, index + 1) := by
  obtain ⟨inside, rfl⟩ := List.getElem?_eq_some_iff.1 found
  rw [List.take_succ_eq_append_getElem inside, Reader.readLines_concat,
    List.length_take_of_le inside.le]

/-- Behind a line that sets a variable, this is all that has changed. -/
theorem scopeBehind_of_setsAt
    (sets : SetsAt files path seeds lines index command name value) :
    scopeBehind files path seeds lines (index + 1) =
      (scopeBehind files path seeds lines index).assign command name value := by
  obtain ⟨line, found, isSet⟩ := sets
  rw [scopeBehind, readLines_take_succ found, Reader.step_of_isSetBy isSet]
  rfl

/-- Where no variable is set, the variables stay as they are. -/
theorem scopeBehind_of_not_setsAt
    (idle : ∀ command name value, ¬ SetsAt files path seeds lines index command name value) :
    scopeBehind files path seeds lines (index + 1) =
      scopeBehind files path seeds lines index := by
  cases found : lines[index]? with
  | none =>
      have all := List.getElem?_eq_none_iff.1 found
      rw [scopeBehind, scopeBehind, List.take_of_length_le all,
        List.take_of_length_le (Nat.le_succ_of_le all)]
  | some line =>
      rw [scopeBehind, readLines_take_succ found]
      apply Reader.scope_step
      cases setting : Reader.isSettingLine (Text.trim line) with
      | false => exact .inl rfl
      | true =>
          right
          rw [Ne, ← Reader.exists_isSetBy_iff setting]
          rintro ⟨command, name, value, isSet⟩
          exact idle command name value ⟨line, found, isSet⟩

theorem SetsAt.setting
    (sets : SetsAt files path seeds lines index command name value) :
    command = .set ∨ command = .setDefault := by
  obtain ⟨_, _, isSet⟩ := sets
  exact isSet.setting

theorem SetsAt.unique
    {otherName otherValue : Text}
    {otherCommand : Command}
    (sets : SetsAt files path seeds lines index command name value)
    (again : SetsAt files path seeds lines index otherCommand otherName otherValue) :
    otherCommand = command ∧ otherName = name ∧ otherValue = value := by
  obtain ⟨line, found, isSet⟩ := sets
  obtain ⟨same, foundAgain, isSetAgain⟩ := again
  rw [found] at foundAgain
  cases foundAgain
  exact isSet.unique isSetAgain

/-! ## The value of one variable -/

section OneVariable

variable {old : Text} {low count : Nat} {result : Option Text}

/-- A variable that is set has the new value. -/
theorem get?_succ_of_set
    (sets : SetsAt files path seeds lines index .set name value) :
    (scopeBehind files path seeds lines (index + 1)).get? name = some value := by
  rw [scopeBehind_of_setsAt sets, Variables.get?_assign_self]
  rfl

/-- A variable without a value has its default. -/
theorem get?_succ_of_default
    (unknown : (scopeBehind files path seeds lines index).get? name = none)
    (sets : SetsAt files path seeds lines index .setDefault name value) :
    (scopeBehind files path seeds lines (index + 1)).get? name = some value := by
  rw [scopeBehind_of_setsAt sets, Variables.get?_assign_self, unknown]
  rfl

/-- Neither another variable nor, once there is a value, a default changes a value. -/
theorem get?_succ_eq
    (unset : ∀ other, ¬ SetsAt files path seeds lines index .set name other)
    (late : (scopeBehind files path seeds lines index).get? name ≠ none ∨
      ∀ other, ¬ SetsAt files path seeds lines index .setDefault name other) :
    (scopeBehind files path seeds lines (index + 1)).get? name =
      (scopeBehind files path seeds lines index).get? name := by
  by_cases idle : ∀ command name value, ¬ SetsAt files path seeds lines index command name value
  · rw [scopeBehind_of_not_setsAt idle]
  · push Not at idle
    obtain ⟨command, other, value, sets⟩ := idle
    rw [scopeBehind_of_setsAt sets]
    by_cases same : other = name
    · subst same
      obtain rfl := sets.setting.resolve_left fun isSet => unset value (isSet ▸ sets)
      obtain ⟨old, known⟩ := Option.ne_none_iff_exists'.1
        (late.resolve_right fun none => none value sets)
      rw [Variables.get?_assign_self, known]
      rfl
    · exact Variables.get?_assign_of_ne same _ command value

/-- A value is kept as long as the variable is not set. -/
theorem get?_of_unset
    (known : (scopeBehind files path seeds lines low).get? name = some old)
    (upper : low ≤ count)
    (unset : ∀ index, low ≤ index → index < count →
      ∀ other, ¬ SetsAt files path seeds lines index .set name other) :
    (scopeBehind files path seeds lines count).get? name = some old := by
  induction count, upper using Nat.le_induction with
  | base => exact known
  | succ count upper hypothesis =>
      have before := hypothesis fun index above below => unset index above (by omega)
      rw [get?_succ_eq (unset count upper (by omega)) (.inl (by simp [before])), before]

/-- A variable has no value as long as it gets none. -/
theorem get?_eq_none
    (unknown : (scopeBehind files path seeds lines 0).get? name = none)
    (unset : ∀ index < count, ∀ other, ¬ SetsAt files path seeds lines index .set name other)
    (undefaulted : ∀ index < count,
      ∀ other, ¬ SetsAt files path seeds lines index .setDefault name other) :
    (scopeBehind files path seeds lines count).get? name = none := by
  induction count with
  | zero => exact unknown
  | succ count hypothesis =>
      have before := hypothesis (fun index below => unset index (by omega))
        fun index below => undefaulted index (by omega)
      rw [get?_succ_eq (unset count (by omega)) (.inr (undefaulted count (by omega))), before]

/-- Without a line, variables have the values that they are seeded with. -/
theorem get?_of_seed
    {front back : List (Text × Text)}
    (split : seeds = front ++ (name, value) :: back)
    (last : ∀ pair ∈ back, pair.1 ≠ name) :
    (scopeBehind files path seeds lines 0).get? name = some value := by
  rw [scopeBehind, List.take_zero]
  change (Variables.ofList seeds).get? name = some value
  rw [Variables.ofList, split, List.foldl_append, List.foldl_cons,
    Variables.get?_ofList_append last, Variables.get?_set, if_pos rfl]

theorem get?_of_unseeded
    (unseeded : ∀ pair ∈ seeds, pair.1 ≠ name) :
    (scopeBehind files path seeds lines 0).get? name = none := by
  rw [scopeBehind, List.take_zero]
  exact Variables.get?_ofList_append unseeded {}

/-- The rules give the value that a variable has. -/
theorem Determines.get?_eq
    (determines : Determines files path seeds lines count name result) :
    (scopeBehind files path seeds lines count).get? name = result := by
  cases determines with
  | set before sets last =>
      exact get?_of_unset (get?_succ_of_set sets) before last
  | seed unset split last =>
      exact get?_of_unset (get?_of_seed split last) (Nat.zero_le count)
        fun index _ => unset index
  | @default index value unset unseeded before sets first =>
      have unknown := get?_eq_none (get?_of_unseeded unseeded)
        (fun earlier below => unset earlier (by omega)) first
      exact get?_of_unset (get?_succ_of_default unknown sets) before
        fun later _ => unset later
  | undefined unset unseeded undefaulted =>
      exact get?_eq_none (get?_of_unseeded unseeded) unset undefaulted

/-- Either no seed has a name, or one is the last that has it. -/
theorem exists_last_seed (seeds : List (Text × Text)) (name : Text) :
    (∀ pair ∈ seeds, pair.1 ≠ name) ∨
      ∃ front value back, seeds = front ++ (name, value) :: back ∧
        ∀ pair ∈ back, pair.1 ≠ name := by
  induction seeds with
  | nil => exact .inl fun _ inside => nomatch inside
  | cons seed seeds hypothesis =>
      rcases hypothesis with absent | ⟨front, value, back, rfl, last⟩
      · by_cases same : seed.1 = name
        · exact .inr ⟨[], seed.2, seeds, by rw [← same]; rfl, absent⟩
        · exact .inl (List.forall_mem_cons.2 ⟨same, absent⟩)
      · exact .inr ⟨seed :: front, value, back, rfl, last⟩

/-- What the rules say before a line, they say behind it, unless the line sets the variable
or gives it its first default. -/
theorem Determines.exists_succ
    (determines : Determines files path seeds lines count name result) :
    ∃ next, Determines files path seeds lines (count + 1) name next := by
  by_cases unset : ∀ other, ¬ SetsAt files path seeds lines count .set name other
  · have extend {Holds : Nat → Prop} (here : Holds count)
        (before : ∀ index < count, Holds index) : ∀ index < count + 1, Holds index := by
      intro index below
      rcases Nat.lt_succ_iff_lt_or_eq.1 below with earlier | rfl
      · exact before index earlier
      · exact here
    cases determines with
    | @set index value before sets last =>
        refine ⟨some value, .set (by omega) sets ?_⟩
        intro later above below
        rcases Nat.lt_succ_iff_lt_or_eq.1 below with earlier | rfl
        · exact last later above earlier
        · exact unset
    | seed never split last => exact ⟨_, .seed (extend unset never) split last⟩
    | default never unseeded before sets first =>
        exact ⟨_, .default (extend unset never) unseeded (by omega) sets first⟩
    | undefined never unseeded undefaulted =>
        by_cases missing : ∀ other, ¬ SetsAt files path seeds lines count .setDefault name other
        · exact ⟨_, .undefined (extend unset never) unseeded (extend missing undefaulted)⟩
        · push Not at missing
          obtain ⟨value, sets⟩ := missing
          exact ⟨_, .default (extend unset never) unseeded (Nat.lt_succ_self count) sets
            undefaulted⟩
  · push Not at unset
    obtain ⟨value, sets⟩ := unset
    exact ⟨_, .set (Nat.lt_succ_self count) sets fun later above below => by omega⟩

/-- The rules always say what the value of a variable is. -/
theorem exists_determines (count : Nat) :
    ∃ result, Determines files path seeds lines count name result := by
  induction count with
  | zero =>
      rcases exists_last_seed seeds name with unseeded | ⟨front, value, back, split, last⟩
      · exact ⟨none, .undefined (fun _ below => nomatch below) unseeded
          fun _ below => nomatch below⟩
      · exact ⟨some value, .seed (fun _ below => nomatch below) split last⟩
  | succ count hypothesis =>
      obtain ⟨result, determines⟩ := hypothesis
      exact determines.exists_succ

/-- A variable has exactly the value that the rules say. -/
theorem determines_iff :
    Determines files path seeds lines count name result ↔
      (scopeBehind files path seeds lines count).get? name = result := by
  constructor
  · exact Determines.get?_eq
  · rintro rfl
    obtain ⟨result, determines⟩ : ∃ result,
        Determines files path seeds lines count name result :=
      exists_determines count
    rwa [determines.get?_eq]

end OneVariable

/-- The variables of a file with any content get their values by these rules. -/
theorem ofContent_precedence
    (files : FileSystem)
    (path : Text)
    (seeds : List (Text × Text))
    (content : Text) :
    Precedence files path seeds (Text.lines content) := by
  constructor
  · intro name count found named
    rw [determines_iff, Value.resolve_reference named]
    generalize (scopeBehind files path seeds (Text.lines content) count).get? name = value
    cases value <;> cases found <;> simp
  · intro index line command there setting keyword
    have isSetting := Reader.isSettingLine_of_keyword setting keyword
    rw [← Bool.not_eq_true, Reader.rejects_ofLines_iff there, not_not,
      ← Reader.exists_isSetBy_iff isSetting]
    constructor
    · rintro ⟨name, value, found, same, isSet⟩
      rw [there] at same
      cases same
      exact ⟨command, name, value, isSet⟩
    · rintro ⟨other, name, value, isSet⟩
      have known := Command.ofKeyword?_eq_some_iff.2 keyword.symm
      rw [Command.ofKeyword?_eq_some_iff.2 isSet.keyword.symm] at known
      cases known
      exact ⟨name, value, line, there, isSet⟩
  · intro index line there idle
    rw [scopeBehind, readLines_take_succ there]
    apply Reader.scope_step
    rwa [← Reader.rejects_ofLines_iff there]

/-- A default in front of a seed's variable, a value that refers to both, a default that
comes too late and a line that is rejected. -/
example :
    let lines : List Text :=
      ["set-default b = x", "set a = '{a}{b}'", "set-default b = y", "set a z"]
    Value.resolve
      (scopeBehind ((FileNode.directory []).toFileSystem []) "t" [("a", "0"), ("a", "1")] lines 4)
      (Value.reference "a") = .ok "1x" := by
  decide +kernel

end Script
end PageCheck
