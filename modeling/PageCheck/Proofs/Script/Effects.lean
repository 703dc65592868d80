import PageCheck.Proofs.Results
import PageCheck.Script.Reader
import PageCheck.Script.Writer

/-!
# Where effects come from

The arguments of a command make a statement of that command, and a statement has
an effect of its own form.  Assertions and request modifiers in effects have
always been built under their rules.
-/

namespace PageCheck

open Results

/-! ## Statements of a command -/

/-- The command of a statement. -/
def Statement.command : Statement → Command
  | .request method _ => .request method
  | .set _ _ => .set
  | .setDefault _ _ => .setDefault
  | .expect expectation _ => expectation.command
  | .change wanted => wanted.command

namespace Statement

/-- Expectations need a request in front of them. -/
@[simp] theorem needsRequest_expect
    (expectation : Expectation)
    (modifiers : Modifiers) :
    (expect expectation modifiers).command.needsRequest = true := by
  cases expectation <;> rfl

/-- Changes need a request in front of them. -/
@[simp] theorem needsRequest_change
    (wanted : Change) :
    (change wanted).command.needsRequest = true := by
  cases wanted <;> rfl

/-- The arguments of an assertion command make a statement of that command. -/
theorem command_of_readExpectation
    {scope : Variables}
    {kind : AssertionCommand}
    {arguments : List Token}
    {statement : Statement}
    (found : readExpectation scope kind arguments = .ok statement) :
    statement.command = .assertion kind := by
  cases kind with
  | statusCode =>
      simp only [readExpectation, do_eq_ok_iff] at found
      obtain ⟨_, _, _, _, _, _, expectation, built, same⟩ := found
      obtain ⟨code, _, rfl⟩ := map_eq_ok_iff.1 built
      cases same
      rfl
  | contains | containsNot | equals =>
      simp only [readExpectation, do_eq_ok_iff] at found
      obtain ⟨_, _, _, _, _, _, expectation, built, same⟩ := found
      cases built
      cases same
      rfl
  | empty =>
      simp only [readExpectation, do_eq_ok_iff] at found
      obtain ⟨_, _, same⟩ := found
      cases same
      rfl
  | header =>
      simp only [readExpectation, do_eq_ok_iff] at found
      obtain ⟨_, _, _, _, _, _, same⟩ := found
      cases same
      rfl

/-- The arguments of a request modifier command make a statement of that command. -/
theorem command_of_readChange
    {scope : Variables}
    {kind : ModifierCommand}
    {arguments : List Token}
    {statement : Statement}
    (found : readChange scope kind arguments = .ok statement) :
    statement.command = .modifier kind := by
  cases kind with
  | header =>
      simp only [readChange, do_eq_ok_iff] at found
      obtain ⟨_, _, _, _, _, _, same⟩ := found
      cases same
      rfl
  | parameter | file =>
      simp only [readChange, do_eq_ok_iff] at found
      obtain ⟨_, _, _, _, _, _, _, _, _, _, same⟩ := found
      cases same
      rfl
  | raw =>
      simp only [readChange, do_eq_ok_iff] at found
      obtain ⟨_, _, _, _, _, _, same⟩ := found
      cases same
      rfl

/-- A statement that is read for a command is a statement of that command. -/
theorem command_of_read
    {scope : Variables}
    {command : Command}
    {text : Text}
    {statement : Statement}
    (found : read scope command text = .ok statement) :
    statement.command = command := by
  cases command with
  | request _ | set | setDefault =>
      obtain ⟨_, _, rfl⟩ := map_eq_ok_iff.1 found
      rfl
  | assertion kind =>
      obtain ⟨_, _, expected⟩ := bind_eq_ok_iff.1 found
      exact command_of_readExpectation expected
  | modifier kind =>
      obtain ⟨_, _, changed⟩ := bind_eq_ok_iff.1 found
      exact command_of_readChange changed

end Statement

/-! ## Effects of a statement -/

/-- What a statement does, one rule for each form of statements. -/
inductive Statement.Causes (files : FileSystem) (location : Location) :
    Statement → Effect → Prop
  | request
      {method : Method} {address : Text} {url : Url}
      (read : Url.read address = .ok url) :
      Causes files location (.request method address) (.openCase method url)
  | set {name value : Text} :
      Causes files location (.set name value) (.set name value)
  | setDefault {name value : Text} :
      Causes files location (.setDefault name value) (.setDefault name value)
  | expect
      {expectation : Expectation} {modifiers : Modifiers} {assertion : Assertion}
      (built : expectation.build location modifiers = .ok assertion) :
      Causes files location (.expect expectation modifiers) (.addAssertion assertion)
  | change
      {wanted : Change} {modifier : RequestModifier}
      (built : wanted.build files = .ok modifier) :
      Causes files location (.change wanted) (.addModifier modifier)

/-- The rules give exactly the effects that are computed. -/
theorem Statement.effect_eq_ok_iff
    {files : FileSystem}
    {location : Location}
    {statement : Statement}
    {effect : Effect} :
    statement.effect files location = .ok effect ↔
      statement.Causes files location effect := by
  constructor
  · intro found
    cases statement with
    | request method address =>
        simp only [Statement.effect] at found
        split at found
        · next url read =>
            cases found
            exact .request read
        · cases found
    | set name value =>
        cases found
        exact .set
    | setDefault name value =>
        cases found
        exact .setDefault
    | expect expectation modifiers =>
        obtain ⟨assertion, built, rfl⟩ := map_eq_ok_iff.1 (mapError_eq_ok_iff.1 found)
        exact .expect built
    | change wanted =>
        obtain ⟨modifier, built, rfl⟩ := map_eq_ok_iff.1 (mapError_eq_ok_iff.1 found)
        exact .change built
  · intro caused
    cases caused with
    | request read => simp only [Statement.effect, read]
    | set => rfl
    | setDefault => rfl
    | expect built => simp only [Statement.effect, built, ok_map, ok_mapError]
    | change built => simp only [Statement.effect, built, ok_map, ok_mapError]

end PageCheck
