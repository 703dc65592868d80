import PageCheck.Proofs.Script.LineNumbers

/-!
# What later lines can change

Later lines only add to what earlier lines have made.  The errors stay, and so do the test
cases.  The last test case can still grow: request modifiers and assertions come behind
those that it has.  All that it can lose is the assertion of success, and only to the
assertion of a status code.
-/

namespace PageCheck

/-! ## Test cases -/

/-- What a test case can become while the lines behind it are read. -/
structure TestCase.GrowsTo (testCase grown : TestCase) : Prop where
  location_eq : grown.location = testCase.location
  method_eq : grown.method = testCase.method
  url_eq : grown.url = testCase.url
  modifiers : testCase.modifiers <+: grown.modifiers
  explicit : testCase.explicit <+: grown.explicit
  kept : testCase.assertions <+: grown.assertions ∨
    testCase.explicit <+: grown.assertions ∧
      ∃ assertion ∈ grown.assertions, assertion.isStatusCode = true

namespace TestCase

variable {testCase grown last : TestCase} {assertion : Assertion}

theorem GrowsTo.refl (testCase : TestCase) : testCase.GrowsTo testCase where
  location_eq := rfl
  method_eq := rfl
  url_eq := rfl
  modifiers := List.prefix_refl _
  explicit := List.prefix_refl _
  kept := .inl (List.prefix_refl _)

theorem GrowsTo.trans
    (first : testCase.GrowsTo grown)
    (second : grown.GrowsTo last) :
    testCase.GrowsTo last where
  location_eq := second.location_eq.trans first.location_eq
  method_eq := second.method_eq.trans first.method_eq
  url_eq := second.url_eq.trans first.url_eq
  modifiers := first.modifiers.trans second.modifiers
  explicit := first.explicit.trans second.explicit
  kept := by
    rcases second.kept with front | ⟨front, status⟩
    · -- Nothing goes in the second part, so the first part decides.
      rcases first.kept with all | ⟨explicit, code, inside, isCode⟩
      · exact .inl (all.trans front)
      · exact .inr ⟨explicit.trans front, code, front.mem inside, isCode⟩
    · exact .inr ⟨first.explicit.trans front, status⟩

/-- A test case grows by an assertion that has a line of its own. -/
theorem growsTo_addAssertion
    (testCase : TestCase)
    (explicit : assertion.isDefault = false) :
    testCase.GrowsTo (testCase.addAssertion assertion) where
  location_eq := rfl
  method_eq := rfl
  url_eq := rfl
  modifiers := List.prefix_refl _
  explicit := by
    rw [explicit_addAssertion testCase explicit]
    exact List.prefix_append _ _
  kept := by
    unfold addAssertion
    cases status : assertion.isStatusCode with
    | true => exact .inr ⟨List.prefix_append _ _, assertion, by simp, status⟩
    | false => exact .inl (List.prefix_append _ _)

/-- A test case grows by a request modifier that it admits. -/
theorem growsTo_addModifier
    {modifier : RequestModifier}
    (attached : testCase.addModifier modifier = .ok grown) :
    testCase.GrowsTo grown := by
  obtain ⟨-, -, rfl⟩ := addModifier_eq_ok_iff.1 attached
  exact { GrowsTo.refl testCase with modifiers := List.prefix_append _ _ }

end TestCase

/-! ## Suites -/

/-- Every test case of a suite is found again at its place in a longer one.  It is the same,
unless it was the last one, which may have grown. -/
def Suite.GrowsTo (suite longer : Suite) : Prop :=
  ∀ index testCase, suite[index]? = some testCase →
    ∃ found, longer[index]? = some found ∧ testCase.GrowsTo found ∧
      (index + 1 ≠ suite.length → found = testCase)

namespace Suite

variable {suite longer last : Suite} {testCase grown : TestCase}

theorem growsTo_append (suite added : Suite) : suite.GrowsTo (suite ++ added) := by
  intro index testCase there
  have inside := (List.getElem?_eq_some_iff.1 there).1
  refine ⟨testCase, ?_, .refl testCase, fun _ => rfl⟩
  rw [List.getElem?_append_left inside]
  exact there

theorem GrowsTo.refl (suite : Suite) : suite.GrowsTo suite := by
  simpa using growsTo_append suite []

/-- A test case that is the last one of a suite may be the only one that grows. -/
theorem growsTo_concat
    (finished : Suite)
    (grows : testCase.GrowsTo grown) :
    GrowsTo (finished ++ [testCase]) (finished ++ [grown]) := by
  intro index other there
  rcases Nat.lt_trichotomy index finished.length with before | rfl | behind
  · rw [List.getElem?_append_left before] at there ⊢
    exact ⟨other, there, .refl other, fun _ => rfl⟩
  · rw [List.getElem?_concat_length] at there ⊢
    cases there
    exact ⟨grown, rfl, grows, fun notLast => absurd (by simp) notLast⟩
  · have outside : (finished ++ [testCase]).length ≤ index := by
      rw [List.length_append, List.length_singleton]
      exact behind
    rw [List.getElem?_eq_none outside] at there
    cases there

theorem GrowsTo.trans
    (first : suite.GrowsTo longer)
    (second : longer.GrowsTo last) :
    suite.GrowsTo last := by
  intro index testCase there
  obtain ⟨found, foundThere, grows, same⟩ := first index testCase there
  obtain ⟨later, laterThere, growsMore, sameAgain⟩ := second index found foundThere
  refine ⟨later, laterThere, grows.trans growsMore, ?_⟩
  intro notLast
  obtain rfl := same notLast
  apply sameAgain
  -- A test case behind this one has its place in both suites.
  have inside := (List.getElem?_eq_some_iff.1 there).1
  obtain ⟨next, nextThere, -⟩ := first (index + 1) _ (List.getElem?_eq_getElem (by omega))
  have nextInside := (List.getElem?_eq_some_iff.1 nextThere).1
  omega

end Suite

/-! ## Reading more lines -/

namespace Reader

variable {files : FileSystem} {path : Text} {location : Location} {line : Text}
variable {reader next : Reader}

/-- An accepted line adds a test case, or something to the one that is open, or nothing. -/
theorem Accepts.suite_growsTo
    (accepts : reader.Accepts files location line next) :
    reader.suite.GrowsTo next.suite := by
  cases accepts with
  | opens _ _ => exact Suite.growsTo_append reader.suite _
  | sets _ _ => exact .refl reader.suite
  | setsDefault _ _ => exact .refl reader.suite
  | asserts _ current built =>
      have builds := Expectation.build_eq_ok_iff.1 built
      rw [suite_eq_of_reading current, suite_eq_of_reading rfl]
      exact Suite.growsTo_concat _ (TestCase.growsTo_addAssertion _ builds.isDefault_eq_false)
  | modifies _ current _ attached =>
      rw [suite_eq_of_reading current, suite_eq_of_reading rfl]
      exact Suite.growsTo_concat _ (TestCase.growsTo_addModifier attached)
  | idles _ _ => exact .refl reader.suite

theorem suite_step_growsTo
    (files : FileSystem)
    (path : Text)
    (reader : Reader)
    (numbered : Text × Nat) :
    reader.suite.GrowsTo (reader.step files path numbered).suite := by
  rcases step_cases files path reader numbered with
    ⟨_, same⟩ | ⟨next, _, accepted, same⟩ | ⟨cause, _, _, same⟩
  · rw [same]
    exact .refl reader.suite
  · rw [same]
    exact (accepts_of_accept accepted).suite_growsTo
  · rw [same, suite_refuse]
    exact .refl reader.suite

/-- What a step makes of the suite, a run makes of it. -/
theorem suite_readFrom_growsTo
    (files : FileSystem)
    (path : Text)
    (reader : Reader)
    (number : Nat)
    (lines : List Text) :
    reader.suite.GrowsTo (reader.readFrom files path number lines).suite := by
  induction lines generalizing reader number with
  | nil => exact .refl reader.suite
  | cons line lines hypothesis =>
      rw [readFrom_cons]
      exact (suite_step_growsTo files path reader (line, number)).trans (hypothesis _ _)

end Reader

/-- Reading a file further keeps the errors in front of the new ones, and keeps every test
case at its place and unchanged, apart from the last one, which may grow. -/
theorem Script.ofLines_growsTo
    (files : FileSystem)
    (path : Text)
    (scope : Variables)
    (front back : List Text) :
    let script := ofLines files path scope front
    let longer := ofLines files path scope (front ++ back)
    script.errors <+: longer.errors ∧ script.suite.GrowsTo longer.suite := by
  intro script longer
  have further : ({ scope } : Reader).readLines files path (front ++ back) =
      (({ scope } : Reader).readLines files path front).readFrom files path
        (1 + front.length) back :=
    Reader.readFrom_append 1 front back
  simp only [script, longer, ofLines, further]
  constructor
  · obtain ⟨added, errors_eq, -⟩ := Reader.exists_errors_readFrom files path
      (({ scope } : Reader).readLines files path front) (1 + front.length) back
    rw [errors_eq]
    exact List.prefix_append _ _
  · exact Reader.suite_readFrom_growsTo files path _ _ back

end PageCheck
