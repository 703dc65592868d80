import PageCheck.Proofs.Script.Runs
import PageCheck.Proofs.Suite.Drafts

/-!
# Drafts that are written and read back

Reading the lines of a draft opens its test case, attaches its request modifiers and adds
its assertions.  Reading the lines of many drafts therefore gives their test cases in
order, without any error.
-/

namespace PageCheck

open Results

/-! ## Adding many things to a test case -/

namespace TestCase

/-- Request modifiers that can be attached to one test case can be attached to every one
with the same method and modifiers, and nothing but the modifiers changes. -/
theorem foldlM_addModifier
    {bare attached testCase : TestCase}
    {modifiers : List RequestModifier}
    (attachable : modifiers.foldlM addModifier bare = .ok attached)
    (sameMethod : testCase.method = bare.method)
    (sameModifiers : testCase.modifiers = bare.modifiers) :
    modifiers.foldlM addModifier testCase =
      .ok { testCase with modifiers := testCase.modifiers ++ modifiers } := by
  rw [foldlM_addModifier_eq_ok_iff] at attachable ⊢
  obtain ⟨allowed, compatible, pairs, -⟩ := attachable
  rw [sameMethod, sameModifiers]
  exact ⟨allowed, compatible, pairs, rfl⟩

/-- Assertions about something else than success are added in order; the assertion of
success gives way if one of them is about the status code. -/
theorem foldl_addAssertion
    {added : List Assertion}
    (explicit : ∀ assertion ∈ added, assertion.isDefault = false)
    (testCase : TestCase) :
    added.foldl addAssertion testCase =
      { testCase with
        assertions :=
          (if added.any Assertion.isStatusCode then
            testCase.assertions.filter fun other => !other.isDefault
          else
            testCase.assertions) ++ added } := by
  induction added generalizing testCase with
  | nil => simp
  | cons assertion added hypothesis =>
      rw [List.forall_mem_cons] at explicit
      rw [List.foldl_cons, hypothesis explicit.2, addAssertion]
      cases status : assertion.isStatusCode <;>
        cases later : added.any Assertion.isStatusCode <;>
          simp [status, later, explicit.1]

end TestCase

/-! ## Runs over the lines of a draft -/

namespace Reader

variable {files : FileSystem} {path : Text} {reader : Reader} {number : Nat}
variable {testCase : TestCase}

/-- The line of a request opens a test case. -/
theorem step_request
    {address : Text}
    {url : Url}
    (method : Method)
    (plain : address.IsPlain)
    (read : Url.read address = .ok url) :
    reader.step files path ((Command.request method).write [Quoted.write address], number) =
      { reader.closeCase with current := .reading (.opened ⟨path, number⟩ method url) } :=
  step_lineOf (Statement.renderedBy_request method plain) rfl (.request read) rfl

/-- The line of a request modifier attaches it to the test case. -/
theorem step_modifier
    {extended : TestCase}
    {wanted : Change}
    {modifier : RequestModifier}
    (current : reader.current = .reading testCase)
    (built : wanted.build files = .ok modifier)
    (plain : ∀ text ∈ modifier.texts, text.IsPlain)
    (attached : testCase.addModifier modifier = .ok extended) :
    reader.step files path (modifier.write, number) =
      { reader with current := .reading extended } := by
  obtain ⟨written, tokens, builds, rendered, line⟩ :=
    (Change.build_eq_ok_iff.1 built).exists_renderedBy plain
  rw [line]
  apply step_lineOf rendered
  · simp [current, Current.isMissing]
  · exact .change (Change.build_eq_ok_iff.2 builds)
  · simp only [apply, current, attached]

/-- The line of an assertion adds it to the test case, with the place of the line. -/
theorem step_assertion
    {signed : SignedAssertion}
    (current : reader.current = .reading testCase)
    (writable : signed.IsWritable) :
    reader.step files path (signed.write, number) =
      { reader with
        current := .reading
          (testCase.addAssertion { signed.assertion with location := ⟨path, number⟩ }) } := by
  obtain ⟨written, tokens, builds, rendered, line⟩ := writable.exists_renderedBy
  rw [line]
  apply step_lineOf rendered
  · simp [current, Current.isMissing]
  · exact .expect (Expectation.build_eq_ok_iff.2 (builds ⟨path, number⟩))
  · simp only [apply, current]

/-- The lines of request modifiers attach these in order. -/
theorem readFrom_modifiers
    {attached : TestCase}
    {modifiers : List RequestModifier}
    (current : reader.current = .reading testCase)
    (built : ∀ modifier ∈ modifiers, ∃ wanted : Change, wanted.build files = .ok modifier)
    (plain : ∀ modifier ∈ modifiers, ∀ text ∈ modifier.texts, text.IsPlain)
    (attachable : modifiers.foldlM TestCase.addModifier testCase = .ok attached) :
    reader.readFrom files path number (modifiers.map RequestModifier.write) =
      { reader with current := .reading attached } := by
  induction modifiers generalizing reader testCase number with
  | nil =>
      cases attachable
      rw [List.map_nil, readFrom_nil, ← current]
  | cons modifier modifiers hypothesis =>
      rw [List.forall_mem_cons] at built plain
      rw [List.foldlM_cons] at attachable
      obtain ⟨extended, first, later⟩ := do_eq_ok_iff.1 attachable
      obtain ⟨wanted, builtFirst⟩ := built.1
      rw [List.map_cons, readFrom_cons, step_modifier current builtFirst plain.1 first]
      exact hypothesis rfl built.2 plain.2 later

/-- The lines of assertions add these in order, each with its place. -/
theorem readFrom_assertions
    {assertions : List SignedAssertion}
    (current : reader.current = .reading testCase)
    (writable : ∀ signed ∈ assertions, signed.IsWritable) :
    reader.readFrom files path number (assertions.map SignedAssertion.write) =
      { reader with
        current := .reading
          ((CaseDraft.place path number assertions).foldl TestCase.addAssertion testCase) } := by
  induction assertions generalizing reader testCase number with
  | nil =>
      rw [List.map_nil, readFrom_nil, CaseDraft.place, List.zipIdx_nil, List.map_nil,
        List.foldl_nil, ← current]
  | cons signed assertions hypothesis =>
      rw [List.forall_mem_cons] at writable
      rw [List.map_cons, readFrom_cons, step_assertion current writable.1]
      exact hypothesis rfl writable.2

/-- The lines of a draft close the test case before and leave that of the draft. -/
theorem readFrom_draft
    {draft : CaseDraft}
    (writable : draft.IsWritable files) :
    reader.readFrom files path number draft.lines =
      { reader.closeCase with current := .reading (draft.testCase path number) } := by
  obtain ⟨bare, attached, sameMethod, noModifiers, attachable⟩ := writable.attachable
  have opened := @TestCase.foldlM_addModifier _ _
    (.opened ⟨path, number⟩ draft.method draft.url) _ attachable sameMethod.symm
    noModifiers.symm
  have explicit := @CaseDraft.isDefault_eq_false_of_mem_place path
    (number + 1 + draft.modifiers.length) draft.assertions writable.assertions
  rw [CaseDraft.lines, readFrom_cons, step_request draft.method writable.plain writable.read,
    readFrom_append, readFrom_modifiers rfl writable.built writable.modifiersPlain opened,
    List.length_map, readFrom_assertions rfl writable.assertions,
    TestCase.foldl_addAssertion explicit]
  rfl

/-- The lines of drafts add their test cases in order and no error. -/
theorem readFrom_drafts
    {drafts : List CaseDraft}
    (writable : ∀ draft ∈ drafts, draft.IsWritable files) :
    (reader.readFrom files path number (drafts.flatMap CaseDraft.lines)).suite =
        reader.suite ++ CaseDraft.suite path number drafts ∧
      (reader.readFrom files path number (drafts.flatMap CaseDraft.lines)).errors =
        reader.errors := by
  induction drafts generalizing reader number with
  | nil => exact ⟨(List.append_nil reader.suite).symm, rfl⟩
  | cons draft drafts hypothesis =>
      rw [List.forall_mem_cons] at writable
      rw [List.flatMap_cons, readFrom_append, readFrom_draft writable.1]
      obtain ⟨suite, errors⟩ := @hypothesis
        { reader.closeCase with current := .reading (draft.testCase path number) }
        (number + draft.lines.length) writable.2
      refine ⟨?_, errors⟩
      rw [suite, suite_eq_of_reading rfl, CaseDraft.suite, List.append_assoc]
      rfl

end Reader

/-! ## Whole files -/

/-- The lines of a draft that can be written hold no line feed. -/
theorem CaseDraft.lineFeed_notMem_of_mem_lines
    {files : FileSystem}
    {draft : CaseDraft}
    {line : Text}
    (writable : draft.IsWritable files)
    (member : line ∈ draft.lines) :
    '\n' ∉ line := by
  rw [lines, List.mem_cons, List.mem_append, List.mem_map, List.mem_map] at member
  rcases member with rfl | ⟨modifier, inside, rfl⟩ | ⟨signed, inside, rfl⟩
  · exact (Statement.renderedBy_request draft.method writable.plain).lineFeed_notMem
  · obtain ⟨wanted, built⟩ := writable.built modifier inside
    obtain ⟨written, tokens, _, rendered, line⟩ :=
      (Change.build_eq_ok_iff.1 built).exists_renderedBy (writable.modifiersPlain modifier inside)
    rw [line]
    exact rendered.lineFeed_notMem
  · obtain ⟨written, tokens, _, rendered, line⟩ :=
      (writable.assertions signed inside).exists_renderedBy
    rw [line]
    exact rendered.lineFeed_notMem

/-- Reading the lines of drafts gives exactly their test cases, in order and each at its
request line, and no error. -/
theorem Script.ofContent_lines
    {files : FileSystem}
    {drafts : List CaseDraft}
    (path : Text)
    (scope : Variables)
    (writable : ∀ draft ∈ drafts, draft.IsWritable files) :
    ofContent files path scope (Text.unlines (drafts.flatMap CaseDraft.lines)) =
      ⟨CaseDraft.suite path 1 drafts, []⟩ := by
  have whole : ∀ line ∈ drafts.flatMap CaseDraft.lines, '\n' ∉ line := by
    intro line member
    obtain ⟨draft, inside, inDraft⟩ := List.mem_flatMap.1 member
    exact (draft.lineFeed_notMem_of_mem_lines (writable draft inside) inDraft)
  have reading := @Reader.readFrom_drafts files path { scope } 1 drafts writable
  rw [ofContent_unlines files path scope whole, ofLines, Reader.readLines_eq_readFrom,
    reading.1, reading.2]
  rfl

/-- A form that is posted, and a page that is missing. -/
def CaseDraft.formAndMissing : List CaseDraft :=
  let matcher : Matcher := ⟨"a:", .exact, true, none⟩
  [ { method := .post
      address := "a:b"
      url := ⟨"a", none, "b", none, none⟩
      modifiers := [.header "Accept" [], .parameter "name" "say \"hi\""]
      assertions :=
        [⟨⟨⟨[], 0⟩, ⟨true, true, false⟩, .header "Link" (some matcher)⟩,
          [.caseInsensitive, .negated]⟩] },
    { method := .get
      address := "a:b"
      url := ⟨"a", none, "b", none, none⟩
      modifiers := []
      assertions :=
        [⟨⟨⟨[], 0⟩, .none, .empty⟩, []⟩, ⟨⟨⟨[], 0⟩, .none, .statusCode 404⟩, []⟩] } ]

/-- The form and the missing page can be written, whatever files there are. -/
theorem CaseDraft.formAndMissing_isWritable
    (files : FileSystem) :
    ∀ draft ∈ formAndMissing, draft.IsWritable files := by
  have read : Url.read "a:b" = .ok ⟨"a", none, "b", none, none⟩ := by rfl
  have plain : Text.IsPlain "a:b" := Text.isPlain_of_notMem (by decide)
  rw [formAndMissing, List.forall_mem_cons, List.forall_mem_singleton]
  refine ⟨⟨read, plain, ?built, ?texts, ?attachable, ?signed⟩,
    ⟨read, plain, by simp, by simp, ?bare, ?unsigned⟩⟩
  case built =>
    rw [List.forall_mem_cons, List.forall_mem_singleton]
    exact ⟨⟨.header "Accept: ", rfl⟩, ⟨.parameter "name" "say \"hi\"", rfl⟩⟩
  case texts =>
    rw [List.forall_mem_cons, List.forall_mem_singleton]
    have header : ∀ text ∈ [("Accept" : Text), []], '\n' ∉ text ∧ '\x7b' ∉ text := by decide
    have parameter : ∀ text ∈ [("name" : Text), "say \"hi\""],
        '\n' ∉ text ∧ '\x7b' ∉ text := by decide
    exact ⟨fun text inside => Text.isPlain_of_notMem (header text inside),
      fun text inside => Text.isPlain_of_notMem (parameter text inside)⟩
  case attachable => exact ⟨.opened ⟨[], 0⟩ .post default, _, rfl, rfl, rfl⟩
  case bare => exact ⟨.opened ⟨[], 0⟩ .get default, _, rfl, rfl, rfl⟩
  case signed =>
    rw [List.forall_mem_singleton]
    refine ⟨⟨.header "Link: a:", ⟨[], 0⟩, ⟨true, true, false⟩, rfl⟩, ⟨by decide, ?_⟩, ?_⟩
    · intro modifier
      cases modifier <;> decide
    · have header : ∀ text ∈ [("Link" : Text), "a:"], '\n' ∉ text ∧ '\x7b' ∉ text := by decide
      exact fun text inside => Text.isPlain_of_notMem (header text inside)
  case unsigned =>
    have none : Modifiers.none.SignedBy [] := ⟨List.nodup_nil, by simp⟩
    rw [List.forall_mem_cons, List.forall_mem_singleton]
    exact ⟨⟨⟨.empty, ⟨[], 0⟩, .none, rfl⟩, none, by simp [Check.texts]⟩,
      ⟨⟨.statusCode 404, ⟨[], 0⟩, .none, rfl⟩, none, by simp [Check.texts]⟩⟩

/-- The form and the missing page, written and read back. -/
theorem Script.ofContent_lines_formAndMissing :
    let files := FileNode.emptyDirectory.toFileSystem []
    let written : List Text :=
      ["post \"a:b\"",
        "with-header \"Accept: \"",
        "with-post-parameter \"name\" \"say \\\"hi\\\"\"",
        "assert-header \"Link: a:\" ~ !",
        "get \"a:b\"",
        "assert-empty",
        "assert-status-code \"404\""]
    CaseDraft.formAndMissing.flatMap CaseDraft.lines = written ∧
      ofContent files "t" {} (Text.unlines written) =
        ⟨CaseDraft.suite "t" 1 CaseDraft.formAndMissing, []⟩ := by
  intro files written
  have lines : CaseDraft.formAndMissing.flatMap CaseDraft.lines = written := by
    decide +kernel
  refine ⟨lines, ?_⟩
  rw [← lines]
  exact ofContent_lines "t" {} (CaseDraft.formAndMissing_isWritable files)

end PageCheck
