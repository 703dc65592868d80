import Mathlib.Data.List.Induction
import PageCheck.Proofs.Script.Runs
import PageCheck.Proofs.Suite.Building

/-!
# What a request carries

Request modifiers are attached to a test case one after the other, and some of them are
refused.  The request of the test case carries those that were accepted: every header,
and either the last raw content, or every parameter and every file, in order.

A change of the body replaces a body of the other shape, so nothing is lost only because
the modifiers that are attached to one test case are compatible with each other.
-/

namespace PageCheck

/-! ## Parts of requests -/

namespace RequestModifier

/-- The header that a modifier adds. -/
def header? : RequestModifier → Option (Text × Text)
  | .header name value => some (name, value)
  | _ => none

/-- The form parameter that a modifier adds. -/
def parameter? : RequestModifier → Option (Text × Text)
  | .parameter name value => some (name, value)
  | _ => none

/-- The file that a modifier adds. -/
def file? : RequestModifier → Option (Text × Text)
  | .file name path => some (name, path)
  | _ => none

/-- The body that modifiers give to a request, one rule for each shape. -/
inductive Gives (modifiers : List RequestModifier) : Body → Prop
  | raw
      {front back : List RequestModifier} {content : Text}
      (split : modifiers = front ++ .raw content :: back)
      (last : ∀ later ∈ back, later.isRaw = false)
      (noForm : ∀ other ∈ modifiers, other.isForm = false) :
      Gives modifiers (.raw content)
  | form
      (someForm : ∃ other ∈ modifiers, other.isForm = true)
      (noRaw : ∀ other ∈ modifiers, other.isRaw = false) :
      Gives modifiers
        (.form (modifiers.filterMap parameter?) (modifiers.filterMap file?))
  | empty
      (noBody : ∀ other ∈ modifiers, other.hasBody = false) :
      Gives modifiers .empty

/-- Why a modifier is refused for a method by the modifiers that are attached already.
The method is looked at first, and of the modifiers the first one that clashes. -/
inductive Refuses (method : Method) (attached : List RequestModifier)
    (modifier : RequestModifier) : BuildError → Prop
  | method
      (forbidden : modifier.isAllowedFor method = false) :
      Refuses method attached modifier (.methodNotAllowed modifier.command method)
  | clash
      {front back : List RequestModifier} {other : RequestModifier}
      (allowed : modifier.isAllowedFor method = true)
      (split : attached = front ++ other :: back)
      (first : ∀ earlier ∈ front, modifier.isCompatibleWith earlier = true)
      (incompatible : modifier.isCompatibleWith other = false) :
      Refuses method attached modifier (.incompatible modifier.command other.command)

end RequestModifier

/-- A request of a method and a URL that carries modifiers, each one once. -/
structure Request.Carries (method : Method) (url : Url) (modifiers : List RequestModifier)
    (request : Request) : Prop where
  method_eq : request.method = method
  url_eq : request.url = url
  headers_eq : request.headers = modifiers.filterMap RequestModifier.header?
  body : RequestModifier.Gives modifiers request.body

/-! ## Calls -/

namespace TestCase

/-- A test case with nothing attached to it. -/
def fresh (location : Location) (method : Method) (url : Url) : TestCase :=
  { location, method, url }

/-- The test case behind a call that attaches a modifier. -/
def attach (testCase : TestCase) (modifier : RequestModifier) : TestCase :=
  match testCase.addModifier modifier with
  | .ok extended => extended
  | .error _ => testCase

/-- The test case behind many calls. -/
def attachAll (testCase : TestCase) (calls : List RequestModifier) : TestCase :=
  calls.foldl attach testCase

/-- The modifiers of the calls that succeed, in order. -/
def accepted (testCase : TestCase) : List RequestModifier → List RequestModifier
  | [] => []
  | modifier :: later =>
      match testCase.addModifier modifier with
      | .ok extended => modifier :: extended.accepted later
      | .error _ => testCase.accepted later

/-- What calls do to a fresh test case: what is attached by now, how one more call would
fail, and what the request carries. -/
structure Collects (location : Location) (method : Method) (url : Url)
    (calls : List RequestModifier) : Prop where
  attached : (fresh location method url).attachAll calls =
    { fresh location method url with modifiers := (fresh location method url).accepted calls }
  refused_iff : ∀ modifier error,
    ((fresh location method url).attachAll calls).addModifier modifier = .error error ↔
      RequestModifier.Refuses method ((fresh location method url).accepted calls)
        modifier error
  unchanged : ∀ modifier error,
    ((fresh location method url).attachAll calls).addModifier modifier = .error error →
      (fresh location method url).attachAll (calls ++ [modifier]) =
        (fresh location method url).attachAll calls
  carries : Request.Carries method url ((fresh location method url).accepted calls)
    ((fresh location method url).attachAll calls).request
  body_of_get : method = .get →
    ((fresh location method url).attachAll calls).request.body = .empty

end TestCase

/-! ## Parameters and files of a body -/

namespace Body

/-- The form parameters in a body. -/
def parameters : Body → List (Text × Text)
  | .form parameters _ => parameters
  | _ => []

/-- The files in a body. -/
def files : Body → List (Text × Text)
  | .form _ files => files
  | _ => []

end Body

namespace Request

variable (request : Request) (name value : Text)

theorem body_addParameter :
    (request.addParameter name value).body =
      .form (request.body.parameters ++ [(name, value)]) request.body.files := by
  rw [addParameter]
  cases request.body <;> rfl

theorem body_addFile :
    (request.addFile name value).body =
      .form request.body.parameters (request.body.files ++ [(name, value)]) := by
  rw [addFile]
  cases request.body <;> rfl

end Request

/-! ## One more modifier -/

namespace RequestModifier

variable {modifier : RequestModifier} {modifiers : List RequestModifier}
variable {body : Body} {request : Request} {method : Method} {url : Url}

/-- A modifier of a form is compatible with everything but a raw content. -/
theorem isCompatibleWith_of_isForm
    (form : modifier.isForm = true)
    (other : RequestModifier) :
    modifier.isCompatibleWith other = !other.isRaw := by
  simp only [isCompatibleWith, form, Bool.true_and]
  cases modifier with
  | header | raw => cases form
  | parameter | file => rfl

/-- A raw content is compatible with everything but the modifiers of a form. -/
theorem isCompatibleWith_raw (content : Text) (other : RequestModifier) :
    (raw content).isCompatibleWith other = !other.isForm := by
  cases other <;> rfl

/-- Requests that get a page admit exactly the modifiers that leave the body alone. -/
theorem isAllowedFor_get (modifier : RequestModifier) :
    modifier.isAllowedFor .get = !modifier.hasBody := by
  cases modifier <;> rfl

/-- A modifier that does not belong to a form adds neither a parameter nor a file. -/
theorem parts_eq_none_of_isForm
    (apart : modifier.isForm = false) :
    modifier.parameter? = none ∧ modifier.file? = none := by
  cases modifier with
  | header | raw => exact ⟨rfl, rfl⟩
  | parameter | file => cases apart

/-- The body has the parameters and the files of the modifiers, also when there are none. -/
theorem Gives.parts_eq
    (gives : Gives modifiers body) :
    body.parameters = modifiers.filterMap parameter? ∧
      body.files = modifiers.filterMap file? := by
  have bare (noForm : ∀ other ∈ modifiers, other.isForm = false) :
      [] = modifiers.filterMap parameter? ∧ [] = modifiers.filterMap file? := by
    have parts := fun other inside => parts_eq_none_of_isForm (noForm other inside)
    constructor
    · exact (List.filterMap_eq_nil_iff.2 fun other inside => (parts other inside).1).symm
    · exact (List.filterMap_eq_nil_iff.2 fun other inside => (parts other inside).2).symm
  cases gives with
  | raw split last noForm => exact bare noForm
  | form someForm noRaw => exact ⟨rfl, rfl⟩
  | empty noBody =>
      exact bare fun other inside => (Bool.or_eq_false_iff.1 (noBody other inside)).1

/-- The body behind a header is the one before it. -/
theorem Gives.concat_header
    (gives : Gives modifiers body)
    (name value : Text) :
    Gives (modifiers ++ [header name value]) body := by
  cases gives with
  | @raw front back content split last noForm =>
      have shape : modifiers ++ [header name value] =
          front ++ RequestModifier.raw content :: (back ++ [header name value]) := by
        simp [split]
      refine .raw shape ?_ ?_
      · exact List.forall_mem_append.2 ⟨last, List.forall_mem_singleton.2 rfl⟩
      · exact List.forall_mem_append.2 ⟨noForm, List.forall_mem_singleton.2 rfl⟩
  | form someForm noRaw =>
      obtain ⟨other, inside, form⟩ := someForm
      have again : Gives (modifiers ++ [header name value]) _ :=
        .form ⟨other, List.mem_append_left _ inside, form⟩
          (List.forall_mem_append.2 ⟨noRaw, List.forall_mem_singleton.2 rfl⟩)
      simpa [parameter?, file?, List.filterMap_cons] using again
  | empty noBody =>
      exact .empty (List.forall_mem_append.2 ⟨noBody, List.forall_mem_singleton.2 rfl⟩)

/-- One more modifier gives its part to the body and keeps the parts that are there, if
it is compatible with the modifiers before it. -/
theorem Gives.concat
    (gives : Gives modifiers request.body)
    (compatible : ∀ other ∈ modifiers, modifier.isCompatibleWith other = true) :
    Gives (modifiers ++ [modifier]) (apply request modifier).body := by
  have noRaw (form : modifier.isForm = true) :
      ∀ other ∈ modifiers ++ [modifier], other.isRaw = false := by
    rw [List.forall_mem_append, List.forall_mem_singleton]
    constructor
    · intro other inside
      have fits := compatible other inside
      rwa [isCompatibleWith_of_isForm form, Bool.not_eq_true'] at fits
    · cases modifier with
      | header | parameter | file => rfl
      | raw => cases form
  have someForm (form : modifier.isForm = true) :
      ∃ other ∈ modifiers ++ [modifier], other.isForm = true :=
    ⟨modifier, by simp, form⟩
  cases modifier with
  | header name value => exact gives.concat_header name value
  | parameter name value =>
      have parts := gives.parts_eq
      have now := Gives.form (someForm rfl) (noRaw rfl)
      rw [apply, Request.body_addParameter, parts.1, parts.2]
      simpa [parameter?, file?, List.filterMap_cons] using now
  | file name path =>
      have parts := gives.parts_eq
      have now := Gives.form (someForm rfl) (noRaw rfl)
      rw [apply, Request.body_addFile, parts.1, parts.2]
      simpa [parameter?, file?, List.filterMap_cons] using now
  | raw content =>
      have shape : modifiers ++ [RequestModifier.raw content] =
          modifiers ++ RequestModifier.raw content :: [] := rfl
      refine .raw shape (fun _ inside => nomatch inside) ?_
      rw [List.forall_mem_append, List.forall_mem_singleton]
      refine ⟨?_, rfl⟩
      intro other inside
      have fits := compatible other inside
      rwa [isCompatibleWith_raw, Bool.not_eq_true'] at fits

/-- A request that gets a page has no body, whatever modifiers are allowed for it. -/
theorem Gives.eq_empty
    (gives : Gives modifiers body)
    (allowed : ∀ modifier ∈ modifiers, modifier.isAllowedFor .get = true) :
    body = .empty := by
  have noBody : ∀ modifier ∈ modifiers, modifier.hasBody = false := by
    intro modifier inside
    have fits := allowed modifier inside
    rwa [isAllowedFor_get, Bool.not_eq_true'] at fits
  cases gives with
  | @raw front back content split last noForm =>
      have inside : RequestModifier.raw content ∈ modifiers := by simp [split]
      cases noBody _ inside
  | form someForm noRaw =>
      obtain ⟨modifier, inside, form⟩ := someForm
      have bare := noBody modifier inside
      rw [hasBody, form, Bool.true_or] at bare
      cases bare
  | empty noBody => rfl

end RequestModifier

/-- A request carries one more modifier that is compatible with those before it. -/
theorem Request.Carries.apply
    {method : Method}
    {url : Url}
    {modifiers : List RequestModifier}
    {modifier : RequestModifier}
    {request : Request}
    (carries : request.Carries method url modifiers)
    (compatible : ∀ other ∈ modifiers, modifier.isCompatibleWith other = true) :
    (modifier.apply request).Carries method url (modifiers ++ [modifier]) where
  method_eq := by
    cases modifier <;> exact carries.method_eq
  url_eq := by
    cases modifier <;> exact carries.url_eq
  headers_eq := by
    rw [List.filterMap_append, ← carries.headers_eq]
    cases modifier with
    | header name value => rfl
    | parameter | file | raw => exact (List.append_nil _).symm
  body := carries.body.concat compatible

/-! ## Many modifiers -/

namespace TestCase

variable {testCase extended : TestCase} {modifier : RequestModifier} {error : BuildError}

/-- A test case whose modifiers could be attached in their order. -/
structure Consistent (testCase : TestCase) : Prop where
  allowed : ∀ modifier ∈ testCase.modifiers,
    modifier.isAllowedFor testCase.method = true
  compatible : testCase.modifiers.Pairwise fun earlier later =>
    later.isCompatibleWith earlier = true

theorem consistent_of_modifiers_eq_nil
    (bare : testCase.modifiers = []) :
    testCase.Consistent := by
  constructor
  · simp [bare]
  · rw [bare]
    exact .nil

/-- A modifier that is attached leaves a test case consistent. -/
theorem Consistent.addModifier
    (consistent : testCase.Consistent)
    (attached : testCase.addModifier modifier = .ok extended) :
    extended.Consistent := by
  obtain ⟨allowed, compatible, rfl⟩ := addModifier_eq_ok_iff.1 attached
  constructor
  · rw [List.forall_mem_append, List.forall_mem_singleton]
    exact ⟨consistent.allowed, allowed⟩
  · rw [List.pairwise_append]
    refine ⟨consistent.compatible, List.pairwise_singleton _ _, ?_⟩
    intro earlier inside later last
    rw [List.mem_singleton.1 last]
    exact compatible earlier inside

/-- The request of a consistent test case carries its modifiers. -/
theorem Consistent.carries
    (consistent : testCase.Consistent) :
    testCase.request.Carries testCase.method testCase.url testCase.modifiers := by
  have compatible := consistent.compatible
  rw [request]
  generalize testCase.modifiers = modifiers at compatible ⊢
  -- The last modifier is compatible with those before it, which have been applied.
  induction modifiers using List.reverseRecOn with
  | nil => exact ⟨rfl, rfl, rfl, .empty fun _ inside => nomatch inside⟩
  | append_singleton before last hypothesis =>
      obtain ⟨among, -, between⟩ := List.pairwise_append.1 compatible
      rw [List.foldl_append]
      exact (hypothesis among).apply fun other inside =>
        between other inside last (List.mem_singleton_self last)

/-- The request of a consistent test case that gets a page has no body. -/
theorem Consistent.body_of_get
    (consistent : testCase.Consistent)
    (get : testCase.method = .get) :
    testCase.request.body = .empty := by
  have allowed := consistent.allowed
  rw [get] at allowed
  exact consistent.carries.body.eq_empty allowed

/-! ## Calls that attach modifiers -/

/-- A modifier cannot be attached exactly if one of the rules refuses it. -/
theorem addModifier_eq_error_iff :
    testCase.addModifier modifier = .error error ↔
      modifier.Refuses testCase.method testCase.modifiers error := by
  have clash (other : RequestModifier) :
      (testCase.modifiers.find? fun other => !modifier.isCompatibleWith other) = some other ↔
        modifier.isCompatibleWith other = false ∧
        ∃ front back, testCase.modifiers = front ++ other :: back ∧
          ∀ earlier ∈ front, modifier.isCompatibleWith earlier = true := by
    simp [List.find?_eq_some_iff_append]
  rw [addModifier]
  constructor
  · intro failed
    split at failed
    · next allowed =>
        split at failed
        · next other found =>
            cases failed
            obtain ⟨incompatible, front, back, split, first⟩ := (clash other).1 found
            exact .clash allowed split first incompatible
        · cases failed
    · next forbidden =>
        cases failed
        exact .method (Bool.not_eq_true _ ▸ forbidden)
  · intro refuses
    cases refuses with
    | method forbidden => simp [forbidden]
    | @clash front back other allowed split first incompatible =>
        have found := (clash other).2 ⟨incompatible, front, back, split, first⟩
        simp [allowed, found]

theorem attach_of_ok
    (attached : testCase.addModifier modifier = .ok extended) :
    testCase.attach modifier = extended := by
  rw [attach, attached]

theorem attach_of_error
    (failed : testCase.addModifier modifier = .error error) :
    testCase.attach modifier = testCase := by
  rw [attach, failed]

theorem attachAll_concat (testCase : TestCase) (calls : List RequestModifier) :
    testCase.attachAll (calls ++ [modifier]) = (testCase.attachAll calls).attach modifier :=
  List.foldl_append

/-- Calls attach the modifiers that are accepted, in order, and do nothing else. -/
theorem attachAll_eq (testCase : TestCase) (calls : List RequestModifier) :
    testCase.attachAll calls =
      { testCase with modifiers := testCase.modifiers ++ testCase.accepted calls } := by
  induction calls generalizing testCase with
  | nil => simp [attachAll, accepted]
  | cons modifier later hypothesis =>
      rw [attachAll, List.foldl_cons, ← attachAll]
      cases result : testCase.addModifier modifier with
      | error error => rw [attach_of_error result, hypothesis, accepted, result]
      | ok extended =>
          obtain ⟨-, -, same⟩ := addModifier_eq_ok_iff.1 result
          rw [attach_of_ok result, hypothesis, accepted, result]
          simp [same]

/-- Calls leave a consistent test case consistent. -/
theorem Consistent.attachAll
    (consistent : testCase.Consistent)
    (calls : List RequestModifier) :
    (testCase.attachAll calls).Consistent := by
  induction calls using List.reverseRecOn with
  | nil => exact consistent
  | append_singleton before last hypothesis =>
      rw [attachAll_concat]
      cases result : (testCase.attachAll before).addModifier last with
      | error error => rwa [attach_of_error result]
      | ok extended =>
          rw [attach_of_ok result]
          exact hypothesis.addModifier result

/-- Calls on a fresh test case fail by the rules and change nothing when they fail, and
the request carries exactly the modifiers of the calls that succeed. -/
theorem collects_fresh
    (location : Location)
    (method : Method)
    (url : Url)
    (calls : List RequestModifier) :
    Collects location method url calls := by
  have built := attachAll_eq (fresh location method url) calls
  have consistent : ((fresh location method url).attachAll calls).Consistent :=
    (consistent_of_modifiers_eq_nil rfl).attachAll calls
  constructor
  · exact built
  · intro modifier error
    rw [addModifier_eq_error_iff, built]
    rfl
  · intro modifier error failed
    rw [attachAll_concat, attach_of_error failed]
  · have carries := consistent.carries
    rw [built] at carries ⊢
    exact carries
  · intro get
    refine consistent.body_of_get ?_
    rw [built]
    exact get

end TestCase

/-- The request of every test case that is read from a file carries its modifiers. -/
theorem Script.carries_of_mem_suite
    {files : FileSystem}
    {path content : Text}
    {scope : Variables}
    {testCase : TestCase}
    (member : testCase ∈ (ofContent files path scope content).suite) :
    testCase.request.Carries testCase.method testCase.url testCase.modifiers := by
  have kept : TestCase.Kept files path ((Text.lines content).zipIdx 1)
      TestCase.Consistent :=
    { opened := fun _ _ _ _ => TestCase.consistent_of_modifiers_eq_nil rfl
      asserted := fun _ consistent _ => ⟨consistent.allowed, consistent.compatible⟩
      modified := fun consistent _ attached => consistent.addModifier attached }
  exact (forall_suite_ofLines kept scope testCase member).carries

end PageCheck
