/-!
# Results that may be errors

Where a result in several parts is no error, none of its parts is.  These rules
take such a result apart.  Others say with which errors a result can fail, and when two
results fail in the same way or are alike as a whole.
-/

namespace PageCheck
namespace Results

variable {ε δ α β : Type}

theorem bind_eq_ok_iff
    {result : Except ε α}
    {next : α → Except ε β}
    {value : β} :
    result.bind next = .ok value ↔ ∃ first, result = .ok first ∧ next first = .ok value := by
  cases result <;> simp [Except.bind]

/-- The same rule for results that are bound in `do` notation. -/
theorem do_eq_ok_iff
    {result : Except ε α}
    {next : α → Except ε β}
    {value : β} :
    (result >>= next) = .ok value ↔ ∃ first, result = .ok first ∧ next first = .ok value :=
  bind_eq_ok_iff

theorem map_eq_ok_iff
    {result : Except ε α}
    {change : α → β}
    {value : β} :
    result.map change = .ok value ↔ ∃ first, result = .ok first ∧ change first = value := by
  cases result <;> simp [Except.map]

theorem mapError_eq_ok_iff
    {result : Except ε α}
    {change : ε → δ}
    {value : α} :
    result.mapError change = .ok value ↔ result = .ok value := by
  cases result with
  | error fault => exact ⟨nofun, nofun⟩
  | ok first =>
      constructor
      · intro same
        cases same
        rfl
      · intro same
        cases same
        rfl

@[simp] theorem ok_bind
    (first : α)
    (next : α → Except ε β) :
    (Except.ok first).bind next = next first := rfl

@[simp] theorem ok_do
    (first : α)
    (next : α → Except ε β) :
    ((Except.ok first : Except ε α) >>= next) = next first := rfl

@[simp] theorem ok_map
    (first : α)
    (change : α → β) :
    (Except.ok first : Except ε α).map change = .ok (change first) := rfl

theorem map_map
    {γ : Type}
    (result : Except ε α)
    (change : α → β)
    (further : β → γ) :
    (result.map change).map further = result.map fun first => further (change first) := by
  cases result <;> rfl

@[simp] theorem ok_mapError
    (first : α)
    (change : ε → δ) :
    (Except.ok first : Except ε α).mapError change = .ok first := rfl

/-! ## Errors of one result -/

theorem mapError_eq_error_iff
    {result : Except ε α}
    {change : ε → δ}
    {error : δ} :
    result.mapError change = .error error ↔
      ∃ first, result = .error first ∧ change first = error := by
  cases result with
  | error first =>
      constructor
      · intro same
        cases same
        exact ⟨first, rfl, rfl⟩
      · rintro ⟨_, same, rfl⟩
        cases same
        rfl
  | ok value =>
      constructor
      · intro same
        cases same
      · rintro ⟨_, same, _⟩
        cases same

theorem map_eq_error_iff
    {result : Except ε α}
    {change : α → β}
    {error : ε} :
    result.map change = .error error ↔ result = .error error := by
  cases result <;> simp [Except.map]

theorem bind_eq_error_iff
    {result : Except ε α}
    {next : α → Except ε β}
    {error : ε} :
    result.bind next = .error error ↔
      result = .error error ∨ ∃ value, result = .ok value ∧ next value = .error error := by
  cases result <;> simp [Except.bind]

/-- Whatever a result fails with has a property. -/
def FailsWith (expected : ε → Prop) (result : Except ε α) : Prop :=
  ∀ error, result = .error error → expected error

namespace FailsWith

variable {expected : ε → Prop} {result : Except ε α}

theorem ok (value : α) : FailsWith expected (.ok value : Except ε α) := by
  intro _ failed
  cases failed

theorem error
    {first : ε}
    (admitted : expected first) :
    FailsWith expected (.error first : Except ε α) := by
  rintro _ ⟨⟩
  exact admitted

/-- A result in two parts fails like its first part, or else like its second one. -/
theorem bind
    {next : α → Except ε β}
    (first : FailsWith expected result)
    (second : ∀ value, result = .ok value → FailsWith expected (next value)) :
    FailsWith expected (result.bind next) := by
  cases result with
  | error cause =>
      rintro _ ⟨⟩
      exact first cause rfl
  | ok value => exact second value rfl

theorem map
    (first : FailsWith expected result)
    (change : α → β) :
    FailsWith expected (result.map change) := by
  cases result with
  | error cause =>
      rintro _ ⟨⟩
      exact first cause rfl
  | ok value => exact ok _

theorem mono
    {wider : ε → Prop}
    (first : FailsWith expected result)
    (includes : ∀ error, expected error → wider error) :
    FailsWith wider result :=
  fun error failed => includes error (first error failed)

end FailsWith

/-! ## Errors of two results -/

/-- Two results fail in the same way, if they fail. -/
def FailTogether (left : Except ε α) (right : Except ε β) : Prop :=
  ∀ error, left = .error error ↔ right = .error error

/-- Two results fail in the same way as far as some errors are concerned. -/
def FailAlike (relevant : ε → Prop) (left : Except ε α) (right : Except ε β) : Prop :=
  ∀ error, relevant error → (left = .error error ↔ right = .error error)

variable {relevant : ε → Prop}

theorem FailTogether.failAlike
    {left : Except ε α}
    {right : Except ε β}
    (together : FailTogether left right) :
    FailAlike relevant left right :=
  fun error _ => together error

theorem FailTogether.mapError
    {left : Except ε α}
    {right : Except ε β}
    (together : FailTogether left right)
    (change : ε → δ) :
    FailTogether (left.mapError change) (right.mapError change) := by
  intro error
  simp only [mapError_eq_error_iff, together _]

theorem FailAlike.map
    {γ κ : Type}
    {left : Except ε α}
    {right : Except ε β}
    (alike : FailAlike relevant left right)
    (change : α → γ)
    (other : β → κ) :
    FailAlike relevant (left.map change) (right.map other) := by
  intro error matters
  rw [map_eq_error_iff, map_eq_error_iff, alike error matters]

theorem FailAlike.refl (result : Except ε α) : FailAlike relevant result result :=
  fun _ _ => Iff.rfl

theorem FailAlike.error (cause : ε) :
    FailAlike relevant (.error cause : Except ε α) (.error cause : Except ε β) := by
  intro other _
  rw [Except.error.injEq, Except.error.injEq]

/-- Two results that never fail with the errors in question fail alike. -/
theorem failAlike_of_failsWith
    {left : Except ε α}
    {right : Except ε β}
    (never : FailsWith (fun error => ¬ relevant error) left)
    (neverToo : FailsWith (fun error => ¬ relevant error) right) :
    FailAlike relevant left right := by
  intro error matters
  constructor
  · intro failed
    exact absurd matters (never error failed)
  · intro failed
    exact absurd matters (neverToo error failed)

/-- Results in two parts fail alike if their first parts fail together and their second
parts fail alike. -/
theorem FailTogether.bind
    {γ κ : Type}
    {left : Except ε α}
    {right : Except ε β}
    {next : α → Except ε γ}
    {other : β → Except ε κ}
    (together : FailTogether left right)
    (second : ∀ value otherValue, left = .ok value → right = .ok otherValue →
      FailAlike relevant (next value) (other otherValue)) :
    FailAlike relevant (left.bind next) (right.bind other) := by
  cases left with
  | error cause =>
      rw [(together cause).1 rfl]
      exact .error cause
  | ok value =>
      cases right with
      | error cause => cases (together cause).2 rfl
      | ok otherValue => exact second value otherValue rfl rfl

/-- Results with the same first part fail alike if their second parts do. -/
theorem FailAlike.bind_left
    {γ : Type}
    {next other : α → Except ε γ}
    (result : Except ε α)
    (second : ∀ value, result = .ok value → FailAlike relevant (next value) (other value)) :
    FailAlike relevant (result.bind next) (result.bind other) := by
  cases result with
  | error cause => exact .refl _
  | ok value => exact second value rfl

/-- What follows does not matter if it never fails with the errors in question. -/
theorem FailAlike.bind
    {γ κ : Type}
    {left : Except ε α}
    {right : Except ε β}
    {next : α → Except ε γ}
    {other : β → Except ε κ}
    (alike : FailAlike relevant left right)
    (never : ∀ value, FailsWith (fun error => ¬ relevant error) (next value))
    (neverToo : ∀ value, FailsWith (fun error => ¬ relevant error) (other value)) :
    FailAlike relevant (left.bind next) (right.bind other) := by
  intro error matters
  have atFirst := alike error matters
  have later : ∀ value, next value ≠ .error error :=
    fun value failed => never value error failed matters
  have laterToo : ∀ value, other value ≠ .error error :=
    fun value failed => neverToo value error failed matters
  simp only [bind_eq_error_iff, atFirst, later, laterToo, and_false, exists_false]

/-! ## Results that are alike -/

/-- Two results correspond if they fail with the same error, or none of them fails and their
values are related. -/
inductive Corresponds (related : α → β → Prop) : Except ε α → Except ε β → Prop
  | error
      (cause : ε) :
      Corresponds related (.error cause) (.error cause)
  | ok
      {value : α} {other : β}
      (pair : related value other) :
      Corresponds related (.ok value) (.ok other)

/-- Where one result is no error, neither is the other. -/
theorem Corresponds.exists_of_ok
    {related : α → β → Prop}
    {value : α}
    {result : Except ε β}
    (corresponds : Corresponds related (.ok value) result) :
    ∃ other, result = .ok other ∧ related value other := by
  cases corresponds with
  | ok pair => exact ⟨_, rfl, pair⟩

/-- Values that are related in one way may be so in another. -/
theorem Corresponds.mono
    {related wider : α → β → Prop}
    {left : Except ε α}
    {right : Except ε β}
    (corresponds : Corresponds related left right)
    (includes : ∀ value other, related value other → wider value other) :
    Corresponds wider left right := by
  cases corresponds with
  | error cause => exact .error cause
  | ok pair => exact .ok (includes _ _ pair)

/-- What is made of one result in two ways corresponds if the values do. -/
theorem corresponds_map
    {γ : Type}
    {related : α → β → Prop}
    {result : Except ε γ}
    {change : γ → α}
    {other : γ → β}
    (pair : ∀ value, result = .ok value → related (change value) (other value)) :
    Corresponds related (result.map change) (result.map other) := by
  cases result with
  | error cause => exact .error cause
  | ok value => exact .ok (pair value rfl)

end Results
end PageCheck
