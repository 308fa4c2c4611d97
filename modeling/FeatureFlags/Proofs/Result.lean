/-!
# Results of two steps

The second step counts where the first one succeeds, and what tells of a failure where it does not.
-/

set_option autoImplicit false

namespace FeatureFlags

universe u v

variable {Failure : Type u} {Result Next : Type v} {result : Except Failure Result}
  {next : Result → Except Failure Next}

theorem bind_eq_ok_iff {value : Next} :
    result >>= next = .ok value ↔ ∃ given, result = .ok given ∧ next given = .ok value := by
  cases result with
  | error failure =>
      constructor
      · intro ok
        cases ok
      · rintro ⟨given, ok, _⟩
        cases ok
  | ok given =>
      constructor
      · exact fun ok => ⟨given, rfl, ok⟩
      · rintro ⟨_, ⟨⟩, ok⟩
        exact ok

theorem bind_eq_error_iff {failure : Failure} :
    result >>= next = .error failure ↔
      result = .error failure ∨ ∃ given, result = .ok given ∧ next given = .error failure := by
  cases result with
  | error other =>
      constructor
      · rintro ⟨⟩
        exact .inl rfl
      · rintro (⟨⟨⟩⟩ | ⟨given, ok, _⟩)
        · rfl
        · cases ok
  | ok given =>
      constructor
      · exact fun failed => .inr ⟨given, rfl, failed⟩
      · rintro (failed | ⟨_, ⟨⟩, failed⟩)
        · cases failed
        · exact failed

variable {Told : Type u} {tell : Failure → Told}

theorem mapError_eq_ok_iff {value : Result} :
    result.mapError tell = .ok value ↔ result = .ok value := by
  cases result with
  | error failure =>
      constructor
      · intro ok
        cases ok
      · intro ok
        cases ok
  | ok given =>
      constructor
      · rintro ⟨⟩
        rfl
      · rintro ⟨⟩
        rfl

theorem mapError_eq_error_iff {told : Told} :
    result.mapError tell = .error told ↔
      ∃ failure, result = .error failure ∧ told = tell failure := by
  cases result with
  | error failure =>
      constructor
      · rintro ⟨⟩
        exact ⟨failure, rfl, rfl⟩
      · rintro ⟨_, ⟨⟩, rfl⟩
        rfl
  | ok given =>
      constructor
      · intro failed
        cases failed
      · rintro ⟨_, failed, _⟩
        cases failed

end FeatureFlags
