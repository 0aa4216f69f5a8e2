import Mathlib

/-!
When a chain of steps that can fail succeeds: each of its steps does. It fails with the failure of
the first step that does not.
-/

namespace Except

variable {Error Failure Value Result : Type}

theorem bind_eq_ok {step : Except Error Value} {next : Value → Except Error Result}
    {result : Result} :
    (step >>= next) = .ok result ↔ ∃ value, step = .ok value ∧ next value = .ok result := by
  cases step <;> simp [bind, Except.bind]

theorem bind_eq_error {step : Except Error Value} {next : Value → Except Error Result}
    {error : Error} :
    (step >>= next) = .error error ↔
      step = .error error ∨ ∃ value, step = .ok value ∧ next value = .error error := by
  cases step <;> simp [bind, Except.bind]

theorem map_eq_ok {step : Except Error Value} {change : Value → Result} {result : Result} :
    step.map change = .ok result ↔ ∃ value, step = .ok value ∧ change value = result := by
  cases step <;> simp [Except.map]

theorem eq_map_of_mapM {items : List Value} {step : Value → Except Error Result}
    {value : Value → Result} {results : List Result}
    (gives : ∀ item result, step item = .ok result → result = value item)
    (ran : items.mapM step = .ok results) : results = items.map value := by
  induction items generalizing results with
  | nil => exact (Except.ok.inj ran).symm
  | cons item rest ih =>
      rw [List.mapM_cons, bind_eq_ok] at ran
      obtain ⟨first, ranFirst, ran⟩ := ran
      rw [bind_eq_ok] at ran
      obtain ⟨others, ranOthers, ran⟩ := ran
      rw [List.map_cons, ← gives item first ranFirst, ← ih ranOthers]
      exact (Except.ok.inj ran).symm

theorem mapError_eq_ok {step : Except Error Value} {wrap : Error → Failure} {value : Value} :
    step.mapError wrap = .ok value ↔ step = .ok value := by
  cases step <;> simp [Except.mapError]

theorem mapError_eq_error {step : Except Error Value} {wrap : Error → Failure}
    {failure : Failure} :
    step.mapError wrap = .error failure ↔ ∃ error, step = .error error ∧ wrap error = failure := by
  cases step <;> simp [Except.mapError]

theorem elim_eq_ok {found : Option Value} {error : Error} {value : Value} :
    (found.elim (.error error) .ok : Except Error Value) = .ok value ↔ found = some value := by
  cases found <;> simp

theorem elim_eq_error {found : Option Value} {error failure : Error} :
    (found.elim (.error error) .ok : Except Error Value) = .error failure ↔
      found = none ∧ error = failure := by
  cases found <;> simp

end Except
