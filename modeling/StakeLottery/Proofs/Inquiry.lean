import Mathlib
import StakeLottery.Chain
import StakeLottery.Proofs.Outcome

/-!
When an inquiry succeeds: each of its steps does, whatever questions they ask.
-/

namespace StakeLottery

def Chain.constant {Failure : Type} (address : String) (count : Int) (difficulty : Quantity) :
    Chain Failure :=
  ⟨fun _ => .ok address, fun _ _ => .ok count, fun _ _ => .ok difficulty⟩

namespace Inquiry

variable {Error Value Result : Type}

@[simp]
theorem outcome_pure (value : Value) : (pure value : Inquiry Error Value).outcome = .ok value :=
  rfl

@[simp]
theorem outcome_of (outcome : Except Error Value) : (of outcome).outcome = outcome :=
  rfl

@[simp]
theorem outcome_ask (question : Question) (answer : Except Error Value) :
    (ask question answer).outcome = answer :=
  rfl

@[simp]
theorem outcome_fail (error : Error) : (fail error : Inquiry Error Value).outcome = .error error :=
  rfl

theorem outcome_bind (first : Inquiry Error Value) (next : Value → Inquiry Error Result) :
    (first >>= next).outcome = first.outcome >>= fun value => (next value).outcome := by
  change (first.andThen next).outcome = _
  unfold andThen
  split <;> rename_i given <;> rw [given] <;> rfl

theorem bind_outcome_ok {first : Inquiry Error Value} {next : Value → Inquiry Error Result}
    {result : Result} : (first >>= next).outcome = .ok result ↔
      ∃ value, first.outcome = .ok value ∧ (next value).outcome = .ok result := by
  rw [outcome_bind, Except.bind_eq_ok]

theorem outcome_bind_of_ok {first : Inquiry Error Value} {next : Value → Inquiry Error Result}
    {value : Value} (given : first.outcome = .ok value) :
    (first >>= next).outcome = (next value).outcome := by
  rw [outcome_bind, given]
  rfl

theorem outcome_bind_of_error {first : Inquiry Error Value} {next : Value → Inquiry Error Result}
    {error : Error} (given : first.outcome = .error error) :
    (first >>= next).outcome = .error error := by
  rw [outcome_bind, given]
  rfl

theorem then_outcome_ok {first : Inquiry Error Unit} {next : Inquiry Error Result}
    {result : Result} : (first >>= fun _ => next).outcome = .ok result ↔
      first.outcome = .ok () ∧ next.outcome = .ok result := by
  rw [bind_outcome_ok]
  exact ⟨fun ⟨(), holds, ends⟩ => ⟨holds, ends⟩, fun ⟨holds, ends⟩ => ⟨(), holds, ends⟩⟩

theorem require_ok {condition : Bool} {error : Error} {value : Unit} :
    (require condition error).outcome = .ok value ↔ condition = true := by
  cases condition <;> simp [require]

end Inquiry

end StakeLottery
