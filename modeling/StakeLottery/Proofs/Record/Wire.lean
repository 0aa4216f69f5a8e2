import Mathlib
import StakeLottery.Proofs.Outcome
import StakeLottery.Record.Wire

/-!
What is written of a record is read back as the record, whatever its fields hold and whichever of
its parts are absent.
-/

namespace StakeLottery

namespace Wire

variable {Value : Type} {read : Json → Except WireError Value} {members : List (String × Json)}
  {name : String}

theorem bytes_render (value : Bytes) : bytes (.string (Hex.render value)) = .ok value := by
  rw [bytes, Hex.read?, Hex.render, String.toList_ofList, Hex.readDigits_digits]

theorem required_of_member {form : Json} {value : Value}
    (found : Json.member? members name = some form) (reads : read form = .ok value) :
    (required members name >>= read) = .ok value := by
  rw [required, found]
  exact reads

theorem fieldOr_of_member {form : Json} {value default : Value}
    (found : Json.member? members name = some form) (reads : read form = .ok value) :
    fieldOr read default members name = .ok value := by
  rw [fieldOr, found]
  exact reads

theorem part_partForm {form : Value → Json} (reads : ∀ value, read (form value) = .ok value)
    (counts : ∀ value, (form value).isNothing = false) {given : Option Value}
    (found : Json.member? members name = some (partForm form given)) :
    part read members name = .ok given := by
  rw [part, found]
  cases given with
  | none => rfl
  | some value =>
      simp only [partForm, counts, reads]
      rfl

end Wire

namespace RoundInput

theorem ofWire_toWire (input : RoundInput) : ofWire input.toWire = .ok input := by
  refine Except.bind_eq_ok.mpr ⟨_, rfl, ?_⟩
  refine Except.bind_eq_ok.mpr ⟨_, Wire.required_of_member rfl (Wire.bytes_render _), ?_⟩
  refine Except.bind_eq_ok.mpr ⟨_, Wire.required_of_member rfl rfl, ?_⟩
  refine Except.bind_eq_ok.mpr ⟨_, Wire.required_of_member rfl rfl, ?_⟩
  exact Except.bind_eq_ok.mpr ⟨_, Wire.required_of_member rfl rfl, rfl⟩

end RoundInput

namespace Credential

theorem ofWire_toWire (credential : Credential) : ofWire credential.toWire = .ok credential := by
  refine Except.bind_eq_ok.mpr ⟨_, rfl, ?_⟩
  refine Except.bind_eq_ok.mpr
    ⟨_, Wire.part_partForm RoundInput.ofWire_toWire (fun _ => rfl) rfl, ?_⟩
  refine Except.bind_eq_ok.mpr ⟨_, Wire.fieldOr_of_member rfl (Wire.bytes_render _), ?_⟩
  refine Except.bind_eq_ok.mpr ⟨_, Wire.fieldOr_of_member rfl (Wire.bytes_render _), ?_⟩
  exact Except.bind_eq_ok.mpr ⟨_, Wire.fieldOr_of_member rfl (Wire.bytes_render _), rfl⟩

end Credential

namespace Selection

theorem ofWire_toWire (selection : Selection) : ofWire selection.toWire = .ok selection := by
  refine Except.bind_eq_ok.mpr ⟨_, rfl, ?_⟩
  refine Except.bind_eq_ok.mpr ⟨_, Wire.required_of_member rfl (Wire.bytes_render _), ?_⟩
  refine Except.bind_eq_ok.mpr ⟨_, Wire.required_of_member rfl rfl, ?_⟩
  exact Except.bind_eq_ok.mpr ⟨_, Wire.fieldOr_of_member rfl rfl, rfl⟩

end Selection

namespace Announcement

theorem ofWire_toWire (announcement : Announcement) :
    ofWire announcement.toWire = .ok announcement := by
  refine Except.bind_eq_ok.mpr ⟨_, rfl, ?_⟩
  refine Except.bind_eq_ok.mpr
    ⟨_, Wire.part_partForm Selection.ofWire_toWire (fun _ => rfl) rfl, ?_⟩
  exact Except.bind_eq_ok.mpr
    ⟨_, Wire.part_partForm Credential.ofWire_toWire (fun _ => rfl) rfl, rfl⟩

end Announcement

end StakeLottery
