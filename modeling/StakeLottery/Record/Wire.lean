import StakeLottery.Bytes.Hex
import StakeLottery.Json.Basic
import StakeLottery.Number.Decimal
import StakeLottery.Record.Announcement

/-!
The JSON form of the records. Writing puts every field down, byte strings as hexadecimal text and
absent parts as null. Reading is lenient: fields may be missing, and integers may come as text,
truth values or real numbers. The fields are read in one fixed order, and the first bad one is
the error.
-/

namespace StakeLottery

inductive RecordKind where
  | roundInput
  | credential
  | selection
  | announcement
  deriving DecidableEq, Repr

inductive WireError where
  | notAnObject (kind : RecordKind)
  | missingField (name : String)
  | wrongType
  | badText
  | notANumber
  | numberTooLarge
  deriving DecidableEq, Repr

namespace Wire

def members (kind : RecordKind) : Json → Except WireError (List (String × Json))
  | .object members => .ok members
  | _ => .error (.notAnObject kind)

def required (members : List (String × Json)) (name : String) : Except WireError Json :=
  match Json.member? members name with
  | some value => .ok value
  | none => .error (.missingField name)

def bytes : Json → Except WireError Bytes
  | .string text =>
    match Hex.read? text with
    | some value => .ok value
    | none => .error .badText
  | _ => .error .wrongType

def integer : Json → Except WireError Int
  | .integer value => .ok value
  | .boolean value => .ok (if value then 1 else 0)
  | .real value =>
    match value.truncate? with
    | some whole => .ok whole
    | none => .error (if value.isNaN then .notANumber else .numberTooLarge)
  | .string text =>
    match Decimal.read? text with
    | some value => .ok value
    | none => .error .badText
  | _ => .error .wrongType

def fieldOr {Value : Type} (read : Json → Except WireError Value) (default : Value)
    (members : List (String × Json)) (name : String) : Except WireError Value :=
  match Json.member? members name with
  | some value => read value
  | none => .ok default

/-- A part of a record, absent where its field is missing or counts as nothing. -/
def part {Value : Type} (read : Json → Except WireError Value) (members : List (String × Json))
    (name : String) : Except WireError (Option Value) :=
  match Json.member? members name with
  | some value => if value.isNothing then .ok none else (read value).map some
  | none => .ok none

def partForm {Value : Type} (form : Value → Json) : Option Value → Json
  | some value => form value
  | none => .null

end Wire

namespace RoundInput

def toWire (input : RoundInput) : Json :=
  .object [("seed", .string (Hex.render input.seed)), ("height", .integer input.height),
    ("round", .integer input.round), ("phase", .integer input.phase)]

def ofWire (value : Json) : Except WireError RoundInput := do
  let members ← Wire.members .roundInput value
  let seed ← Wire.required members "seed" >>= Wire.bytes
  let height ← Wire.required members "height" >>= Wire.integer
  let round ← Wire.required members "round" >>= Wire.integer
  let phase ← Wire.required members "phase" >>= Wire.integer
  return { seed, height, round, phase }

end RoundInput

namespace Credential

def toWire (credential : Credential) : Json :=
  .object [("input", Wire.partForm RoundInput.toWire credential.input),
    ("vrf_hash", .string (Hex.render credential.output)),
    ("vrf_proof", .string (Hex.render credential.proof)),
    ("pubkey", .string (Hex.render credential.publicKey))]

def ofWire (value : Json) : Except WireError Credential := do
  let members ← Wire.members .credential value
  let input ← Wire.part RoundInput.ofWire members "input"
  let output ← Wire.fieldOr Wire.bytes [] members "vrf_hash"
  let proof ← Wire.fieldOr Wire.bytes [] members "vrf_proof"
  let publicKey ← Wire.fieldOr Wire.bytes [] members "pubkey"
  return { input, output, proof, publicKey }

end Credential

namespace Selection

def toWire (selection : Selection) : Json :=
  .object [("hash", .string (Hex.render selection.hash)), ("index", .integer selection.index),
    ("num", .integer selection.committee)]

def ofWire (value : Json) : Except WireError Selection := do
  let members ← Wire.members .selection value
  let hash ← Wire.required members "hash" >>= Wire.bytes
  let index ← Wire.required members "index" >>= Wire.integer
  let committee ← Wire.fieldOr Wire.integer 0 members "num"
  return { hash, index, committee }

end Selection

namespace Announcement

def toWire (announcement : Announcement) : Json :=
  .object [("sort_hash", Wire.partForm Selection.toWire announcement.selection),
    ("proof", Wire.partForm Credential.toWire announcement.credential)]

def ofWire (value : Json) : Except WireError Announcement := do
  let members ← Wire.members .announcement value
  let selection ← Wire.part Selection.ofWire members "sort_hash"
  let credential ← Wire.part Credential.ofWire members "proof"
  return { selection, credential }

end Announcement

end StakeLottery
