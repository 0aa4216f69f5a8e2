import Mathlib
import StakeLottery.Proofs.Bytes.Hex
import StakeLottery.Proofs.Number.Binary64
import StakeLottery.Proofs.Number.Decimal
import StakeLottery.Proofs.Record.Wire

/-!
The one form that a record has among all values that are read as it. Whatever is read of a record
is written in the plain form, which is read as the same record and written as itself.
-/

namespace StakeLottery

namespace Json

theorem member?_append (first second : List (String × Json)) (name : String) :
    member? (first ++ second) name = (member? second name).or (member? first name) := by
  simp only [member?, List.findRev?_eq_find?_reverse, List.reverse_append, List.find?_append]
  cases List.find? (fun member : String × Json => decide (member.1 = name)) second.reverse <;> rfl

end Json

namespace Wire

/-- The values of an integer besides itself: the truth values of zero and one, a real number
that differs from it by a fraction only, and its text with white space around. -/
inductive SpellsInteger : Json → Int → Prop where
  | integer (value : Int) : SpellsInteger (.integer value) value
  | boolean (flag : Bool) : SpellsInteger (.boolean flag) (if flag then 1 else 0)
  | real {number : Binary64} {exact : ℚ} (means : number.Means (.exact exact)) :
      SpellsInteger (.real number) (if 0 ≤ exact then ⌊exact⌋ else ⌈exact⌉)
  | text {value : Int} {before after : List Char} (written : Decimal.hasText value = true)
      (blankBefore : ∀ char ∈ before, isBlank char = true)
      (blankAfter : ∀ char ∈ after, isBlank char = true) :
      SpellsInteger (.string (String.ofList (before ++ Decimal.characters value ++ after))) value

def IsPlainBytes (value : Json) : Prop :=
  ∃ text, value = .string text ∧ Hex.IsPlain text

def IsPlainInteger (value : Json) : Prop :=
  ∃ integer, value = .integer integer

def IsPlainPart (IsPlainForm : Json → Prop) (value : Json) : Prop :=
  value = .null ∨ IsPlainForm value

def IsPlainObject (fields : List (String × (Json → Prop))) (value : Json) : Prop :=
  ∃ contents, List.Forall₂ (fun field content => field.2 content) fields contents ∧
    value = .object ((fields.map (·.1)).zip contents)

/-- Writing and reading bring all values that are read as one record to one form. Defaults that are
written before the members of an object stand for the missing ones only. -/
structure Normalizes {Record : Type} (toWire : Record → Json)
    (ofWire : Json → Except WireError Record) (IsPlainForm : Json → Prop)
    (defaults : List (String × Json)) : Prop where
  reads_back : ∀ record, ofWire (toWire record) = .ok record
  injective : Function.Injective toWire
  normal : ∀ value record, ofWire value = .ok record →
    IsPlainForm (toWire record) ∧ ofWire (toWire record) = .ok record ∧
      (ofWire (toWire record)).map toWire = .ok (toWire record)
  fixed : ∀ form, IsPlainForm form ↔ (ofWire form).map toWire = .ok form
  unique : ∀ value record, ofWire value = .ok record →
    ∃! form, IsPlainForm form ∧ ofWire form = .ok record
  defaulted : ∀ members, ofWire (.object (defaults ++ members)) = ofWire (.object members)

section

variable {Record : Type} {toWire : Record → Json} {ofWire : Json → Except WireError Record}
  {IsPlainForm : Json → Prop} {defaults : List (String × Json)}

theorem normalizes_of_plain (reads : ∀ record, ofWire (toWire record) = .ok record)
    (plain : ∀ form, IsPlainForm form ↔ ∃ record, toWire record = form)
    (defaulted : ∀ members, ofWire (.object (defaults ++ members)) = ofWire (.object members)) :
    Normalizes toWire ofWire IsPlainForm defaults where
  reads_back := reads
  injective first second same := by
    have readSame := congrArg ofWire same
    rw [reads, reads] at readSame
    exact Except.ok.inj readSame
  normal value record _ := by
    refine ⟨(plain _).mpr ⟨record, rfl⟩, reads record, ?_⟩
    rw [reads]
    rfl
  fixed form := by
    constructor
    · intro isPlain
      obtain ⟨record, rfl⟩ := (plain form).mp isPlain
      rw [reads]
      rfl
    · intro same
      obtain ⟨record, -, written⟩ := Except.map_eq_ok.mp same
      exact (plain form).mpr ⟨record, written⟩
  unique value record _ := by
    refine ⟨toWire record, ⟨(plain _).mpr ⟨record, rfl⟩, reads record⟩, ?_⟩
    rintro form ⟨isPlain, readsForm⟩
    obtain ⟨written, rfl⟩ := (plain form).mp isPlain
    rw [reads] at readsForm
    rw [Except.ok.inj readsForm]
  defaulted := defaulted

end

theorem integer_of_spells {form : Json} {value : Int} (spells : SpellsInteger form value) :
    integer form = .ok value := by
  cases spells with
  | integer => rfl
  | boolean => rfl
  | real means => rw [integer, Binary64.truncate?_of_means means]
  | text written blankBefore blankAfter =>
      rw [integer, Decimal.read?_characters blankBefore blankAfter written]

theorem bytes_string_iff {text : String} {value : Bytes} :
    bytes (.string text) = .ok value ↔ Hex.Spells text.toList value := by
  rw [← Hex.readDigits_eq_some_iff, ← Hex.read?, bytes]
  cases Hex.read? text <;> simp

theorem isPlainBytes_iff {value : Json} :
    IsPlainBytes value ↔ ∃ content, .string (Hex.render content) = value := by
  constructor
  · rintro ⟨text, rfl, plain⟩
    obtain ⟨content, written⟩ := Hex.isPlain_iff.mp plain
    exact ⟨content, by rw [written]⟩
  · rintro ⟨content, rfl⟩
    exact ⟨_, rfl, Hex.isPlain_render content⟩

section

variable {Part : Type} {toWire : Part → Json} {IsPlainForm : Json → Prop}

theorem isPlainPart_iff (plain : ∀ form, IsPlainForm form ↔ ∃ part, toWire part = form)
    {value : Json} : IsPlainPart IsPlainForm value ↔ ∃ given, partForm toWire given = value := by
  constructor
  · rintro (rfl | isPlain)
    · exact ⟨none, rfl⟩
    · obtain ⟨given, written⟩ := (plain value).mp isPlain
      exact ⟨some given, written⟩
  · rintro ⟨given, rfl⟩
    cases given with
    | none => exact .inl rfl
    | some given => exact .inr ((plain _).mpr ⟨given, rfl⟩)

end

section

variable {Value : Type} {read : Json → Except WireError Value} {default : Value}
  {first members : List (String × Json)} {name : String} {form : Json}

theorem required_append (absent : Json.member? first name = none) :
    required (first ++ members) name = required members name := by
  rw [required, required, Json.member?_append, absent, Option.or_none]

theorem fieldOr_append (found : Json.member? first name = some form)
    (reads : read form = .ok default) :
    fieldOr read default (first ++ members) name = fieldOr read default members name := by
  rw [fieldOr, fieldOr, Json.member?_append, found]
  cases Json.member? members name with
  | none => exact reads
  | some given => rfl

theorem part_append (found : Json.member? first name = some form)
    (nothing : form.isNothing = true) :
    part read (first ++ members) name = part read members name := by
  rw [part, part, Json.member?_append, found]
  cases Json.member? members name with
  | none => simp [nothing]
  | some given => rfl

end

end Wire

open Wire

namespace RoundInput

def IsPlainForm : Json → Prop :=
  IsPlainObject [("seed", IsPlainBytes), ("height", IsPlainInteger), ("round", IsPlainInteger),
    ("phase", IsPlainInteger)]

theorem isPlainForm_iff (form : Json) : IsPlainForm form ↔ ∃ input, toWire input = form := by
  constructor
  · rintro ⟨_, _ | ⟨isSeed, _ | ⟨isHeight, _ | ⟨isRound, _ | ⟨isPhase, _ | _⟩⟩⟩⟩, rfl⟩
    obtain ⟨seed, rfl⟩ := isPlainBytes_iff.mp isSeed
    obtain ⟨height, rfl⟩ := isHeight
    obtain ⟨round, rfl⟩ := isRound
    obtain ⟨phase, rfl⟩ := isPhase
    exact ⟨⟨seed, height, round, phase⟩, rfl⟩
  · rintro ⟨input, rfl⟩
    have isSeed := isPlainBytes_iff.mpr ⟨input.seed, rfl⟩
    exact ⟨_, .cons isSeed (.cons ⟨_, rfl⟩ (.cons ⟨_, rfl⟩ (.cons ⟨_, rfl⟩ .nil))), rfl⟩

theorem normalizes : Normalizes toWire ofWire IsPlainForm [] :=
  normalizes_of_plain ofWire_toWire isPlainForm_iff fun _ => rfl

end RoundInput

namespace Credential

def IsPlainForm : Json → Prop :=
  IsPlainObject [("input", IsPlainPart RoundInput.IsPlainForm), ("vrf_hash", IsPlainBytes),
    ("vrf_proof", IsPlainBytes), ("pubkey", IsPlainBytes)]

def defaults : List (String × Json) :=
  [("input", .null), ("vrf_hash", .string ""), ("vrf_proof", .string ""), ("pubkey", .string "")]

theorem isPlainForm_iff (form : Json) :
    IsPlainForm form ↔ ∃ credential, toWire credential = form := by
  constructor
  · rintro ⟨_, _ | ⟨isInput, _ | ⟨isOutput, _ | ⟨isProof, _ | ⟨isKey, _ | _⟩⟩⟩⟩, rfl⟩
    obtain ⟨input, rfl⟩ := (isPlainPart_iff RoundInput.isPlainForm_iff).mp isInput
    obtain ⟨output, rfl⟩ := isPlainBytes_iff.mp isOutput
    obtain ⟨proof, rfl⟩ := isPlainBytes_iff.mp isProof
    obtain ⟨publicKey, rfl⟩ := isPlainBytes_iff.mp isKey
    exact ⟨⟨input, output, proof, publicKey⟩, rfl⟩
  · rintro ⟨credential, rfl⟩
    have isInput := (isPlainPart_iff RoundInput.isPlainForm_iff).mpr ⟨credential.input, rfl⟩
    have isOutput := isPlainBytes_iff.mpr ⟨credential.output, rfl⟩
    have isProof := isPlainBytes_iff.mpr ⟨credential.proof, rfl⟩
    have isKey := isPlainBytes_iff.mpr ⟨credential.publicKey, rfl⟩
    exact ⟨_, .cons isInput (.cons isOutput (.cons isProof (.cons isKey .nil))), rfl⟩

theorem ofWire_defaults (members : List (String × Json)) :
    ofWire (.object (defaults ++ members)) = ofWire (.object members) := by
  have input : part RoundInput.ofWire (defaults ++ members) "input" =
      part RoundInput.ofWire members "input" := part_append rfl rfl
  have output : fieldOr bytes [] (defaults ++ members) "vrf_hash" =
      fieldOr bytes [] members "vrf_hash" := fieldOr_append rfl rfl
  have proof : fieldOr bytes [] (defaults ++ members) "vrf_proof" =
      fieldOr bytes [] members "vrf_proof" := fieldOr_append rfl rfl
  have publicKey : fieldOr bytes [] (defaults ++ members) "pubkey" =
      fieldOr bytes [] members "pubkey" := fieldOr_append rfl rfl
  simp only [ofWire, Wire.members, bind, Except.bind, input, output, proof, publicKey]

theorem normalizes : Normalizes toWire ofWire IsPlainForm defaults :=
  normalizes_of_plain ofWire_toWire isPlainForm_iff ofWire_defaults

end Credential

namespace Selection

def IsPlainForm : Json → Prop :=
  IsPlainObject [("hash", IsPlainBytes), ("index", IsPlainInteger), ("num", IsPlainInteger)]

def defaults : List (String × Json) :=
  [("num", .integer 0)]

theorem isPlainForm_iff (form : Json) :
    IsPlainForm form ↔ ∃ selection, toWire selection = form := by
  constructor
  · rintro ⟨_, _ | ⟨isHash, _ | ⟨isIndex, _ | ⟨isCommittee, _ | _⟩⟩⟩, rfl⟩
    obtain ⟨hash, rfl⟩ := isPlainBytes_iff.mp isHash
    obtain ⟨index, rfl⟩ := isIndex
    obtain ⟨committee, rfl⟩ := isCommittee
    exact ⟨⟨hash, index, committee⟩, rfl⟩
  · rintro ⟨selection, rfl⟩
    have isHash := isPlainBytes_iff.mpr ⟨selection.hash, rfl⟩
    exact ⟨_, .cons isHash (.cons ⟨_, rfl⟩ (.cons ⟨_, rfl⟩ .nil)), rfl⟩

theorem ofWire_defaults (members : List (String × Json)) :
    ofWire (.object (defaults ++ members)) = ofWire (.object members) := by
  have hash : required (defaults ++ members) "hash" = required members "hash" :=
    required_append rfl
  have index : required (defaults ++ members) "index" = required members "index" :=
    required_append rfl
  have committee : fieldOr integer 0 (defaults ++ members) "num" =
      fieldOr integer 0 members "num" := fieldOr_append rfl rfl
  simp only [ofWire, Wire.members, bind, Except.bind, hash, index, committee]

theorem normalizes : Normalizes toWire ofWire IsPlainForm defaults :=
  normalizes_of_plain ofWire_toWire isPlainForm_iff ofWire_defaults

end Selection

namespace Announcement

def IsPlainForm : Json → Prop :=
  IsPlainObject [("sort_hash", IsPlainPart Selection.IsPlainForm),
    ("proof", IsPlainPart Credential.IsPlainForm)]

def defaults : List (String × Json) :=
  [("sort_hash", .null), ("proof", .null)]

theorem isPlainForm_iff (form : Json) :
    IsPlainForm form ↔ ∃ announcement, toWire announcement = form := by
  constructor
  · rintro ⟨_, _ | ⟨isSelection, _ | ⟨isCredential, _ | _⟩⟩, rfl⟩
    obtain ⟨selection, rfl⟩ := (isPlainPart_iff Selection.isPlainForm_iff).mp isSelection
    obtain ⟨credential, rfl⟩ := (isPlainPart_iff Credential.isPlainForm_iff).mp isCredential
    exact ⟨⟨selection, credential⟩, rfl⟩
  · rintro ⟨announcement, rfl⟩
    have isSelection :=
      (isPlainPart_iff Selection.isPlainForm_iff).mpr ⟨announcement.selection, rfl⟩
    have isCredential :=
      (isPlainPart_iff Credential.isPlainForm_iff).mpr ⟨announcement.credential, rfl⟩
    exact ⟨_, .cons isSelection (.cons isCredential .nil), rfl⟩

theorem ofWire_defaults (members : List (String × Json)) :
    ofWire (.object (defaults ++ members)) = ofWire (.object members) := by
  have selection : part Selection.ofWire (defaults ++ members) "sort_hash" =
      part Selection.ofWire members "sort_hash" := part_append rfl rfl
  have credential : part Credential.ofWire (defaults ++ members) "proof" =
      part Credential.ofWire members "proof" := part_append rfl rfl
  simp only [ofWire, Wire.members, bind, Except.bind, selection, credential]

theorem normalizes : Normalizes toWire ofWire IsPlainForm defaults :=
  normalizes_of_plain ofWire_toWire isPlainForm_iff ofWire_defaults

end Announcement

namespace Wire

theorem records_normalize :
    Normalizes RoundInput.toWire RoundInput.ofWire RoundInput.IsPlainForm [] ∧
      Normalizes Credential.toWire Credential.ofWire Credential.IsPlainForm Credential.defaults ∧
      Normalizes Selection.toWire Selection.ofWire Selection.IsPlainForm Selection.defaults ∧
      Normalizes Announcement.toWire Announcement.ofWire Announcement.IsPlainForm
        Announcement.defaults ∧
      (∀ input : RoundInput,
        (RoundInput.ofWire input.toWire).map RoundInput.encode? = .ok input.encode?) ∧
      (∀ text value, bytes (.string text) = .ok value ↔ Hex.Spells text.toList value) ∧
      ∀ form value, SpellsInteger form value → integer form = .ok value := by
  refine ⟨RoundInput.normalizes, Credential.normalizes, Selection.normalizes,
    Announcement.normalizes, ?_, fun _ _ => bytes_string_iff, fun _ _ => integer_of_spells⟩
  intro input
  rw [RoundInput.ofWire_toWire]
  rfl

def mixedForm : Json :=
  .object [
    ("sort_hash", .object [("index", .string " 7 "), ("hash", .string "0A bC")]),
    ("proof", .object [
      ("input", .object [("seed", .string " FF"), ("height", .boolean true),
        ("round", .real ⟨0x4004000000000000⟩), ("phase", .integer (-3))]),
      ("comment", .null)])]

def mixedAnnouncement : Announcement :=
  { selection := some { hash := [0x0A, 0xBC], index := 7, committee := 0 }
    credential := some
      { input := some { seed := [0xFF], height := 1, round := 2, phase := -3 }
        output := [], proof := [], publicKey := [] } }

theorem records_normalize_mixed :
    Announcement.ofWire mixedForm = .ok mixedAnnouncement ∧
      ¬Announcement.IsPlainForm mixedForm ∧
      ∃! form, Announcement.IsPlainForm form ∧
        Announcement.ofWire form = .ok mixedAnnouncement := by
  have reads : Announcement.ofWire mixedForm = .ok mixedAnnouncement := by decide +kernel
  obtain ⟨-, -, -, normalizes, -⟩ := records_normalize
  refine ⟨reads, ?_, normalizes.unique mixedForm mixedAnnouncement reads⟩
  intro plain
  have same := (normalizes.fixed mixedForm).mp plain
  rw [reads] at same
  have written : mixedAnnouncement.toWire = mixedForm := Except.ok.inj same
  simp [Announcement.toWire, Selection.toWire, partForm, mixedAnnouncement, mixedForm] at written

end Wire

end StakeLottery
