import StakeLottery.Proofs.Number.IntegerText
import StakeLottery.Proofs.Precedence.Steps
import StakeLottery.Proofs.Record.Canonical

/-!
What can be wrong with a value that is read as a record, item by item in the order of reading: it is
no object, a field is missing or has another form, or something is wrong with a part that is there.
The first bad item is the error.
-/

namespace StakeLottery

inductive Json.Falsy : Json → Prop
  | null : Falsy .null
  | false : Falsy (.boolean false)
  | zero : Falsy (.integer 0)
  | realZero {number : Binary64} (isZero : number.Means (.exact 0)) : Falsy (.real number)
  | emptyString : Falsy (.string "")
  | emptyArray : Falsy (.array [])
  | emptyObject : Falsy (.object [])

theorem Json.isNothing_iff {value : Json} : value.isNothing = true ↔ value.Falsy := by
  constructor
  · intro counts
    cases value with
    | null => exact .null
    | boolean flag =>
        cases flag with
        | false => exact .false
        | true => cases counts
    | integer number =>
        obtain rfl : number = 0 := of_decide_eq_true counts
        exact .zero
    | real number => exact .realZero (Binary64.isZero_iff.mp counts)
    | string text =>
        obtain rfl : text = "" := String.isEmpty_iff.mp counts
        exact .emptyString
    | array items =>
        obtain rfl := List.isEmpty_iff.mp counts
        exact .emptyArray
    | object members =>
        obtain rfl := List.isEmpty_iff.mp counts
        exact .emptyObject
  · intro falsy
    cases falsy with
    | realZero isZero => exact Binary64.isZero_iff.mpr isZero
    | _ => rfl

/-- The kinds of error that a caller can tell apart. That of a missing field tells its name. -/
inductive FailureKind where
  | attribute
  | type
  | key (name : String)
  | value
  | overflow
  deriving DecidableEq, Repr

def RecordKind.otherValue : RecordKind → FailureKind
  | announcement | credential => .attribute
  | selection | roundInput => .type

def WireError.kind : WireError → FailureKind
  | notAnObject kind => kind.otherValue
  | missingField name => .key name
  | wrongType => .type
  | badText | notANumber => .value
  | numberTooLarge => .overflow

namespace Wire

inductive FieldForm where
  | bytes
  | integer

inductive FieldForm.Fails : FieldForm → Json → FailureKind → Prop
  | notString {value : Json} (other : ∀ text, value ≠ .string text) : Fails .bytes value .type
  | notHex {text : String} (unspelled : ∀ value, ¬Hex.Spells text.toList value) :
      Fails .bytes (.string text) .value
  | null : Fails .integer .null .type
  | array {items : List Json} : Fails .integer (.array items) .type
  | object {members : List (String × Json)} : Fails .integer (.object members) .type
  | notDecimal {text : String} (unspelled : ∀ value, ¬Decimal.Spells text.toList value) :
      Fails .integer (.string text) .value
  | notANumber {number : Binary64} (means : number.Means .notANumber) :
      Fails .integer (.real number) .value
  | infinite {number : Binary64} {negative : Bool} (means : number.Means (.infinite negative)) :
      Fails .integer (.real number) .overflow

structure Field where
  name : String
  form : FieldForm
  isRequired : Bool

/-- What is looked at when a record is read: whether it is an object, its fields, and what is looked
at of its parts. -/
inductive Item where
  | container (kind : RecordKind)
  | field (field : Field)
  | inside (part : String) (item : Item)

/-- How an item of a value is bad. Nothing inside a part is bad where the part is missing or counts
as nothing. -/
inductive Bad : Json → Item → FailureKind → Prop
  | container {value : Json} {kind : RecordKind} (other : ∀ members, value ≠ .object members) :
      Bad value (.container kind) kind.otherValue
  | missing {members : List (String × Json)} {field : Field} (isRequired : field.isRequired = true)
      (absent : Json.member? members field.name = none) :
      Bad (.object members) (.field field) (.key field.name)
  | form {members : List (String × Json)} {field : Field} {given : Json} {kind : FailureKind}
      (found : Json.member? members field.name = some given)
      (fails : field.form.Fails given kind) : Bad (.object members) (.field field) kind
  | inside {members : List (String × Json)} {part : String} {given : Json} {item : Item}
      {kind : FailureKind} (found : Json.member? members part = some given)
      (counts : ¬given.Falsy) (isBad : Bad given item kind) :
      Bad (.object members) (.inside part item) kind

end Wire

open Wire

/-! The items of each record, in the order of reading. -/

def RoundInput.fields : List Field :=
  [⟨"seed", .bytes, true⟩, ⟨"height", .integer, true⟩, ⟨"round", .integer, true⟩,
    ⟨"phase", .integer, true⟩]

def RoundInput.items : List Item :=
  .container .roundInput :: fields.map .field

def Credential.fields : List Field :=
  [⟨"vrf_hash", .bytes, false⟩, ⟨"vrf_proof", .bytes, false⟩, ⟨"pubkey", .bytes, false⟩]

def Credential.items : List Item :=
  .container .credential :: (RoundInput.items.map (.inside "input") ++ fields.map .field)

def Selection.fields : List Field :=
  [⟨"hash", .bytes, true⟩, ⟨"index", .integer, true⟩, ⟨"num", .integer, false⟩]

def Selection.items : List Item :=
  .container .selection :: fields.map .field

def Announcement.items : List Item :=
  .container .announcement ::
    (Selection.items.map (.inside "sort_hash") ++ Credential.items.map (.inside "proof"))

namespace Wire

theorem FieldForm.Fails.unique {form : FieldForm} {value : Json} {kind other : FailureKind}
    (fails : form.Fails value kind) (failsToo : form.Fails value other) : kind = other := by
  cases fails with
  | notString notString =>
      cases failsToo with
      | notString => rfl
      | notHex => exact absurd rfl (notString _)
  | notHex =>
      cases failsToo with
      | notString notString => exact absurd rfl (notString _)
      | notHex => rfl
  | notANumber means =>
      cases failsToo with
      | notANumber => rfl
      | infinite meansToo => cases means.unique meansToo
  | infinite means =>
      cases failsToo with
      | notANumber meansToo => cases means.unique meansToo
      | infinite => rfl
  | _ => cases failsToo; rfl

theorem Bad.unique {value : Json} {item : Item} {kind other : FailureKind}
    (isBad : Bad value item kind) (isBadToo : Bad value item other) : kind = other := by
  induction isBad with
  | container => cases isBadToo; rfl
  | missing _ absent =>
      cases isBadToo with
      | missing => rfl
      | form found => cases absent.symm.trans found
  | form found fails =>
      cases isBadToo with
      | missing _ absent => cases absent.symm.trans found
      | form foundToo failsToo =>
          obtain rfl := Option.some.inj (found.symm.trans foundToo)
          exact fails.unique failsToo
  | inside found _ _ ih =>
      cases isBadToo with
      | inside foundToo _ isBadToo =>
          obtain rfl := Option.some.inj (found.symm.trans foundToo)
          exact ih isBadToo

structure FieldForm.ReadBy {Value : Type} (form : FieldForm)
    (read : Json → Except WireError Value) : Prop where
  fails : ∀ value error, read value = .error error → form.Fails value error.kind
  passes : ∀ value given, read value = .ok given → ∀ kind, ¬form.Fails value kind

theorem readBy_bytes : FieldForm.bytes.ReadBy bytes where
  fails value error failed := by
    cases value with
    | string text =>
        rw [bytes] at failed
        split at failed
        · cases failed
        · next unread =>
            cases failed
            refine .notHex fun value spells => ?_
            cases unread.symm.trans (Hex.readDigits_eq_some_iff.mpr spells)
    | _ =>
        cases failed
        exact .notString fun _ same => by cases same
  passes value given reads := by
    rintro _ (⟨notString⟩ | ⟨unspelled⟩)
    · cases value with
      | string text => exact notString text rfl
      | _ => cases reads
    · exact unspelled given (bytes_string_iff.mp reads)

theorem integer_notANumber {number : Binary64} (means : number.Means .notANumber) :
    integer (.real number) = .error .notANumber := by
  rw [integer, Binary64.truncate?_eq_none means fun _ same => by cases same]
  exact congrArg Except.error (if_pos (Binary64.isNaN_iff.mpr means))

theorem integer_infinite {number : Binary64} {negative : Bool}
    (means : number.Means (.infinite negative)) :
    integer (.real number) = .error .numberTooLarge := by
  rw [integer, Binary64.truncate?_eq_none means fun _ same => by cases same]
  refine congrArg Except.error (if_neg fun isNaN => ?_)
  cases means.unique (Binary64.isNaN_iff.mp isNaN)

theorem readBy_integer : FieldForm.integer.ReadBy integer where
  fails value error failed := by
    cases value with
    | null =>
        cases failed
        exact .null
    | boolean flag => cases failed
    | integer number => cases failed
    | real number =>
        obtain ⟨meaning, means⟩ : ∃ meaning, number.Means meaning :=
          ⟨_, Binary64.means_iff.mpr rfl⟩
        cases meaning with
        | notANumber =>
            cases (integer_notANumber means).symm.trans failed
            exact .notANumber means
        | infinite negative =>
            cases (integer_infinite means).symm.trans failed
            exact .infinite means
        | exact value => cases (integer_of_spells (.real means)).symm.trans failed
    | string text =>
        rw [integer] at failed
        split at failed
        · cases failed
        · next unread =>
            cases failed
            refine .notDecimal fun value spells => ?_
            cases unread.symm.trans (Decimal.read?_eq_some_iff.mpr spells)
    | array items =>
        cases failed
        exact .array
    | object members =>
        cases failed
        exact .object
  passes value given reads := by
    intro kind fails
    cases fails with
    | notDecimal unspelled =>
        rw [integer] at reads
        split at reads
        · next read => exact unspelled _ (Decimal.read?_eq_some_iff.mp read)
        · cases reads
    | notANumber means => cases (integer_notANumber means).symm.trans reads
    | infinite means => cases (integer_infinite means).symm.trans reads
    | _ => cases reads

section

variable {Value Result : Type} {read : Json → Except WireError Value}
  {members : List (String × Json)} {name : String} {form : FieldForm} {rest : List Item}

theorem goes_members {value : Json} {kind : RecordKind}
    {next : List (String × Json) → Except WireError Result}
    (goesOn : ∀ members, GoesThrough (Bad (.object members)) WireError.kind rest (next members)) :
    GoesThrough (Bad value) WireError.kind (.container kind :: rest)
      (Wire.members kind value >>= next) := by
  cases value with
  | object members =>
      refine .step (fun error failed => by cases failed) fun given read => ?_
      cases read
      refine ⟨?_, goesOn members⟩
      rintro _ ⟨other⟩
      exact other members rfl
  | _ =>
      refine .step (fun error failed => ?_) fun given read => by cases read
      cases failed
      exact .container fun _ same => by cases same

theorem goes_field {field : Field} {absent : Except WireError Value}
    {next : Value → Except WireError Result} (readBy : field.form.ReadBy read)
    (fails : ∀ error, absent = .error error →
      field.isRequired = true ∧ error = .missingField field.name)
    (passes : ∀ value, absent = .ok value → field.isRequired = false)
    (goesOn : ∀ value, GoesThrough (Bad (.object members)) WireError.kind rest (next value)) :
    GoesThrough (Bad (.object members)) WireError.kind (.field field :: rest)
      ((Json.member? members field.name).elim absent read >>= next) := by
  cases found : Json.member? members field.name with
  | none =>
      refine .step (fun error failed => ?_) fun value reads => ⟨?_, goesOn value⟩
      · obtain ⟨isRequired, rfl⟩ := fails error failed
        exact .missing isRequired found
      · rintro kind (_ | ⟨isRequired, -⟩ | ⟨foundToo, -⟩ | _)
        · cases (passes value reads).symm.trans isRequired
        · cases found.symm.trans foundToo
  | some given =>
      refine .step (fun error failed => .form found (readBy.fails given error failed))
        fun value reads => ⟨?_, goesOn value⟩
      rintro kind (_ | ⟨-, absent⟩ | ⟨foundToo, fails⟩ | _)
      · cases found.symm.trans absent
      · obtain rfl := Option.some.inj (found.symm.trans foundToo)
        exact readBy.passes given value reads kind fails

theorem goes_required {next : Value → Except WireError Result} (readBy : form.ReadBy read)
    (goesOn : ∀ value, GoesThrough (Bad (.object members)) WireError.kind rest (next value)) :
    GoesThrough (Bad (.object members)) WireError.kind (.field ⟨name, form, true⟩ :: rest)
      ((required members name >>= read) >>= next) := by
  have isRead : (required members name >>= read) =
      (Json.member? members name).elim (.error (.missingField name)) read := by
    rw [required]
    cases Json.member? members name <;> rfl
  rw [isRead]
  refine goes_field readBy (fun error failed => ?_) (fun value given => by cases given) goesOn
  cases failed
  exact ⟨rfl, rfl⟩

theorem goes_fieldOr {default : Value} {next : Value → Except WireError Result}
    (readBy : form.ReadBy read)
    (goesOn : ∀ value, GoesThrough (Bad (.object members)) WireError.kind rest (next value)) :
    GoesThrough (Bad (.object members)) WireError.kind (.field ⟨name, form, false⟩ :: rest)
      (fieldOr read default members name >>= next) := by
  have isRead : fieldOr read default members name =
      (Json.member? members name).elim (.ok default) read := by
    rw [fieldOr]
    cases Json.member? members name <;> rfl
  rw [isRead]
  exact goes_field readBy (fun error failed => by cases failed) (fun _ _ => rfl) goesOn

theorem part_of_present {given : Json} (found : Json.member? members name = some given)
    (counts : ¬given.Falsy) : part read members name = (read given).map some := by
  rw [part, found]
  simp only [mt Json.isNothing_iff.mp counts, Bool.false_eq_true, if_false]

theorem part_of_absent
    (absent : ¬∃ given, Json.member? members name = some given ∧ ¬given.Falsy) :
    part read members name = .ok none := by
  rw [part]
  cases found : Json.member? members name with
  | none => rfl
  | some given =>
      have falsy : given.Falsy := by_contra fun counts => absent ⟨given, found, counts⟩
      exact if_pos (Json.isNothing_iff.mpr falsy)

theorem goes_part {items : List Item} {next : Option Value → Except WireError Result}
    (goes : ∀ value, GoesThrough (Bad value) WireError.kind items (read value))
    (goesOn : ∀ value, GoesThrough (Bad (.object members)) WireError.kind rest (next value)) :
    GoesThrough (Bad (.object members)) WireError.kind (items.map (.inside name) ++ rest)
      (part read members name >>= next) := by
  refine GoesThrough.bind ?_ fun value _ => goesOn value
  by_cases present : ∃ given, Json.member? members name = some given ∧ ¬given.Falsy
  · obtain ⟨given, found, counts⟩ := present
    rw [part_of_present found counts]
    refine ((goes given).map some).mapItems (Item.inside name) fun item kind =>
      ⟨?_, .inside found counts⟩
    rintro (_ | _ | _ | ⟨foundToo, -, isBad⟩)
    rwa [Option.some.inj (found.symm.trans foundToo)]
  · rw [part_of_absent present]
    constructor
    · intro error failed
      cases failed
    · intro value _
      refine List.forall_mem_map.mpr fun item _ kind isBad => ?_
      cases isBad with
      | inside found counts _ => exact present ⟨_, found, counts⟩

end

end Wire

namespace RoundInput

theorem goes_ofWire (value : Json) :
    GoesThrough (Bad value) WireError.kind items (ofWire value) := by
  refine goes_members fun members => ?_
  refine goes_required readBy_bytes fun seed => goes_required readBy_integer fun height => ?_
  refine goes_required readBy_integer fun round => goes_required readBy_integer fun phase => ?_
  exact .ok _

end RoundInput

namespace Credential

theorem goes_ofWire (value : Json) :
    GoesThrough (Bad value) WireError.kind items (ofWire value) := by
  refine goes_members fun members => goes_part RoundInput.goes_ofWire fun input => ?_
  refine goes_fieldOr readBy_bytes fun output => goes_fieldOr readBy_bytes fun proof => ?_
  exact goes_fieldOr readBy_bytes fun publicKey => .ok _

end Credential

namespace Selection

theorem goes_ofWire (value : Json) :
    GoesThrough (Bad value) WireError.kind items (ofWire value) := by
  refine goes_members fun members => ?_
  refine goes_required readBy_bytes fun hash => goes_required readBy_integer fun index => ?_
  exact goes_fieldOr readBy_integer fun committee => .ok _

end Selection

namespace Announcement

theorem goes_ofWire (value : Json) :
    GoesThrough (Bad value) WireError.kind items (ofWire value) := by
  refine goes_members fun members => goes_part Selection.goes_ofWire fun selection => ?_
  rw [← List.append_nil (List.map _ Credential.items)]
  exact goes_part Credential.goes_ofWire fun credential => .ok _

end Announcement

end StakeLottery
