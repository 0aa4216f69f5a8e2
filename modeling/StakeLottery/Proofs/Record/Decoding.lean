import StakeLottery.Proofs.Record.Items
import StakeLottery.Proofs.Verification.Acceptance

/-!
What is read of any value whatsoever: an announcement, or the error of the first bad item. A part
is absent where its field is missing or counts as nothing, and then the announcement is rejected as
malformed before any question is asked. Fields that are unknown are not read, but one of them makes
an object count as something that would be empty without it.
-/

namespace StakeLottery

theorem Json.member?_insert {before after : List (String × Json)} {unknown name : String}
    (different : unknown ≠ name) (value : Json) :
    member? (before ++ (unknown, value) :: after) name = member? (before ++ after) name := by
  have skipped : member? [(unknown, value)] name = none := by
    simp [member?, List.findRev?, different]
  rw [← List.singleton_append, member?_append, member?_append, skipped, Option.or_none,
    member?_append]

namespace Wire

/-- The part at a path is there: none of the fields on the path is missing or counts as nothing. -/
inductive HasPart : List String → Json → Prop
  | here {value : Json} : HasPart [] value
  | inside {members : List (String × Json)} {name : String} {path : List String} {given : Json}
      (found : Json.member? members name = some given) (counts : ¬given.Falsy)
      (rest : HasPart path given) : HasPart (name :: path) (.object members)

inductive AlikeParts (Alike : Json → Json → Prop) : Option Json → Option Json → Prop
  | same {value : Option Json} : AlikeParts Alike value value
  | present {first second : Json} (counts : ¬first.Falsy) (countsToo : ¬second.Falsy)
      (alike : Alike first second) : AlikeParts Alike (some first) (some second)

/-- The values differ in fields only that are not among those of a record, and in such fields of the
parts that are there. -/
inductive AlikeBy (fields : List Field) (parts : List (String × (Json → Json → Prop))) :
    Json → Json → Prop
  | same {value : Json} : AlikeBy fields parts value value
  | objects {first second : List (String × Json)}
      (sameFields : ∀ field ∈ fields,
        Json.member? first field.name = Json.member? second field.name)
      (alikeParts : ∀ part ∈ parts,
        AlikeParts part.2 (Json.member? first part.1) (Json.member? second part.1)) :
      AlikeBy fields parts (.object first) (.object second)

theorem AlikeBy.insert {fields : List Field} {parts : List (String × (Json → Json → Prop))}
    {unknown : String} (notField : ∀ field ∈ fields, unknown ≠ field.name)
    (notPart : ∀ part ∈ parts, unknown ≠ part.1) (before after : List (String × Json))
    (value : Json) :
    AlikeBy fields parts (.object (before ++ after))
      (.object (before ++ (unknown, value) :: after)) := by
  refine .objects (fun field member => ?_) fun part member => ?_
  · rw [Json.member?_insert (notField field member)]
  · rw [Json.member?_insert (notPart part member)]
    exact .same

section

variable {Value : Type} {read : Json → Except WireError Value}
  {members first second : List (String × Json)} {name : String}

theorem part_eq_of_alike {Alike : Json → Json → Prop}
    (alike : AlikeParts Alike (Json.member? first name) (Json.member? second name))
    (reads : ∀ {first second}, Alike first second → read second = read first) :
    part read second name = part read first name := by
  generalize foundFirst : Json.member? first name = one at alike
  generalize foundSecond : Json.member? second name = other at alike
  cases alike with
  | same => rw [part, part, foundFirst, foundSecond]
  | present counts countsToo alike =>
      rw [part_of_present foundFirst counts, part_of_present foundSecond countsToo, reads alike]

theorem hasPart_cons_iff {path : List String} :
    HasPart (name :: path) (.object members) ↔
      ∃ given, Json.member? members name = some given ∧ ¬given.Falsy ∧ HasPart path given := by
  constructor
  · rintro (_ | ⟨found, counts, rest⟩)
    exact ⟨_, found, counts, rest⟩
  · rintro ⟨given, found, counts, rest⟩
    exact .inside found counts rest

theorem hasPart_iff_of_found {path : List String} {given : Json}
    (found : Json.member? members name = some given) (counts : ¬given.Falsy) :
    HasPart (name :: path) (.object members) ↔ HasPart path given := by
  rw [hasPart_cons_iff]
  constructor
  · rintro ⟨other, foundToo, -, rest⟩
    rwa [Option.some.inj (found.symm.trans foundToo)]
  · exact fun rest => ⟨given, found, counts, rest⟩

theorem part_eq_ok {value : Option Value} (reads : part read members name = .ok value) :
    (value = none ∧ ¬HasPart [name] (.object members)) ∨
      ∃ given record, Json.member? members name = some given ∧ ¬given.Falsy ∧
        read given = .ok record ∧ value = some record := by
  by_cases present : ∃ given, Json.member? members name = some given ∧ ¬given.Falsy
  · obtain ⟨given, found, counts⟩ := present
    rw [part_of_present found counts, Except.map_eq_ok] at reads
    obtain ⟨record, readsGiven, same⟩ := reads
    exact .inr ⟨given, record, found, counts, readsGiven, same.symm⟩
  · rw [part_of_absent present] at reads
    cases reads
    refine .inl ⟨rfl, fun hasPart => present ?_⟩
    obtain ⟨given, found, counts, -⟩ := hasPart_cons_iff.mp hasPart
    exact ⟨given, found, counts⟩

theorem part_eq_none_iff {value : Option Value} (reads : part read members name = .ok value) :
    value = none ↔ ¬HasPart [name] (.object members) := by
  rcases part_eq_ok reads with ⟨rfl, absent⟩ | ⟨given, record, found, counts, -, rfl⟩
  · exact iff_of_true rfl absent
  · exact iff_of_false nofun (not_not_intro (.inside found counts .here))

theorem members_eq_ok {kind : RecordKind} {value : Json} :
    Wire.members kind value = .ok members ↔ value = .object members := by
  cases value <;> simp [Wire.members]

end

end Wire

open Wire

/-! Values of a record that differ in unknown fields only. -/

def RoundInput.Alike : Json → Json → Prop :=
  AlikeBy RoundInput.fields []

def Credential.Alike : Json → Json → Prop :=
  AlikeBy Credential.fields [("input", RoundInput.Alike)]

def Selection.Alike : Json → Json → Prop :=
  AlikeBy Selection.fields []

def Announcement.Alike : Json → Json → Prop :=
  AlikeBy [] [("sort_hash", Selection.Alike), ("proof", Credential.Alike)]

variable {first second : Json}

theorem RoundInput.ofWire_of_alike (alike : RoundInput.Alike first second) :
    ofWire second = ofWire first := by
  cases alike with
  | same => rfl
  | objects sameFields _ =>
      simp only [fields, List.forall_mem_cons] at sameFields
      obtain ⟨seed, height, round, phase, -⟩ := sameFields
      simp only [ofWire, Wire.members, required, bind, Except.bind, seed, height, round, phase]

theorem Credential.ofWire_of_alike (alike : Credential.Alike first second) :
    ofWire second = ofWire first := by
  cases alike with
  | same => rfl
  | objects sameFields alikeParts =>
      have input :=
        part_eq_of_alike (alikeParts _ List.mem_cons_self) RoundInput.ofWire_of_alike
      simp only [fields, List.forall_mem_cons] at sameFields
      obtain ⟨output, proof, publicKey, -⟩ := sameFields
      simp only [ofWire, Wire.members, fieldOr, bind, Except.bind, input, output, proof, publicKey]

theorem Selection.ofWire_of_alike (alike : Selection.Alike first second) :
    ofWire second = ofWire first := by
  cases alike with
  | same => rfl
  | objects sameFields _ =>
      simp only [fields, List.forall_mem_cons] at sameFields
      obtain ⟨hash, index, committee, -⟩ := sameFields
      simp only [ofWire, Wire.members, required, fieldOr, bind, Except.bind, hash, index, committee]

theorem Announcement.ofWire_of_alike (alike : Announcement.Alike first second) :
    ofWire second = ofWire first := by
  cases alike with
  | same => rfl
  | objects _ alikeParts =>
      simp only [List.forall_mem_cons] at alikeParts
      obtain ⟨selection, credential, -⟩ := alikeParts
      have selection := part_eq_of_alike selection Selection.ofWire_of_alike
      have credential := part_eq_of_alike credential Credential.ofWire_of_alike
      simp only [ofWire, Wire.members, bind, Except.bind, selection, credential]

theorem Credential.input_eq_none_iff {value : Json} {credential : Credential}
    (reads : ofWire value = .ok credential) :
    credential.input = none ↔ ¬HasPart ["input"] value := by
  rw [ofWire, Except.bind_eq_ok] at reads
  obtain ⟨members, isObject, reads⟩ := reads
  obtain rfl := members_eq_ok.mp isObject
  obtain ⟨input, readsInput, reads⟩ := Except.bind_eq_ok.mp reads
  obtain ⟨output, -, reads⟩ := Except.bind_eq_ok.mp reads
  obtain ⟨proof, -, reads⟩ := Except.bind_eq_ok.mp reads
  obtain ⟨publicKey, -, reads⟩ := Except.bind_eq_ok.mp reads
  cases reads
  exact part_eq_none_iff readsInput

def Verdict.ofIncomplete : Verdict :=
  .ofRejection .malformed "Sort message is missing proof, sort hash or input"

namespace Announcement

theorem parts_eq_none_iff {value : Json} {announcement : Announcement}
    (reads : ofWire value = .ok announcement) :
    (announcement.selection = none ↔ ¬HasPart ["sort_hash"] value) ∧
      (announcement.credential = none ↔ ¬HasPart ["proof"] value) ∧
      (announcement.credential.bind (·.input) = none ↔ ¬HasPart ["proof", "input"] value) := by
  rw [ofWire, Except.bind_eq_ok] at reads
  obtain ⟨members, isObject, reads⟩ := reads
  obtain rfl := members_eq_ok.mp isObject
  obtain ⟨selection, readsSelection, reads⟩ := Except.bind_eq_ok.mp reads
  obtain ⟨credential, readsCredential, reads⟩ := Except.bind_eq_ok.mp reads
  cases reads
  refine ⟨part_eq_none_iff readsSelection, part_eq_none_iff readsCredential, ?_⟩
  rcases part_eq_ok readsCredential with
    ⟨rfl, absent⟩ | ⟨given, inner, found, counts, readsInner, rfl⟩
  · refine iff_of_true rfl fun hasPart => absent ?_
    obtain ⟨given, found, counts, -⟩ := hasPart_cons_iff.mp hasPart
    exact .inside found counts .here
  · rw [hasPart_iff_of_found found counts]
    exact Credential.input_eq_none_iff readsInner

theorem judge_of_incomplete {announcement : Announcement}
    (incomplete : announcement.complete? = none) {Failure : Type} (chain : Chain Failure)
    {settings : Settings} {context : LocalContext}
    (above : settings.bootstrapHeight < context.height) :
    Verification.judge chain settings context (some announcement) =
      ⟨[], .ok .ofIncomplete⟩ := by
  have rejected : Verification.verify chain settings context (some announcement) =
      Inquiry.fail (.ofRejection .malformed) := by
    rw [Verification.verify, if_neg (Int.not_le.mpr above), Option.bind_some, incomplete]
  rw [Verification.judge, rejected]
  rfl

theorem complete?_eq_none {announcement : Announcement}
    (incomplete : announcement.selection = none ∨ announcement.credential = none ∨
      announcement.credential.bind (·.input) = none) : announcement.complete? = none := by
  obtain ⟨selection, credential⟩ := announcement
  rcases incomplete with rfl | rfl | noInput
  · cases credential <;> rfl
  · rfl
  · cases credential with
    | none => rfl
    | some credential =>
        have absent : credential.input = none := noInput
        cases selection with
        | none => rfl
        | some selection =>
            change (credential.input.bind fun _ => some _) = none
            rw [absent, Option.bind_none]

/-- Any value is an announcement, or its first bad item is the error. An announcement without one of
its parts is rejected with no question asked. -/
theorem decodes_in_order (value : Json) :
    ((∃ announcement, ofWire value = .ok announcement) ↔
      ∀ item ∈ items, ∀ kind, ¬Bad value item kind) ∧
    (∀ kind, (∃ error, ofWire value = .error error ∧ error.kind = kind) ↔
      ∃ reached, FirstOf (Bad value) items reached kind) ∧
    (∀ announcement, ofWire value = .ok announcement →
      (announcement.selection = none ↔ ¬HasPart ["sort_hash"] value) ∧
      (announcement.credential = none ↔ ¬HasPart ["proof"] value) ∧
      (announcement.credential.bind (·.input) = none ↔ ¬HasPart ["proof", "input"] value) ∧
      ∀ path ∈ [["sort_hash"], ["proof"], ["proof", "input"]], ¬HasPart path value →
        ∀ {Failure : Type} (chain : Chain Failure) (settings : Settings) (context : LocalContext),
          settings.bootstrapHeight < context.height →
            Verification.judge chain settings context (some announcement) =
              ⟨[], .ok .ofIncomplete⟩) ∧
    ∀ other, Alike value other → ofWire other = ofWire value := by
  have goes := goes_ofWire value
  refine ⟨goes.exists_ok_iff, fun kind => goes.exists_error_iff Bad.unique, ?_,
    fun other => ofWire_of_alike⟩
  intro announcement reads
  obtain ⟨selection, credential, input⟩ := parts_eq_none_iff reads
  refine ⟨selection, credential, input, fun path isPart absent _ chain settings context above => ?_⟩
  refine judge_of_incomplete (complete?_eq_none ?_) chain above
  simp only [List.mem_cons, List.not_mem_nil, or_false] at isPart
  rcases isPart with rfl | rfl | rfl
  · exact .inl (selection.mpr absent)
  · exact .inr (.inl (credential.mpr absent))
  · exact .inr (.inr (input.mpr absent))

/-- An unknown field matters where it is the only one of a part. -/
theorem unknown_field_counts :
    "note" ∉ "input" :: Credential.fields.map (·.name) ∧
      ofWire (.object [("proof", .object [])]) = .ok ⟨none, none⟩ ∧
      ofWire (.object [("proof", .object [("note", .integer 1)])]) =
        .ok ⟨none, some ⟨none, [], [], []⟩⟩ :=
  ⟨by decide, rfl, rfl⟩

def faultyForm : Json :=
  .object [
    ("proof", .object [("pubkey", .integer 1),
      ("input", .object [("seed", .string "0"), ("phase", .null)])]),
    ("sort_hash", .boolean false)]

def bareMembers : List (String × Json) :=
  [("sort_hash", .object [("index", .string " 7 "), ("hash", .string "0A bC")]),
    ("proof", .object [("note", .null)])]

def bareAnnouncement : Announcement :=
  ⟨some ⟨[0x0A, 0xBC], 7, 0⟩, some ⟨none, [], [], []⟩⟩

theorem ofWire_bareMembers : ofWire (.object bareMembers) = .ok bareAnnouncement := by
  decide +kernel

theorem decodes_in_order_faulty :
    (∃ reached, FirstOf (Bad faultyForm) items reached .value) ∧
      Verification.judge (Chain.constant "holder" 1 (.integer 1) : Chain Empty) .standard
        ⟨11, 0, []⟩ (some bareAnnouncement) = ⟨[], .ok .ofIncomplete⟩ ∧
      ofWire (.object (bareMembers ++ [("note", .null)])) = .ok bareAnnouncement := by
  obtain ⟨-, fails, -⟩ := decodes_in_order faultyForm
  obtain ⟨-, -, decodes, alike⟩ := decodes_in_order (.object bareMembers)
  obtain ⟨-, -, input, malformed⟩ := decodes bareAnnouncement ofWire_bareMembers
  refine ⟨(fails .value).mp ⟨.badText, by decide +kernel, rfl⟩, ?_, ?_⟩
  · exact malformed ["proof", "input"] (by decide) (input.mp rfl) _ _ _ (by decide)
  · have noted : Alike (.object (bareMembers ++ []))
        (.object (bareMembers ++ ("note", .null) :: [])) :=
      .insert (List.forall_mem_nil _) (by simp) bareMembers [] .null
    rw [alike _ noted, ofWire_bareMembers]

end Announcement

end StakeLottery
