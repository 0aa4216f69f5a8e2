import Mathlib
import StakeLottery.Proofs.Number.Decimal
import StakeLottery.Record.RoundInput

/-!
The canonical encoding of a round's input. An input has one if its integers fit their widths; the
decoder accepts the encodings and nothing else, and reads each back as its input; and no encoding
begins with that of another input.
-/

namespace StakeLottery

namespace Bytes

theorem length_ofInt (width : Nat) (value : Int) : (ofInt width value).length = width :=
  length_ofNat width _

theorem toInt_ofInt {width : Nat} {value : Int} (fits : RoundInput.fits width value = true) :
    toInt (ofInt width value) = value := by
  simp only [RoundInput.fits, Bool.and_eq_true, decide_eq_true_eq] at fits
  obtain ⟨lower, upper⟩ := fits
  have positive : 0 < capacity width := Nat.pow_pos (by decide)
  have below : (value % (capacity width : Int)).toNat < capacity width := by
    have bound := Int.emod_lt_of_pos value (Int.natCast_pos.mpr positive)
    omega
  have isNat : toNat (ofInt width value) = (value % (capacity width : Int)).toNat :=
    toNat_ofNat width _ below
  rw [toInt, length_ofInt, isNat]
  by_cases negative : value < 0
  · have wrapped : value % (capacity width : Int) = value + capacity width := by
      rw [← Int.add_emod_right]
      exact Int.emod_eq_of_lt (by omega) (by omega)
    rw [wrapped]
    rw [if_neg (by omega)]
    omega
  · have same : value % (capacity width : Int) = value :=
      Int.emod_eq_of_lt (by omega) (by omega)
    rw [same]
    rw [if_pos (by omega)]
    omega

theorem fits_toInt {bytes : Bytes} {width : Nat} (sized : bytes.length = width) :
    RoundInput.fits width (toInt bytes) = true := by
  have below := toNat_lt bytes
  simp only [RoundInput.fits, Bool.and_eq_true, decide_eq_true_eq, toInt, ← sized]
  split <;> omega

theorem ofInt_toInt {bytes : Bytes} {width : Nat} (sized : bytes.length = width) :
    ofInt width (toInt bytes) = bytes := by
  have below := toNat_lt bytes
  have residue : toInt bytes % (capacity width : Int) = toNat bytes := by
    simp only [toInt, ← sized]
    split
    · exact Int.emod_eq_of_lt (by omega) (by omega)
    · rw [Int.sub_emod_right]
      exact Int.emod_eq_of_lt (by omega) (by omega)
  rw [ofInt, residue, Int.toNat_natCast, ← sized, ofNat_toNat]

end Bytes

namespace RoundInput

theorem decode?_toBytes {input : RoundInput} (encodable : input.encodable = true) :
    decode? input.toBytes = some input := by
  simp only [RoundInput.encodable, Bool.and_eq_true, decide_eq_true_eq] at encodable
  obtain ⟨⟨⟨seedFits, heightFits⟩, roundFits⟩, phaseFits⟩ := encodable
  have seedLength := Bytes.length_ofNat 4 input.seed.length
  have height := Bytes.length_ofInt 8 input.height
  have round := Bytes.length_ofInt 4 input.round
  have phase := Bytes.length_ofInt 4 input.phase
  have lastNumber : (Bytes.ofInt 8 input.height ++
      (Bytes.ofInt 4 input.round ++ Bytes.ofInt 4 input.phase)).drop 12 =
        Bytes.ofInt 4 input.phase := by
    rw [← List.append_assoc]
    exact List.drop_left' (by rw [List.length_append, height, round])
  simp only [decode?, toBytes, List.append_assoc, List.take_left, List.drop_left,
    List.take_left' seedLength, List.drop_left' seedLength, Bytes.toNat_ofNat 4 _ seedFits,
    List.take_left' height, List.drop_left' height, List.take_left' round, lastNumber,
    List.length_append, seedLength, height, round, phase, Bytes.toInt_ofInt heightFits,
    Bytes.toInt_ofInt roundFits, Bytes.toInt_ofInt phaseFits]
  simp [guard]

example : decode? (toBytes ⟨[7, 7], -1, 2, 1⟩) = some ⟨[7, 7], -1, 2, 1⟩ := by decide

theorem decode?_of_encode? {input : RoundInput} {bytes : Bytes}
    (encodes : input.encode? = some bytes) : decode? bytes = some input := by
  unfold encode? at encodes
  split at encodes
  case isFalse => cases encodes
  rename_i encodable
  cases encodes
  exact decode?_toBytes encodable

theorem eq_of_encode?_eq {first second : RoundInput} {bytes : Bytes}
    (firstEncodes : first.encode? = some bytes) (secondEncodes : second.encode? = some bytes) :
    first = second :=
  Option.some.inj ((decode?_of_encode? firstEncodes).symm.trans (decode?_of_encode? secondEncodes))

/-- The widths of the integers: 64 bits for the height, 32 for the round and the phase. -/
def InRange (input : RoundInput) : Prop :=
  (-2 ^ 63 ≤ input.height ∧ input.height < 2 ^ 63) ∧
    (-2 ^ 31 ≤ input.round ∧ input.round < 2 ^ 31) ∧
    (-2 ^ 31 ≤ input.phase ∧ input.phase < 2 ^ 31)

theorem fits_eight_iff {value : Int} : fits 8 value = true ↔ -2 ^ 63 ≤ value ∧ value < 2 ^ 63 := by
  have capacity : (Bytes.capacity 8 : Int) = 2 ^ 64 := by decide
  simp only [fits, capacity, Bool.and_eq_true, decide_eq_true_eq]
  omega

theorem fits_four_iff {value : Int} : fits 4 value = true ↔ -2 ^ 31 ≤ value ∧ value < 2 ^ 31 := by
  have capacity : (Bytes.capacity 4 : Int) = 2 ^ 32 := by decide
  simp only [fits, capacity, Bool.and_eq_true, decide_eq_true_eq]
  omega

theorem hasText_of_fits_eight {value : Int} (fitting : fits 8 value = true) :
    Decimal.hasText value = true := by
  have bounds := fits_eight_iff.mp fitting
  exact Decimal.hasText_of_small (by omega)

theorem hasText_of_fits_four {value : Int} (fitting : fits 4 value = true) :
    Decimal.hasText value = true := by
  have bounds := fits_four_iff.mp fitting
  exact Decimal.hasText_of_small (by omega)

theorem encodable_iff {input : RoundInput} :
    input.encodable = true ↔ input.seed.length < 2 ^ 32 ∧ input.InRange := by
  have capacity : Bytes.capacity 4 = 2 ^ 32 := by decide
  simp only [encodable, Bool.and_eq_true, decide_eq_true_eq, fits_eight_iff, fits_four_iff,
    capacity, InRange, and_assoc]

theorem encode?_eq_some_iff {input : RoundInput} {bytes : Bytes} :
    input.encode? = some bytes ↔ input.encodable = true ∧ input.toBytes = bytes := by
  rw [encode?, Option.ite_none_right_eq_some, Option.some.injEq]

theorem height_named_of_encode? {input : RoundInput} {bytes : Bytes}
    (encodes : input.encode? = some bytes) : Decimal.hasText input.height = true := by
  obtain ⟨-, heightFits, -⟩ := encodable_iff.mp (encode?_eq_some_iff.mp encodes).1
  exact hasText_of_fits_eight (fits_eight_iff.mpr heightFits)

theorem phase_named_of_encode? {input : RoundInput} {bytes : Bytes}
    (encodes : input.encode? = some bytes) : Decimal.hasText input.phase = true := by
  obtain ⟨-, -, -, phaseFits⟩ := encodable_iff.mp (encode?_eq_some_iff.mp encodes).1
  exact hasText_of_fits_four (fits_four_iff.mpr phaseFits)

theorem exists_fields_of_decode? {input : RoundInput} {bytes : Bytes}
    (decodes : decode? bytes = some input) :
    ∃ lengthField height round phase : Bytes,
      bytes = separator ++ (lengthField ++ (input.seed ++ (height ++ (round ++ phase)))) ∧
      (lengthField.length = 4 ∧ lengthField.toNat = input.seed.length) ∧
      (height.length = 8 ∧ height.toInt = input.height) ∧
      (round.length = 4 ∧ round.toInt = input.round) ∧
      (phase.length = 4 ∧ phase.toInt = input.phase) := by
  simp only [decode?, Option.bind_eq_bind, Option.bind_eq_some_iff, Option.pure_def,
    Option.some.injEq, guard] at decodes
  obtain ⟨_, marked, _, long, _, measured, rfl⟩ := decodes
  have mark := (Option.ite_none_right_eq_some.mp marked).1
  have longEnough := (Option.ite_none_right_eq_some.mp long).1
  have exact := (Option.ite_none_right_eq_some.mp measured).1
  have whole : bytes = separator ++ bytes.drop separator.length := by
    conv_lhs => rw [← List.take_append_drop separator.length bytes, mark]
  generalize bytes.drop separator.length = body at longEnough exact whole ⊢
  have bodyCut := List.take_append_drop 4 body
  have lengthWidth := List.length_take_of_le longEnough
  generalize body.take 4 = lengthField at exact bodyCut lengthWidth ⊢
  generalize body.drop 4 = tail at exact bodyCut ⊢
  have seedWidth : (tail.take (Bytes.toNat lengthField)).length = Bytes.toNat lengthField :=
    List.length_take_of_le (by omega)
  have numbersWidth : (tail.drop (Bytes.toNat lengthField)).length = 16 := by
    rw [List.length_drop]
    omega
  have tailCut := List.take_append_drop (Bytes.toNat lengthField) tail
  generalize tail.drop (Bytes.toNat lengthField) = numbers at numbersWidth tailCut ⊢
  have lastCut : (numbers.drop 8).take 4 ++ numbers.drop 12 = numbers.drop 8 := by
    conv_rhs => rw [← List.take_append_drop 4 (numbers.drop 8), List.drop_drop]
  refine ⟨_, _, _, _, ?_, ⟨lengthWidth, seedWidth.symm⟩, ⟨?_, rfl⟩, ⟨?_, rfl⟩, ⟨?_, rfl⟩⟩
  · rw [lastCut, List.take_append_drop, tailCut, bodyCut]
    exact whole
  · exact List.length_take_of_le (by omega)
  · exact List.length_take_of_le (by rw [List.length_drop]; omega)
  · rw [List.length_drop]
    omega

/-- The decoder accepts canonical encodings only. -/
theorem encode?_of_decode? {input : RoundInput} {bytes : Bytes}
    (decodes : decode? bytes = some input) : input.encode? = some bytes := by
  obtain ⟨lengthField, height, round, phase, rfl, ⟨lengthWidth, measured⟩,
    ⟨heightWidth, heightRead⟩, ⟨roundWidth, roundRead⟩, ⟨phaseWidth, phaseRead⟩⟩ :=
      exists_fields_of_decode? decodes
  have seedFits : input.seed.length < Bytes.capacity 4 := by
    rw [← measured, ← lengthWidth]
    exact Bytes.toNat_lt lengthField
  have lengthWritten : Bytes.ofNat 4 input.seed.length = lengthField := by
    rw [← measured, ← lengthWidth]
    exact Bytes.ofNat_toNat lengthField
  refine encode?_eq_some_iff.mpr ⟨?_, ?_⟩
  · simp only [encodable, seedFits, ← heightRead, ← roundRead, ← phaseRead,
      Bytes.fits_toInt heightWidth, Bytes.fits_toInt roundWidth, Bytes.fits_toInt phaseWidth,
      decide_true, Bool.and_self]
  · simp only [toBytes, lengthWritten, ← heightRead, ← roundRead, ← phaseRead,
      Bytes.ofInt_toInt heightWidth, Bytes.ofInt_toInt roundWidth, Bytes.ofInt_toInt phaseWidth,
      List.append_assoc]

theorem decode?_eq_some_iff {input : RoundInput} {bytes : Bytes} :
    decode? bytes = some input ↔ input.encode? = some bytes :=
  ⟨encode?_of_decode?, decode?_of_encode?⟩

/-! No encoding begins with another one. -/

theorem length_toBytes (input : RoundInput) :
    input.toBytes.length = separator.length + 20 + input.seed.length := by
  simp only [toBytes, List.length_append, Bytes.length_ofNat, Bytes.length_ofInt]
  omega

theorem seedLength_toBytes_append (input : RoundInput) (rest : Bytes) :
    ((input.toBytes ++ rest).drop separator.length).take 4 =
      Bytes.ofNat 4 input.seed.length := by
  simp only [toBytes, List.append_assoc, List.drop_left]
  exact List.take_left' (Bytes.length_ofNat 4 input.seed.length)

theorem eq_of_encode?_append {first second : RoundInput} {bytes rest : Bytes}
    (firstEncodes : first.encode? = some bytes)
    (secondEncodes : second.encode? = some (bytes ++ rest)) : first = second := by
  obtain ⟨firstEncodable, rfl⟩ := encode?_eq_some_iff.mp firstEncodes
  obtain ⟨secondEncodable, written⟩ := encode?_eq_some_iff.mp secondEncodes
  -- The length of the seed stands at the same place in both, and it settles the length of all.
  have sameField : Bytes.ofNat 4 first.seed.length = Bytes.ofNat 4 second.seed.length := by
    rw [← seedLength_toBytes_append first rest, ← seedLength_toBytes_append second [],
      List.append_nil, written]
  have firstFits := (encodable_iff.mp firstEncodable).1
  have secondFits := (encodable_iff.mp secondEncodable).1
  have sameLength : first.seed.length = second.seed.length := by
    rw [← Bytes.toNat_ofNat 4 first.seed.length firstFits, sameField,
      Bytes.toNat_ofNat 4 second.seed.length secondFits]
  have noRest : rest = [] := by
    have lengths := congrArg List.length written
    rw [List.length_append, length_toBytes, length_toBytes] at lengths
    exact List.length_eq_zero_iff.mp (by omega)
  rw [noRest, List.append_nil] at secondEncodes
  exact eq_of_encode?_eq firstEncodes secondEncodes

/-- An input has an encoding if its integers are in range. The decoder reads encodings back and
nothing else, and none of them begins another. -/
theorem encoding_decodable_prefix_free (input : RoundInput)
    (seedFits : input.seed.length < 2 ^ 32) :
    (input.InRange → ∃ bytes, input.encode? = some bytes) ∧
    (¬input.InRange → input.encode? = none) ∧
    (∀ bytes, decode? bytes = some input ↔ input.encode? = some bytes) ∧
    ∀ (other : RoundInput) (bytes otherBytes : Bytes), input.encode? = some bytes →
      other.encode? = some otherBytes → bytes <+: otherBytes → input = other := by
  refine ⟨?_, ?_, ?_, ?_⟩
  · intro inRange
    exact ⟨_, encode?_eq_some_iff.mpr ⟨encodable_iff.mpr ⟨seedFits, inRange⟩, rfl⟩⟩
  · intro outOfRange
    refine if_neg fun encodable => outOfRange ?_
    exact (encodable_iff.mp encodable).2
  · exact fun bytes => decode?_eq_some_iff
  · rintro other bytes _ encodes otherEncodes ⟨rest, rfl⟩
    exact eq_of_encode?_append encodes otherEncodes

def lowest : RoundInput :=
  ⟨[0, 0, 0, 4], -2 ^ 63, 2 ^ 31 - 1, -2 ^ 31⟩

theorem encoding_decodable_prefix_free_lowest :
    (∃ bytes, lowest.encode? = some bytes ∧ decode? bytes = some lowest) ∧
    ({ lowest with height := 2 ^ 63 } : RoundInput).encode? = none ∧
    ∃ bytes longer, lowest.encode? = some bytes ∧
      ({ lowest with seed := [0, 0, 0, 4, 0] } : RoundInput).encode? = some longer ∧
      ¬bytes <+: longer := by
  obtain ⟨encodes, -, decodes, begins⟩ := encoding_decodable_prefix_free lowest (by decide)
  obtain ⟨bytes, encoded⟩ := encodes (by unfold InRange; decide)
  refine ⟨⟨bytes, encoded, (decodes bytes).mpr encoded⟩, ?_, ?_⟩
  · obtain ⟨-, refused, -⟩ :=
      encoding_decodable_prefix_free { lowest with height := 2 ^ 63 } (by decide)
    exact refused (by unfold InRange; decide)
  · obtain ⟨encodesLonger, -⟩ :=
      encoding_decodable_prefix_free { lowest with seed := [0, 0, 0, 4, 0] } (by decide)
    obtain ⟨longer, encodedLonger⟩ := encodesLonger (by unfold InRange; decide)
    refine ⟨bytes, longer, encoded, encodedLonger, fun isBeginning => ?_⟩
    have same := begins _ _ _ encoded encodedLonger isBeginning
    exact absurd same (by decide)

end RoundInput

end StakeLottery
