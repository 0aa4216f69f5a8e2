import Mathlib
import StakeLottery.Proofs.Curve.RoundTrip
import StakeLottery.Proofs.Ecvrf.Transcript

/-!
The point of an input is that of the first attempt whose digest is the first coordinate of a point.
Of the two points with that coordinate it is the even one, and whoever evaluates or verifies for the
key gets the same.
-/

namespace StakeLottery.Ecvrf

open Curve

theorem findSome?_range_eq_some_iff {Value : Type} {search : Nat → Option Value} {count : Nat}
    {value : Value} :
    (List.range count).findSome? search = some value ↔
      ∃ index < count, search index = some value ∧ ∀ earlier < index, search earlier = none := by
  induction count with
  | zero => simp
  | succ count ih =>
      rw [List.range_succ, List.findSome?_append, Option.or_eq_some_iff, ih,
        List.findSome?_eq_none_iff, List.findSome?_singleton]
      simp only [List.mem_range]
      constructor
      · rintro (⟨index, below, found, first⟩ | ⟨unfound, found⟩)
        · exact ⟨index, Nat.lt_succ_of_lt below, found, first⟩
        · exact ⟨count, Nat.lt_succ_self count, found, unfound⟩
      · rintro ⟨index, below, found, first⟩
        rcases Nat.lt_succ_iff_lt_or_eq.mp below with before | rfl
        · exact .inl ⟨index, before, found, first⟩
        · exact .inr ⟨first, found⟩

def attempt (publicKey input : Bytes) (counter : Nat) : Bytes :=
  Sha256.hash ([0xfe, 1] ++ publicKey ++ input ++ [UInt8.ofNat counter, 0])

/-- The attempts, of 256, that propose the first coordinate of a point. -/
def qualifying (publicKey input : Bytes) : Set Nat :=
  {counter | counter < 256 ∧ IsAbscissa (Bytes.toNat (attempt publicKey input counter))}

section

variable {publicKey input : Bytes} {counter : Nat} {point : Point}

theorem candidate_eq : candidate publicKey input counter = 2 :: attempt publicKey input counter :=
  rfl

theorem exists_decode_attempt_iff :
    (∃ point, Point.decode (2 :: attempt publicKey input counter) = .ok point) ↔
      IsAbscissa (Bytes.toNat (attempt publicKey input counter)) := by
  have form : Point.HasForm (2 :: attempt publicKey input counter) :=
    ⟨congrArg Nat.succ (Sha256.length_hash _), .inl rfl⟩
  rw [Point.exists_decode_iff, and_iff_right form, List.tail_cons]

theorem exists_even_of_decode
    (decoded : Point.decode (2 :: attempt publicKey input counter) = .ok point) :
    ∃ x y, point = .ofNats x y ∧ IsPoint x y ∧ y % 2 = 0 ∧
      x = Bytes.toNat (attempt publicKey input counter) := by
  obtain ⟨x, y, same, isPoint, -, spelled⟩ := Point.exists_coordinates_of_decode decoded
  obtain ⟨mark, digits⟩ := List.cons.inj spelled
  refine ⟨x, y, same, isPoint, ?_, ?_⟩
  · by_contra odd
    rw [if_pos (Nat.mod_two_ne_zero.mp odd)] at mark
    exact absurd mark (by decide)
  · rw [digits, Bytes.toNat_ofNat]
    exact Nat.lt_trans isPoint.x_lt (by decide)

theorem inputPoint?_eq_findSome? :
    inputPoint? publicKey input = (List.range 256).findSome? fun counter =>
      (Point.decode (2 :: attempt publicKey input counter)).toOption := by
  unfold inputPoint?
  congr 1
  funext counter
  rw [candidate_eq]
  cases Point.decode (2 :: attempt publicKey input counter) <;> rfl

theorem toOption_eq_some_iff :
    (Point.decode (2 :: attempt publicKey input counter)).toOption = some point ↔
      Point.decode (2 :: attempt publicKey input counter) = .ok point := by
  cases Point.decode (2 :: attempt publicKey input counter) <;> simp [Except.toOption]

theorem toOption_eq_none_iff :
    (Point.decode (2 :: attempt publicKey input counter)).toOption = none ↔
      ¬IsAbscissa (Bytes.toNat (attempt publicKey input counter)) := by
  rw [← exists_decode_attempt_iff]
  cases Point.decode (2 :: attempt publicKey input counter) <;> simp [Except.toOption]

theorem inputPoint?_eq_some_iff :
    inputPoint? publicKey input = some point ↔
      ∃ counter, IsLeast (qualifying publicKey input) counter ∧
        Point.decode (2 :: attempt publicKey input counter) = .ok point := by
  rw [inputPoint?_eq_findSome?, findSome?_range_eq_some_iff]
  simp only [toOption_eq_some_iff, toOption_eq_none_iff]
  constructor
  · rintro ⟨counter, below, decoded, first⟩
    refine ⟨counter, ⟨⟨below, exists_decode_attempt_iff.mp ⟨point, decoded⟩⟩, ?_⟩, decoded⟩
    rintro other ⟨-, isAbscissa⟩
    by_contra earlier
    exact first other (Nat.lt_of_not_le earlier) isAbscissa
  · rintro ⟨counter, ⟨⟨below, -⟩, least⟩, decoded⟩
    refine ⟨counter, below, decoded, fun earlier before isAbscissa => ?_⟩
    exact absurd (least ⟨before.trans below, isAbscissa⟩) (Nat.not_le.mpr before)

theorem exists_inputPoint_of_isLeast (least : IsLeast (qualifying publicKey input) counter) :
    ∃ point, Point.decode (2 :: attempt publicKey input counter) = .ok point ∧
      inputPoint? publicKey input = some point := by
  obtain ⟨point, decoded⟩ := exists_decode_attempt_iff.mpr least.1.2
  exact ⟨point, decoded, inputPoint?_eq_some_iff.mpr ⟨counter, least, decoded⟩⟩

theorem inputPoint?_eq_none_iff :
    inputPoint? publicKey input = none ↔ qualifying publicKey input = ∅ := by
  constructor
  · intro absent
    by_contra occupied
    have nonempty := Set.nonempty_iff_ne_empty.mpr occupied
    obtain ⟨counter, least⟩ : ∃ counter, IsLeast (qualifying publicKey input) counter :=
      ⟨_, Nat.sInf_mem nonempty, fun _ => Nat.sInf_le⟩
    obtain ⟨point, -, found⟩ := exists_inputPoint_of_isLeast least
    cases absent.symm.trans found
  · intro empty
    by_contra present
    obtain ⟨point, found⟩ := Option.ne_none_iff_exists'.mp present
    obtain ⟨counter, least, -⟩ := inputPoint?_eq_some_iff.mp found
    rw [empty] at least
    exact least.1

end

theorem evaluateAt_inputPoint {key : SecretKey} {input : Bytes} {evaluation : Evaluation}
    (evaluated : evaluate key input = .ok evaluation) :
    ∃ point nonce, inputPoint? key.publicKey input = some point ∧ 0 < nonce ∧ nonce < groupOrder ∧
      evaluateAt key point nonce = .ok evaluation ∧
      ∀ proof transcript (run : TranscribedProof key.publicKey input proof transcript),
        run.inputPoint = point := by
  obtain ⟨point, nonce, found, positive, below, made⟩ := exists_nonce_of_evaluate evaluated
  refine ⟨point, nonce, found, positive, below, made, ?_⟩
  intro proof transcript run
  exact Option.some.inj (run.found.symm.trans found)

theorem evaluate_of_noInputPoint {key : SecretKey} {input : Bytes}
    (absent : inputPoint? key.publicKey input = none) :
    evaluate key input = .error .noInputPoint := by
  rw [evaluate, absent]
  rfl

theorem provenOutput_of_noInputPoint {publicKey input : Bytes}
    (absent : inputPoint? publicKey input = none) (proof output : Bytes) :
    provenOutput publicKey input proof ≠ .ok output := by
  intro proven
  obtain ⟨accepted, -⟩ := provenOutput_ok.mp proven
  cases absent.symm.trans accepted.found

/-- The point of an input is the even point of the first attempt that qualifies, and there is none
exactly if no attempt does. -/
theorem input_point_of_first_qualifying (publicKey input : Bytes) :
    (∀ counter, IsLeast (qualifying publicKey input) counter →
      ∃ point, Point.decode (2 :: attempt publicKey input counter) = .ok point ∧
        inputPoint? publicKey input = some point) ∧
    (∀ point, inputPoint? publicKey input = some point →
      ∃ counter x y, IsLeast (qualifying publicKey input) counter ∧
        Point.decode (2 :: attempt publicKey input counter) = .ok point ∧
        point = .ofNats x y ∧ IsPoint x y ∧ y % 2 = 0 ∧
        x = Bytes.toNat (attempt publicKey input counter) ∧
        point.encode = .ok (2 :: attempt publicKey input counter)) ∧
    (inputPoint? publicKey input = none ↔
      ∀ counter < 256, ¬IsAbscissa (Bytes.toNat (attempt publicKey input counter))) ∧
    (∀ key : SecretKey, key.publicKey = publicKey → ∀ evaluation,
      evaluate key input = .ok evaluation → ∃ point nonce,
        inputPoint? publicKey input = some point ∧ 0 < nonce ∧ nonce < groupOrder ∧
          evaluateAt key point nonce = .ok evaluation ∧
          ∀ proof transcript (run : TranscribedProof publicKey input proof transcript),
            run.inputPoint = point) ∧
    (inputPoint? publicKey input = none →
      (∀ key : SecretKey, key.publicKey = publicKey →
        evaluate key input = .error .noInputPoint) ∧
      ∀ proof output, provenOutput publicKey input proof ≠ .ok output) := by
  refine ⟨fun counter => exists_inputPoint_of_isLeast, ?_, ?_, ?_, ?_⟩
  · intro point found
    obtain ⟨counter, least, decoded⟩ := inputPoint?_eq_some_iff.mp found
    obtain ⟨x, y, same, isPoint, even, isDigest⟩ := exists_even_of_decode decoded
    exact ⟨counter, x, y, least, decoded, same, isPoint, even, isDigest,
      Point.encode_decode decoded⟩
  · rw [inputPoint?_eq_none_iff, Set.eq_empty_iff_forall_notMem]
    exact forall_congr' fun counter => not_and
  · rintro key rfl evaluation evaluated
    exact evaluateAt_inputPoint evaluated
  · intro absent
    refine ⟨?_, provenOutput_of_noInputPoint absent⟩
    rintro key rfl
    exact evaluate_of_noInputPoint absent

theorem isLeast_qualifying_three : IsLeast (qualifying unitKey.publicKey [3]) 1 := by
  have zero : (Point.decode (2 :: attempt unitKey.publicKey [3] 0)).toOption = none := by
    decide +kernel
  have one : (Point.decode (2 :: attempt unitKey.publicKey [3] 1)).toOption.isSome = true := by
    decide +kernel
  obtain ⟨point, proposed⟩ := Option.isSome_iff_exists.mp one
  have decoded := toOption_eq_some_iff.mp proposed
  refine ⟨⟨by decide, exists_decode_attempt_iff.mp ⟨point, decoded⟩⟩, ?_⟩
  rintro counter ⟨-, isAbscissa⟩
  refine Nat.one_le_iff_ne_zero.mpr ?_
  rintro rfl
  exact toOption_eq_none_iff.mp zero isAbscissa

theorem input_point_of_first_qualifying_three :
    ∃ point, inputPoint? unitKey.publicKey [3] = some point ∧
      point.encode = .ok (2 :: attempt unitKey.publicKey [3] 1) := by
  obtain ⟨point, decoded, found⟩ :=
    (input_point_of_first_qualifying unitKey.publicKey [3]).1 1 isLeast_qualifying_three
  exact ⟨point, found, Point.encode_decode decoded⟩

end StakeLottery.Ecvrf
