/-!
Byte strings, and the numbers they write with the most significant byte first. Between the byte
strings of one width and the numbers below their capacity, reading and writing are inverse.
-/

namespace StakeLottery

abbrev Bytes := List UInt8

namespace Bytes

def toNat (bytes : Bytes) : Nat :=
  bytes.foldl (fun value byte => value * 256 + byte.toNat) 0

/-- The lowest `width` bytes of a number, most significant byte first. -/
def ofNat : Nat → Nat → Bytes
  | 0, _ => []
  | width + 1, value => ofNat width (value / 256) ++ [UInt8.ofNat value]

def capacity (width : Nat) : Nat :=
  Nat.pow 256 width

def ofInt (width : Nat) (value : Int) : Bytes :=
  ofNat width (value % (capacity width : Int)).toNat

def toInt (bytes : Bytes) : Int :=
  let value := bytes.toNat
  if 2 * value < capacity bytes.length then value else (value : Int) - capacity bytes.length

def ofAscii (text : List Char) : Bytes :=
  text.map fun char => UInt8.ofNat char.toNat

def ofText (text : String) : Bytes :=
  text.toUTF8.toList

theorem capacity_succ (width : Nat) : capacity (width + 1) = capacity width * 256 := rfl

theorem length_ofNat (width value : Nat) : (ofNat width value).length = width := by
  induction width generalizing value with
  | zero => rfl
  | succ width ih => simp [ofNat, ih]

theorem toNat_append_singleton (bytes : Bytes) (byte : UInt8) :
    toNat (bytes ++ [byte]) = toNat bytes * 256 + byte.toNat := by
  simp [toNat]

theorem toNat_lt (bytes : Bytes) : toNat bytes < capacity bytes.length := by
  generalize reversal : bytes.reverse = reversed
  induction reversed generalizing bytes with
  | nil =>
      have isNil : bytes = [] := List.reverse_eq_nil_iff.mp reversal
      simp [isNil, toNat, capacity]
  | cons byte rest ih =>
      have split : bytes = rest.reverse ++ [byte] := by
        rw [← List.reverse_reverse bytes, reversal, List.reverse_cons]
      have small : byte.toNat < 256 := byte.toNat_lt
      have higher := ih rest.reverse (List.reverse_reverse rest)
      rw [split, toNat_append_singleton, List.length_append, List.length_singleton, capacity_succ]
      omega

theorem toNat_ofNat (width value : Nat) (bound : value < capacity width) :
    toNat (ofNat width value) = value := by
  induction width generalizing value with
  | zero =>
      have isZero : value = 0 := Nat.lt_one_iff.mp bound
      simp [ofNat, toNat, isZero]
  | succ width ih =>
      rw [capacity_succ] at bound
      have higher := ih (value / 256) (Nat.div_lt_of_lt_mul (by omega))
      rw [ofNat, toNat_append_singleton, higher, UInt8.toNat_ofNat']
      omega

theorem ofNat_toNat (bytes : Bytes) : ofNat bytes.length (toNat bytes) = bytes := by
  generalize reversal : bytes.reverse = reversed
  induction reversed generalizing bytes with
  | nil =>
      have isNil : bytes = [] := List.reverse_eq_nil_iff.mp reversal
      simp [isNil, ofNat]
  | cons byte rest ih =>
      have split : bytes = rest.reverse ++ [byte] := by
        rw [← List.reverse_reverse bytes, reversal, List.reverse_cons]
      have small : byte.toNat < 256 := byte.toNat_lt
      have tail := ih rest.reverse (List.reverse_reverse rest)
      rw [split, List.length_append, List.length_singleton, toNat_append_singleton, ofNat]
      have quotient : (toNat rest.reverse * 256 + byte.toNat) / 256 = toNat rest.reverse := by
        omega
      have last : UInt8.ofNat (toNat rest.reverse * 256 + byte.toNat) = byte := by
        apply UInt8.toNat.inj
        rw [UInt8.toNat_ofNat']
        omega
      rw [quotient, last, tail]

end Bytes

end StakeLottery
