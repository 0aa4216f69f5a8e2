import StakeLottery.Bytes.Basic
import StakeLottery.Text.Blank

/-!
Hexadecimal text of byte strings. Writing gives two lower-case digits a byte. Reading takes
digits of either case and lets blanks stand between the pairs of digits, not inside one.
-/

namespace StakeLottery.Hex

def digit (value : Nat) : Char :=
  if value < 10 then Char.ofNat ('0'.toNat + value) else Char.ofNat ('a'.toNat + (value - 10))

def digitValue? (char : Char) : Option Nat :=
  if '0' ≤ char ∧ char ≤ '9' then some (char.toNat - '0'.toNat)
  else if 'a' ≤ char ∧ char ≤ 'f' then some (char.toNat - 'a'.toNat + 10)
  else if 'A' ≤ char ∧ char ≤ 'F' then some (char.toNat - 'A'.toNat + 10)
  else none

def pair (byte : UInt8) : List Char :=
  [digit (byte.toNat / 16), digit (byte.toNat % 16)]

def digits (bytes : Bytes) : List Char :=
  bytes.flatMap pair

def render (bytes : Bytes) : String :=
  String.ofList (digits bytes)

def readDigits : List Char → Option Bytes
  | [] => some []
  | [char] => if isAsciiBlank char then some [] else none
  | high :: low :: rest =>
    if isAsciiBlank high then readDigits (low :: rest)
    else do
      let highValue ← digitValue? high
      let lowValue ← digitValue? low
      let bytes ← readDigits rest
      return UInt8.ofNat (highValue * 16 + lowValue) :: bytes

def read? (text : String) : Option Bytes :=
  readDigits text.toList

theorem digitValue?_digit (value : Nat) (bound : value < 16) :
    digitValue? (digit value) = some value := by
  have checked : ∀ small : Fin 16, digitValue? (digit small.val) = some small.val := by decide
  exact checked ⟨value, bound⟩

theorem isAsciiBlank_digit (value : Nat) (bound : value < 16) :
    isAsciiBlank (digit value) = false := by
  have checked : ∀ small : Fin 16, isAsciiBlank (digit small.val) = false := by decide
  exact checked ⟨value, bound⟩

theorem readDigits_digits (bytes : Bytes) : readDigits (digits bytes) = some bytes := by
  induction bytes with
  | nil => rfl
  | cons byte rest ih =>
      have small : byte.toNat < 256 := byte.toNat_lt
      have high : byte.toNat / 16 < 16 := by omega
      have low : byte.toNat % 16 < 16 := by omega
      have joined : UInt8.ofNat (byte.toNat / 16 * 16 + byte.toNat % 16) = byte := by
        rw [Nat.div_add_mod']
        exact UInt8.ofNat_toNat
      have split : digits (byte :: rest) =
          digit (byte.toNat / 16) :: digit (byte.toNat % 16) :: digits rest := rfl
      rw [split, readDigits, isAsciiBlank_digit _ high, digitValue?_digit _ high,
        digitValue?_digit _ low, ih]
      simp only [Bool.false_eq_true, if_false, Option.bind_eq_bind, Option.bind_some, joined]
      rfl

end StakeLottery.Hex
