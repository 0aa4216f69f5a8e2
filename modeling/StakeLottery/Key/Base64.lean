import StakeLottery.Bytes.Basic

/-!
Base64 text: four digits of six bits for three bytes, the last four padded with equals signs.
-/

namespace StakeLottery.Base64

def digitValue? (char : Char) : Option Nat :=
  if 'A' ≤ char ∧ char ≤ 'Z' then some (char.toNat - 'A'.toNat)
  else if 'a' ≤ char ∧ char ≤ 'z' then some (char.toNat - 'a'.toNat + 26)
  else if '0' ≤ char ∧ char ≤ '9' then some (char.toNat - '0'.toNat + 52)
  else if char = '+' then some 62
  else if char = '/' then some 63
  else none

def number? (digits : List Char) : Option Nat := do
  let values ← digits.mapM digitValue?
  return values.foldl (fun value digit => value * 64 + digit) 0

/-- The bytes of a text. The bits that padding leaves over must be zero. -/
def decode? : List Char → Option Bytes
  | [] => some []
  | [first, second, '=', '='] => do
    let value ← number? [first, second]
    guard (value % 16 = 0)
    return Bytes.ofNat 1 (value / 16)
  | [first, second, third, '='] => do
    let value ← number? [first, second, third]
    guard (value % 4 = 0)
    return Bytes.ofNat 2 (value / 4)
  | first :: second :: third :: fourth :: rest => do
    let value ← number? [first, second, third, fourth]
    let bytes ← decode? rest
    return Bytes.ofNat 3 value ++ bytes
  | _ => none

end StakeLottery.Base64
