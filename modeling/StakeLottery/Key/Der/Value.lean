import StakeLottery.Key.Der.Element

/-!
Values of DER: integers, object identifiers, octet strings, bit strings and the null value, as they
are written in one element each.
-/

namespace StakeLottery.Der

/-! Writing. -/

def positive (value : Nat) : Element :=
  let written := digits value
  ⟨integerTag, if written.head?.any (0x80 ≤ ·) then 0 :: written else written⟩

def null : Element := ⟨nullTag, []⟩

def groups (number : Nat) : Bytes :=
  (List.range (number.log2 / 7 + 1)).reverse.map fun place =>
    UInt8.ofNat (number / Nat.pow 128 place % 128 + if place = 0 then 0 else 128)

def identifier : List Nat → Element
  | first :: second :: others =>
    ⟨identifierTag, ((40 * first + second) :: others).flatMap groups⟩
  | _ => ⟨identifierTag, []⟩

/-! Reading. -/

def Element.natural? (element : Element) : Option Nat := do
  guard (element.tag = integerTag)
  match element.content with
  | [] => none
  | [byte] => guard (byte < 0x80)
  | first :: second :: _ => guard (first < 0x80 && (first ≠ 0 || 0x80 ≤ second))
  return Bytes.toNat element.content

def Element.naturalOfWidth? (width : Nat) (element : Element) : Option Nat := do
  let value ← element.natural?
  guard (value < Bytes.capacity width)
  return value

def Element.octets? (element : Element) : Option Bytes := do
  guard (element.tag = octetStringTag)
  return element.content

def Element.octetsOfLength? (length : Nat) (element : Element) : Option Bytes := do
  let bytes ← element.octets?
  guard (bytes.length = length)
  return bytes

structure Bits where
  unused : Nat
  bytes : Bytes
  deriving DecidableEq, Repr

def Element.bits? (element : Element) : Option Bits := do
  guard (element.tag = bitStringTag)
  let unused :: bytes := element.content | none
  let last := (bytes.getLast?.getD 0).toNat
  guard (unused < 8 && (unused = 0 || !bytes.isEmpty) && last % Nat.pow 2 unused.toNat = 0)
  return ⟨unused.toNat, bytes⟩

/-- Whether an element is an object identifier: numbers, at least one, that would each fit into
sixteen bytes, written in at most 63 bytes together. -/
def Element.isIdentifier (element : Element) : Bool :=
  let numbers := element.content.splitBy fun byte _ => 0x80 ≤ byte
  element.tag = identifierTag && !element.content.isEmpty && element.content.length ≤ 63 &&
    numbers.all fun bytes => (grouped? bytes).any (· < Bytes.capacity 16)

def Element.identifier? (element : Element) : Option Element := do
  guard element.isIdentifier
  return element

end StakeLottery.Der
