import StakeLottery.Bytes.Basic

/-!
DER: elements of a tag, a length and a content, one after the other. Every element has exactly one
form, and readers accept no other.
-/

namespace StakeLottery.Der

structure Element where
  tag : Bytes
  content : Bytes
  deriving DecidableEq, Repr

def integerTag : Bytes := [0x02]

def bitStringTag : Bytes := [0x03]

def octetStringTag : Bytes := [0x04]

def nullTag : Bytes := [0x05]

def identifierTag : Bytes := [0x06]

def sequenceTag : Bytes := [0x30]

def setTag : Bytes := [0x31]

def fieldTag (number : UInt8) : Bytes := [0xa0 + number]

/-! Writing. -/

def digits (value : Nat) : Bytes :=
  Bytes.ofNat ((value.log2 + 8) / 8) value |>.dropWhile (· = 0)

def lengthForm (length : Nat) : Bytes :=
  if length < 128 then [UInt8.ofNat length]
  else UInt8.ofNat (128 + (digits length).length) :: digits length

def Element.form (element : Element) : Bytes :=
  element.tag ++ (lengthForm element.content.length ++ element.content)

def sequence (elements : List Element) : Element :=
  ⟨sequenceTag, elements.flatMap Element.form⟩

def field (number : UInt8) (element : Element) : Element :=
  ⟨fieldTag number, element.form⟩

/-! Reading. -/

/-- The number that bytes write in groups of seven bits, all but the last byte marked by the high
bit. The first group is not a marked zero, so that every number has one form. -/
def grouped? (bytes : Bytes) : Option Nat := do
  let last ← bytes.getLast?
  guard (last < 0x80 && bytes.head? ≠ some 0x80)
  return bytes.foldl (fun number byte => 128 * number + byte.toNat % 128) 0

/-- The tag at the start of a byte string, and the bytes after it. A number from 31 up, which
would fit into four bytes, follows the first byte in groups. -/
def tag? : Bytes → Option (Bytes × Bytes)
  | [] => none
  | first :: rest =>
    if first.toNat % 32 ≠ 31 then some ([first], rest)
    else do
      let marked := rest.takeWhile (0x80 ≤ ·)
      let number ← grouped? (rest.take (marked.length + 1))
      guard (31 ≤ number && number < Bytes.capacity 4)
      return (first :: rest.take (marked.length + 1), rest.drop (marked.length + 1))

def length? : Bytes → Option (Nat × Bytes)
  | [] => none
  | first :: rest =>
    if first < 0x80 then some (first.toNat, rest)
    else do
      let width := first.toNat - 0x80
      let written := rest.take width
      guard (1 ≤ width && width ≤ 4 && written.length = width)
      let value := Bytes.toNat written
      guard (128 ≤ value && Bytes.capacity (width - 1) ≤ value)
      return (value, rest.drop width)

def element? (bytes : Bytes) : Option (Element × Bytes) := do
  let (tag, rest) ← tag? bytes
  let (length, body) ← length? rest
  guard (length ≤ body.length)
  return (⟨tag, body.take length⟩, body.drop length)

def elementsUpTo? : Nat → Bytes → Option (List Element)
  | _, [] => some []
  | 0, _ => none
  | bound + 1, bytes => do
    let (element, rest) ← element? bytes
    let others ← elementsUpTo? bound rest
    return element :: others

def elements? (bytes : Bytes) : Option (List Element) :=
  elementsUpTo? bytes.length bytes

def Element.inside? (element : Element) (tag : Bytes) : Option (List Element) :=
  if element.tag = tag then elements? element.content else none

def onlyElement? (bytes : Bytes) : Option Element := do
  let [element] ← elements? bytes | none
  return element

def isSorted : List Element → Bool
  | first :: second :: rest =>
    !List.lex second.form first.form (fun left right => left < right) && isSorted (second :: rest)
  | _ => true

def Element.members? (tag : Bytes) (element : Element) : Option (List Element) := do
  let elements ← element.inside? tag
  guard (isSorted elements)
  return elements

end StakeLottery.Der
