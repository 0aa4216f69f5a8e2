import StakeLottery.Json.Basic
import StakeLottery.Bytes.Hex
import StakeLottery.Number.RealText

/-!
Reading JSON text. The readers consume a list of characters and return what is left of it. Their
recursion is bounded by the length of the text, since every step consumes a character.
-/

namespace StakeLottery.Json

def skipBlanks (text : List Char) : List Char :=
  text.dropWhile fun char => char = ' ' || char = '\t' || char = '\n' || char = '\r'

def skipWord? : List Char → List Char → Option (List Char)
  | [], text => some text
  | _ :: _, [] => none
  | expected :: word, char :: text => if expected = char then skipWord? word text else none

def unit? : List Char → Option (Nat × List Char)
  | first :: second :: third :: fourth :: rest => do
    let digits ← [first, second, third, fourth].mapM Hex.digitValue?
    return (digits.foldl (fun value digit => value * 16 + digit) 0, rest)
  | _ => none

/-- The character of an escape by code units, after its opening letter. Two units may form a pair;
a half without its partner is replaced. -/
def unicodeEscape? (text : List Char) : Option (Char × List Char) := do
  let (unit, rest) ← unit? text
  if 0xD800 ≤ unit ∧ unit < 0xDC00 then
    match rest with
    | '\\' :: 'u' :: lower =>
      let (partner, rest') ← unit? lower
      if 0xDC00 ≤ partner ∧ partner < 0xE000 then
        return (Char.ofNat (0x10000 + (unit - 0xD800) * 0x400 + (partner - 0xDC00)), rest')
      else return (Char.ofNat 0xFFFD, rest)
    | _ => return (Char.ofNat 0xFFFD, rest)
  else if 0xDC00 ≤ unit ∧ unit < 0xE000 then return (Char.ofNat 0xFFFD, rest)
  else return (Char.ofNat unit, rest)

def letterEscape? : Char → Option Char
  | '"' => some '"'
  | '\\' => some '\\'
  | '/' => some '/'
  | 'b' => some (Char.ofNat 8)
  | 'f' => some (Char.ofNat 12)
  | 'n' => some '\n'
  | 'r' => some '\r'
  | 't' => some '\t'
  | _ => none

def quotedCharacters? : Nat → List Char → Option (List Char × List Char)
  | 0, _ => none
  | _ + 1, [] => none
  | bound + 1, char :: rest =>
    if char = '"' then some ([], rest)
    else if char = '\\' then do
      let (escaped, rest) ←
        match rest with
        | 'u' :: rest => unicodeEscape? rest
        | letter :: rest => (letterEscape? letter).map fun escaped => (escaped, rest)
        | [] => none
      let (others, rest) ← quotedCharacters? bound rest
      return (escaped :: others, rest)
    else do
      let (others, rest) ← quotedCharacters? bound rest
      return (char :: others, rest)

def quotedText? (text : List Char) : Option (String × List Char) :=
  (quotedCharacters? (text.length + 1) text).map fun (chars, rest) => (String.ofList chars, rest)

def isDigit (char : Char) : Bool :=
  '0' ≤ char && char ≤ '9'

def fraction? : List Char → Option (List Char × List Char)
  | '.' :: tail =>
    let (digits, rest) := tail.span isDigit
    if digits.isEmpty then none else some (digits, rest)
  | text => some ([], text)

def exponent? : List Char → Option (Option Int × List Char)
  | mark :: tail =>
    if RealText.isExponentMark mark then
      let (negative, tail) := Decimal.splitSign tail
      let (digits, rest) := tail.span isDigit
      let magnitude : Int := Decimal.ofDigitValues (digits.filterMap decimalDigit?)
      let exponent := if negative then -magnitude else magnitude
      if digits.isEmpty then none else some (some exponent, rest)
    else some (none, mark :: tail)
  | [] => some (none, [])

def number? (text : List Char) : Option (Json × List Char) := do
  let (negative, body) :=
    match text with
    | '-' :: rest => (true, rest)
    | _ => (false, text)
  let (whole, rest) := body.span isDigit
  guard (whole.length = 1 || (2 ≤ whole.length && whole.head? ≠ some '0'))
  let (fraction, rest) ← fraction? rest
  let (power, rest) ← exponent? rest
  let digits := Decimal.ofDigitValues ((whole ++ fraction).filterMap decimalDigit?)
  if fraction.isEmpty && power.isNone then
    guard (whole.length ≤ Decimal.maxDigits)
    return (integer (if negative then -(digits : Int) else digits), rest)
  else
    return (real (Binary64.ofDecimal negative digits (power.getD 0 - fraction.length)), rest)

def numberOrName? (text : List Char) : Option (Json × List Char) :=
  (nonFinite.findSome? fun (name, value) =>
    (skipWord? name text).map fun rest => (real value, rest)) <|> number? text

mutual

def value? : Nat → List Char → Option (Json × List Char)
  | 0, _ => none
  | bound + 1, text =>
    match skipBlanks text with
    | '"' :: rest => (quotedText? rest).map fun (value, rest) => (string value, rest)
    | '[' :: rest =>
      match skipBlanks rest with
      | ']' :: rest => some (array [], rest)
      | _ => (items? bound rest).map fun (items, rest) => (array items, rest)
    | '{' :: rest =>
      match skipBlanks rest with
      | '}' :: rest => some (object [], rest)
      | _ => (members? bound rest).map fun (members, rest) => (object members, rest)
    | 'n' :: rest => (skipWord? ['u', 'l', 'l'] rest).map fun rest => (null, rest)
    | 't' :: rest => (skipWord? ['r', 'u', 'e'] rest).map fun rest => (boolean true, rest)
    | 'f' :: rest => (skipWord? ['a', 'l', 's', 'e'] rest).map fun rest => (boolean false, rest)
    | other => numberOrName? other

def items? : Nat → List Char → Option (List Json × List Char)
  | 0, _ => none
  | bound + 1, text => do
    let (item, rest) ← value? bound text
    match skipBlanks rest with
    | ',' :: rest =>
      let (items, rest) ← items? bound rest
      return (item :: items, rest)
    | ']' :: rest => return ([item], rest)
    | _ => none

def members? : Nat → List Char → Option (List (String × Json) × List Char)
  | 0, _ => none
  | bound + 1, text => do
    let '"' :: rest := skipBlanks text | none
    let (name, rest) ← quotedText? rest
    let ':' :: rest := skipBlanks rest | none
    let (value, rest) ← value? bound rest
    match skipBlanks rest with
    | ',' :: rest =>
      let (members, rest) ← members? bound rest
      return ((name, value) :: members, rest)
    | '}' :: rest => return ([(name, value)], rest)
    | _ => none

end

def read? (text : String) : Option Json := do
  let chars := text.toList
  let (value, rest) ← value? (chars.length + 1) chars
  guard (skipBlanks rest).isEmpty
  return value

end StakeLottery.Json
