import StakeLottery.Text.Blank
import StakeLottery.Text.DecimalDigit

/-!
Integers as decimal text. Writing gives the shortest digits. Reading trims white space and takes
one sign, digits of any script, and single underscores between digits.
-/

namespace StakeLottery.Decimal

def digits (value : Nat) : List Char :=
  Nat.toDigits 10 value

def characters : Int → List Char
  | .ofNat value => digits value
  | .negSucc value => '-' :: digits (value + 1)

def render (value : Int) : String :=
  String.ofList (characters value)

def ofDigitValues (values : List Nat) : Nat :=
  values.foldl (fun value digit => value * 10 + digit) 0

/-- Digits, at least one, with at most one underscore between two of them. -/
def separatedDigits? : List Char → Option (List Nat)
  | [] => none
  | [char] => (decimalDigit? char).map ([·])
  | char :: '_' :: rest => do
    let digit ← decimalDigit? char
    let others ← separatedDigits? rest
    return digit :: others
  | char :: next :: rest => do
    let digit ← decimalDigit? char
    let others ← separatedDigits? (next :: rest)
    return digit :: others

def splitSign : List Char → Bool × List Char
  | '-' :: rest => (true, rest)
  | '+' :: rest => (false, rest)
  | text => (false, text)

def maxDigits : Nat := 4300

/-- The least number that has more digits than text may have. -/
@[irreducible]
def textBound : Nat := Nat.pow 10 maxDigits

def hasText (value : Int) : Bool :=
  value.natAbs < textBound

def text? (value : Int) : Option String :=
  if hasText value then some (render value) else none

def read? (text : String) : Option Int := do
  let (negative, body) := splitSign (trimBlanks text.toList)
  let values ← separatedDigits? body
  guard (values.length ≤ maxDigits)
  let magnitude : Int := ofDigitValues values
  return if negative then -magnitude else magnitude

end StakeLottery.Decimal
