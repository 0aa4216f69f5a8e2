import StakeLottery.Number.Decimal
import StakeLottery.Number.Rounding

/-!
Real numbers as text: an optional sign, then digits with an optional fraction and exponent, or
a word for infinity or for not a number. White space around it is trimmed.
-/

namespace StakeLottery.RealText

def optionalDigits? (text : List Char) : Option (List Nat) :=
  if text.isEmpty then some [] else Decimal.separatedDigits? text

def power? (text : List Char) : Option Int := do
  let (negative, body) := Decimal.splitSign text
  let values ← Decimal.separatedDigits? body
  let magnitude : Int := Decimal.ofDigitValues values
  return if negative then -magnitude else magnitude

def isExponentMark (char : Char) : Bool :=
  char = 'e' || char = 'E'

def decimal? (negative : Bool) (text : List Char) : Option Binary64 := do
  let (mantissa, exponentPart) := text.span (!isExponentMark ·)
  let (whole, fractionPart) := mantissa.span (· ≠ '.')
  let wholeDigits ← optionalDigits? whole
  let fractionDigits ← optionalDigits? (fractionPart.drop 1)
  guard (!(wholeDigits.isEmpty && fractionDigits.isEmpty))
  let power ← if exponentPart.isEmpty then some 0 else power? (exponentPart.drop 1)
  return Binary64.ofDecimal negative (Decimal.ofDigitValues (wholeDigits ++ fractionDigits))
    (power - fractionDigits.length)

def read? (text : String) : Option Binary64 :=
  let (negative, body) := Decimal.splitSign (trimBlanks text.toList)
  let word := String.ofList (body.map Char.toLower)
  if word = "inf" ∨ word = "infinity" then some (Binary64.infinity negative)
  else if word = "nan" then some Binary64.notANumber
  else decimal? negative body

end StakeLottery.RealText
