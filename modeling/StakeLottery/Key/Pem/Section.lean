import StakeLottery.Key.Base64
import StakeLottery.Text.Blank

/-!
PEM text. Its sections lie between an opening and a closing mark that repeat one label; what stands
around them is ignored. A section may begin with headers, which an empty line ends; the rest of it
is Base64.
-/

namespace StakeLottery.Pem

/-- The texts before and behind the first match of a mark, of which the given characters are still
expected. The characters seen so far are in reverse. A character that breaks off a match is passed
over, and matching starts anew behind it. -/
def cutFrom? (mark seen : List Char) : List Char → List Char → Option (List Char × List Char)
  | [], text => some ((seen.drop mark.length).reverse, text)
  | _ :: _, [] => none
  | expected :: others, char :: text =>
    cutFrom? mark (char :: seen) (if char = expected then others else mark) text

def cut? (mark text : List Char) : Option (List Char × List Char) :=
  cutFrom? mark [] mark text

def openingMark : List Char := "-----BEGIN ".toList

def closingMark : List Char := "-----END ".toList

def markEnd : List Char := "-----".toList

structure WrittenSection where
  label : List Char
  closingLabel : List Char
  body : List Char
  deriving DecidableEq, Repr

structure Section where
  label : List Char
  headers : List (List Char × List Char)
  content : Bytes
  deriving DecidableEq, Repr

namespace WrittenSection

def first? (text : List Char) : Option (WrittenSection × List Char) := do
  let (_, text) ← cut? openingMark text
  let (label, text) ← cut? markEnd text
  let start := text.dropWhile fun char =>
    char = ' ' || char = '\t' || char = '\n' || char = '\r'
  let (body, text) ← cut? closingMark start
  let (closingLabel, text) ← cut? markEnd text
  return (⟨label, closingLabel, body⟩, text)

def upTo : Nat → List Char → List WrittenSection
  | 0, _ => []
  | bound + 1, text =>
    match first? text with
    | some (found, rest) => found :: upTo bound rest
    | none => []

/-- The headers and the data of a body. An empty line divides them: two line feeds in a row, or
where there are none two pairs of carriage return and line feed. -/
def divided (body : List Char) : List Char × List Char :=
  match cut? ['\n', '\n'] body with
  | some parts => parts
  | none => (cut? ['\r', '\n', '\r', '\n'] body).getD ([], body)

def lines (text : List Char) : List (List Char) :=
  let lines := text.splitOn '\n'
  if lines.getLast? = some [] then lines.dropLast else lines

def header? (line : List Char) : Option (List Char × List Char) := do
  let (name, value) ← cut? [':'] line
  return (trimBlanks name, trimBlanks value)

def read? (written : WrittenSection) : Option Section := do
  guard (!written.label.isEmpty && written.closingLabel = written.label)
  let (headers, data) := divided written.body
  let headers ← (lines headers).mapM header?
  let content ← Base64.decode? (data.filter fun char => !isBlank char)
  return ⟨written.label, headers, content⟩

end WrittenSection

def sections? (text : String) : Option (List Section) :=
  (WrittenSection.upTo text.toList.length text.toList).mapM WrittenSection.read?

end StakeLottery.Pem
