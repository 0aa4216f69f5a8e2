/-!
White space. Byte strings admit the six ASCII blanks; the text of a number also admits the
white space that lies outside ASCII.
-/

namespace StakeLottery

def isAsciiBlank (char : Char) : Bool :=
  char = ' ' || ('\t' ≤ char && char ≤ '\r')

/-- The white space characters outside ASCII: next line, the no-break spaces, and the space,
line and paragraph separators. -/
def wideBlanks : List Nat :=
  [0x85, 0xA0, 0x1680, 0x2000, 0x2001, 0x2002, 0x2003, 0x2004, 0x2005, 0x2006, 0x2007, 0x2008,
   0x2009, 0x200A, 0x2028, 0x2029, 0x202F, 0x205F, 0x3000]

def isBlank (char : Char) : Bool :=
  isAsciiBlank char || wideBlanks.contains char.toNat

def trimBlanks (text : List Char) : List Char :=
  ((text.dropWhile isBlank).reverse.dropWhile isBlank).reverse

end StakeLottery
