/-!
Double and add: a multiple of an element, or a power, from the binary digits of the multiplier.
-/

namespace StakeLottery

def binaryDigits (value : Nat) : List Bool :=
  (List.range (value.log2 + 1)).reverse.map value.testBit

/-- Doubles the running value for each binary digit of the multiplier, and adds the base element
after each digit that is one. -/
def doubleAndAdd {Element : Type} (double addBase : Element → Element) (start : Element)
    (multiplier : Nat) : Element :=
  (binaryDigits multiplier).foldl
    (fun value digit => if digit then addBase (double value) else double value) start

end StakeLottery
