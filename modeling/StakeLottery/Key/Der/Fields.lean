import StakeLottery.Key.Der.Element

/-!
Reading the elements of a structure one after the other, with fields that may be left out.
-/

namespace StakeLottery.Der

abbrev Fields (Value : Type) := StateT (List Element) Option Value

namespace Fields

variable {Value : Type}

def next (read? : Element → Option Value) : Fields Value
  | [] => none
  | element :: others => do return (← read? element, others)

def optional (tag : Bytes) (read? : Element → Option Value) : Fields (Option Value)
  | [] => some (none, [])
  | element :: others =>
    if element.tag = tag then do return (some (← read? element), others)
    else some (none, element :: others)

/-- A value in the next element, where that has a given tag. A standard value is left out, and not
written. -/
def standard (element : Element) (read? : Element → Option Value) : Fields Value := do
  match ← optional element.tag some with
  | none => read? element
  | some written =>
    guard (written ≠ element)
    read? written

end Fields

variable {Value : Type}

def Element.valueOf? (tag : Bytes) (fields : Fields Value) (element : Element) : Option Value := do
  let (value, []) ← fields (← element.inside? tag) | none
  return value

def Element.sequence? (fields : Fields Value) (element : Element) : Option Value :=
  element.valueOf? sequenceTag fields

def Element.field? (number : UInt8) (read? : Element → Option Value) (element : Element) :
    Option Value :=
  element.valueOf? (fieldTag number) (Fields.next read?)

end StakeLottery.Der
