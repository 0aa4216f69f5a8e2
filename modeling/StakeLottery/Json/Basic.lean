import StakeLottery.Number.Binary64

/-!
JSON values. Integers and real numbers are kept apart, as a number with a fraction or an exponent
stands for the nearest floating point number and any other one for itself. Real numbers that are
not finite go by names.
-/

namespace StakeLottery

inductive Json where
  | null
  | boolean (value : Bool)
  | integer (value : Int)
  | real (value : Binary64)
  | string (value : String)
  | array (items : List Json)
  | object (members : List (String × Json))
  deriving Inhabited

namespace Json

/-- The value of a member; of several with one name the last one counts. -/
def member? (members : List (String × Json)) (name : String) : Option Json :=
  (members.findRev? fun member => member.1 = name).map (·.2)

def isNothing : Json → Bool
  | null => true
  | boolean value => !value
  | integer value => value = 0
  | real value => value.isZero
  | string value => value.isEmpty
  | array items => items.isEmpty
  | object members => members.isEmpty

def nonFinite : List (List Char × Binary64) :=
  [(['N', 'a', 'N'], .notANumber),
    (['I', 'n', 'f', 'i', 'n', 'i', 't', 'y'], .infinity false),
    (['-', 'I', 'n', 'f', 'i', 'n', 'i', 't', 'y'], .infinity true)]

end Json

end StakeLottery
