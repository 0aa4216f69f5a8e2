import StakeLottery.Key.CurveParameters
import StakeLottery.Key.ModularGroup

/-!
Algorithms as key files name them: an object identifier, and parameters whose form depends on it.
-/

namespace StakeLottery

open Der

inductive Algorithm where
  | rsa
  /-- Keys on a curve, with the element that tells it. -/
  | onCurve (parameters : Element)
  | signature (group : ModularGroup)
  | agreement (group : ModularGroup)
  /-- Keys on twisted curves, which are seeds of a given length. -/
  | seed (length : Nat)
  /-- Keys over lattices, which are seeds of a given length. -/
  | latticeSeed (length : Nat)
  | keyedDigest
  | cipher
  /-- Ways from a password to the key of a cipher. -/
  | derivation
  | encryption
  | other
  deriving DecidableEq, Repr

namespace Algorithm

/-! Object identifiers. -/

def rsaArcs : List Nat := [1, 2, 840, 113549, 1, 1]

def passwordArcs : List Nat := [1, 2, 840, 113549, 1, 5]

def archiveArcs : List Nat := [1, 2, 840, 113549, 1, 12, 1]

def keyedDigestArcs : List Nat := [1, 2, 840, 113549, 2]

def olderCipherArcs : List Nat := [1, 2, 840, 113549, 3]

def curveSignatureArcs : List Nat := [1, 2, 840, 10045, 4, 3]

def cipherArcs : List Nat := [2, 16, 840, 1, 101, 3, 4, 1]

def digestArcs : List Nat := [2, 16, 840, 1, 101, 3, 4, 2]

def signatureArcs : List Nat := [2, 16, 840, 1, 101, 3, 4, 3]

def encapsulationArcs : List Nat := [2, 16, 840, 1, 101, 3, 4, 4]

def sha1Arcs : List Nat := [1, 3, 14, 3, 2, 26]

def below (arcs last : List Nat) : List (List Nat) :=
  last.map fun arc => arcs ++ [arc]

/-! Parameters. -/

def optionalNull : Fields Unit :=
  discard (Fields.optional nullTag fun element => guard (element = null))

def count : Fields Unit :=
  discard (Fields.next (Element.naturalOfWidth? 8))

def saltAndCount : Fields Unit := do
  discard (Fields.next Element.octets?)
  count

def plain (arcs : List Nat) : Element :=
  sequence [identifier arcs, null]

def standardDigest : Element := plain sha1Arcs

def standardMask : Element :=
  sequence [identifier (rsaArcs ++ [8]), standardDigest]

def standardKeyedDigest : Element := plain (keyedDigestArcs ++ [7])

variable (algorithm? : Element → Option Algorithm)

/-- Reads past the parameters of signatures with a random salt: the digest, the mask generation, the
length of the salt and the trailer, each in a field and left out where it is the standard one. -/
def saltedSignature : Fields Unit := do
  let mask := Element.sequence? do
    discard (Fields.next Element.identifier?)
    discard (Fields.next algorithm?)
  discard (Fields.standard (field 0 standardDigest) (Element.field? 0 algorithm?))
  Fields.standard (field 1 standardMask) (Element.field? 1 mask)
  discard (Fields.standard (field 2 (positive 20)) (Element.field? 2 (Element.naturalOfWidth? 2)))
  discard (Fields.standard (field 3 (positive 1)) (Element.field? 3 (Element.naturalOfWidth? 1)))

def repeatedDigest : Fields Algorithm := do
  saltAndCount
  discard (Fields.optional integerTag (Element.naturalOfWidth? 8))
  let digest ← Fields.standard standardKeyedDigest algorithm?
  return if digest = keyedDigest then derivation else other

def memoryHard : Fields Unit := do
  saltAndCount
  count
  count
  discard (Fields.optional integerTag (Element.naturalOfWidth? 4))

def combination : Fields Algorithm := do
  let first ← Fields.next algorithm?
  let second ← Fields.next algorithm?
  return if first = derivation ∧ second = cipher then encryption else other

def variableCipher : Fields Algorithm := do
  let strength ← Fields.optional integerTag (Element.naturalOfWidth? 4)
  discard (Fields.next (Element.octetsOfLength? 8))
  return if strength.isSome then cipher else other

/-- The algorithms with parameters of a known form: the arcs of their identifiers, and a reader of
what follows those. -/
def known : List (List (List Nat) × Fields Algorithm) :=
  let without (algorithm : Algorithm) : Fields Algorithm := return algorithm
  let withNull (algorithm : Algorithm) : Fields Algorithm := do optionalNull; return algorithm
  let block (length : Nat) : Fields Algorithm := do
    discard (Fields.next (Element.octetsOfLength? length))
    return cipher
  let inSequence {Value : Type} (fields : Fields Value) : Fields Value :=
    Fields.next (Element.sequence? fields)
  [ (below rsaArcs [1], withNull rsa),
    (below rsaArcs [10], do
      discard (Fields.optional sequenceTag (Element.sequence? (saltedSignature algorithm?)))
      return rsa),
    ([[1, 2, 840, 10045, 2, 1]], do
      return onCurve (← Fields.next CurveParameters.ofElement?)),
    ([[1, 2, 840, 10040, 4, 1]], do return signature (← inSequence ModularGroup.signatureFields)),
    ([[1, 2, 840, 113549, 1, 3, 1]], do
      return agreement (← inSequence ModularGroup.agreementFields)),
    ([[1, 2, 840, 10046, 2, 1]], do
      return agreement (← inSequence ModularGroup.agreementFieldsWithOrder)),
    (below [1, 3, 101] [110, 112], without (seed 32)),
    (below [1, 3, 101] [111], without (seed 56)),
    (below [1, 3, 101] [113], without (seed 57)),
    (below signatureArcs [17, 18, 19], without (latticeSeed 32)),
    (below encapsulationArcs [2, 3], without (latticeSeed 64)),
    (below signatureArcs [1, 2, 3, 4, 9, 10, 11, 12], without other),
    (below digestArcs [1, 2, 3, 4, 7, 8, 9, 10], withNull other),
    (below signatureArcs [13, 14, 15, 16], withNull other),
    (below curveSignatureArcs [1, 2, 3, 4], withNull other),
    (below rsaArcs [5, 11, 12, 13, 14], withNull other),
    ([sha1Arcs, [1, 3, 14, 3, 2, 29]], withNull other),
    (below keyedDigestArcs [7, 8, 9, 10, 11], withNull keyedDigest),
    (below cipherArcs [2, 22, 42], block 16),
    (below olderCipherArcs [7], block 8),
    (below olderCipherArcs [2], inSequence variableCipher),
    (below passwordArcs [12], inSequence (repeatedDigest algorithm?)),
    ([[1, 3, 6, 1, 4, 1, 11591, 4, 11]], do inSequence memoryHard; return derivation),
    (below passwordArcs [13], inSequence (combination algorithm?)),
    (below archiveArcs [1, 3, 6], do inSequence saltAndCount; return encryption),
    (below passwordArcs [3], inSequence do
      discard (Fields.next (Element.octetsOfLength? 8))
      count
      return encryption) ]

/-- An algorithm of no known kind has one parameter of any form, or none. -/
def unknown : Fields Algorithm
  | [] | [_] => some (other, [])
  | _ => none

def fields : Fields Algorithm := do
  let name ← Fields.next Element.identifier?
  match (known algorithm?).find? fun entry => (entry.1.map identifier).contains name with
  | some (_, parameters) => parameters
  | none => unknown

def upToDepth? : Nat → Element → Option Algorithm
  | 0 => fun _ => none
  | depth + 1 => Element.sequence? (fields (upToDepth? depth))

def ofElement? (element : Element) : Option Algorithm :=
  upToDepth? (element.content.length + 1) element

end Algorithm

end StakeLottery
