import StakeLottery.Bytes.Basic
import StakeLottery.Curve.Point

/-!
Compressed points: 33 bytes, the first two or three after the parity of the second coordinate,
the others the first coordinate.
-/

namespace StakeLottery.Curve

inductive PointError where
  | infinity
  | encoding
  | outOfRange
  | notOnCurve
  deriving DecidableEq, Repr

def PointError.message : PointError → String
  | infinity => "Cannot encode the point at infinity"
  | encoding => "Invalid compressed point encoding"
  | outOfRange => "Point x-coordinate out of range"
  | notOnCurve => "Point is not on the curve"

namespace Point

def compressedLength : Nat := 33

def compress (x y : Fp) : Bytes :=
  (if y.isOdd then 3 else 2) :: Bytes.ofNat 32 x.val

def encode : Point → Except PointError Bytes
  | infinity => .error .infinity
  | affine x y => .ok (compress x y)

def hasCompressedForm (bytes : Bytes) : Bool :=
  bytes.length = compressedLength && (bytes.head? = some 2 || bytes.head? = some 3)

def decompress (odd : Bool) (x : Nat) : Except PointError Point :=
  if fieldPrime ≤ x then .error .outOfRange
  else
    match (cubic (Fp.ofNat x)).sqrt? with
    | none => .error .notOnCurve
    | some root => .ok (.affine (Fp.ofNat x) (if root.isOdd = odd then root else -root))

def decode (bytes : Bytes) : Except PointError Point :=
  if hasCompressedForm bytes then decompress (bytes.head? = some 3) (Bytes.toNat bytes.tail)
  else .error .encoding

end Point

end StakeLottery.Curve
