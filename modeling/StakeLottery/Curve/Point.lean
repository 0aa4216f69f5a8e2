import StakeLottery.Curve.Field

/-!
The points of secp256k1, the curve of y^2 = x^3 + 7, and their group law.
-/

namespace StakeLottery.Curve

inductive Point where
  | infinity
  | affine (x y : Fp)
  deriving DecidableEq, Repr

def cubic (x : Fp) : Fp :=
  x * x * x + 7

namespace Point

def onCurve : Point → Bool
  | infinity => true
  | affine x y => y * y = cubic x

def neg : Point → Point
  | infinity => infinity
  | affine x y => affine x (-y)

/-- The third point on the line of a given slope through two points, reflected. -/
def alongSlope (slope x₁ y₁ x₂ : Fp) : Point :=
  let x := slope * slope - x₁ - x₂
  affine x (slope * (x₁ - x) - y₁)

def add : Point → Point → Point
  | infinity, right => right
  | left, infinity => left
  | affine x₁ y₁, affine x₂ y₂ =>
    if x₁ = x₂ then
      if y₁ = -y₂ then infinity
      else alongSlope (3 * x₁ * x₁ * Fp.inverse (2 * y₁)) x₁ y₁ x₂
    else alongSlope ((y₁ - y₂) * Fp.inverse (x₁ - x₂)) x₁ y₁ x₂

def multiple : Nat → Point → Point
  | 0, _ => infinity
  | count + 1, point => add (multiple count point) point

end Point

def groupOrder : Nat := 0xfffffffffffffffffffffffffffffffebaaedce6af48a03bbfd25e8cd0364141

def generator : Point :=
  .affine (Fp.ofNat 0x79be667ef9dcbbac55a06295ce870b07029bfcdb2dce28d959f2815b16f81798)
    (Fp.ofNat 0x483ada7726a3c4655da4fbfc0e1108a8fd17b448a68554199c47d08ffb10d4b8)

end StakeLottery.Curve
