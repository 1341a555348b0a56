import BundleTrust.Crypto.Octets

/-!
# The curve P-256

The group of points of the curve `y² = x³ - 3x + b` over the prime field of FIPS 186-4.
Points are kept in projective coordinates, so that one formula without exceptions adds any
two of them; field elements are natural numbers below the prime.
-/

namespace BundleTrust
namespace Crypto
namespace P256

/-- The prime of the field. -/
def prime : Nat := 0xffffffff00000001000000000000000000000000ffffffffffffffffffffffff

/-- The number of points of the curve. -/
def order : Nat := 0xffffffff00000000ffffffffffffffffbce6faada7179e84f3b9cac2fc632551

/-- The constant `b` of the curve. -/
def curveB : Nat := 0x5ac635d8aa3a93e7b3ebbd55769886bc651d06b0cc53b0f63bce3c3e27d2604b

/-- The constant `-3` of the curve as a field element. -/
def curveA : Nat := prime - 3

/-- Multiply field elements. -/
def mul (left right : Nat) : Nat := left * right % prime

/-- Add field elements. -/
def add (left right : Nat) : Nat := (left + right) % prime

/-- Subtract field elements. -/
def sub (left right : Nat) : Nat := (left + (prime - right % prime)) % prime

/-- The lowest bits of a number, most significant bit first. -/
def bits : (width : Nat) → (value : Nat) → List Bool
  | 0, _ => []
  | width + 1, value => bits width (value / 2) ++ [value % 2 == 1]

/-- A power of a number modulo another one, for exponents of at most 256 bits. -/
def power (modulus base exponent : Nat) : Nat :=
  (bits 256 exponent).foldl
    (fun result bit =>
      let square := result * result % modulus
      if bit then square * base % modulus else square)
    1

/-- The inverse of a number modulo a prime; zero has the inverse zero. -/
def inverse (modulus value : Nat) : Nat :=
  power modulus value (modulus - 2)

/-- A point in projective coordinates. -/
structure Point where
  /-- The first coordinate. -/
  x : Nat
  /-- The second coordinate. -/
  y : Nat
  /-- The scale of the others; zero at infinity. -/
  z : Nat
  deriving DecidableEq, Repr

/-- The point at infinity. -/
def infinity : Point := ⟨0, 1, 0⟩

/-- The generator of the group. -/
def generator : Point :=
  ⟨0x6b17d1f2e12c4247f8bce6e563a440f277037d812deb33a0f4a13945d898c296,
    0x4fe342e2fe1a7f9b8ee7eb4a7c0f9e162bce33576b315ececbb6406837bf51f5, 1⟩

/-- Whether affine coordinates are those of a point of the curve. -/
def isOnCurve (x y : Nat) : Bool :=
  x < prime && y < prime &&
    mul y y == add (mul (mul x x) x) (add (mul curveA x) curveB)

namespace Point

/-- The sum of two points. -/
def plus (left right : Point) : Point :=
  let xx := mul left.x right.x
  let yy := mul left.y right.y
  let zz := mul left.z right.z
  let xy := add (mul left.x right.y) (mul right.x left.y)
  let xz := add (mul left.x right.z) (mul right.x left.z)
  let yz := add (mul left.y right.z) (mul right.y left.z)
  let threeB := mul 3 curveB
  let offset := add (mul curveA xz) (mul threeB zz)
  let lower := sub yy offset
  let upper := add yy offset
  let slope := add (mul 3 xx) (mul curveA zz)
  let crossed :=
    sub (add (mul curveA xx) (mul threeB xz)) (mul (mul curveA curveA) zz)
  ⟨sub (mul xy lower) (mul yz crossed), add (mul upper lower) (mul slope crossed),
    add (mul yz upper) (mul xy slope)⟩

/-- A multiple of a point, for factors of at most 256 bits. -/
def times (factor : Nat) (point : Point) : Point :=
  (bits 256 factor).foldl
    (fun result bit =>
      let double := result.plus result
      if bit then double.plus point else double)
    infinity

/-- The affine coordinates of a point other than infinity. -/
def affine? (point : Point) : Option (Nat × Nat) :=
  if point.z = 0 then none
  else
    let scale := inverse prime point.z
    some (mul point.x scale, mul point.y scale)

end Point

/-- The point with given affine coordinates, if there is one. -/
def ofAffine? (x y : Nat) : Option Point :=
  if isOnCurve x y then some ⟨x, y, 1⟩ else none

/-- The point with a given first coordinate whose second one is odd or even, if there is
one. -/
def ofFirst? (isOdd : Bool) (x : Nat) : Option Point :=
  let square := add (mul (mul x x) x) (add (mul curveA x) curveB)
  let root := power prime square ((prime + 1) / 4)
  let y := if (root % 2 == 1) = isOdd then root else sub 0 root
  ofAffine? x y

end P256
end Crypto
end BundleTrust
