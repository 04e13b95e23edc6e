import EndpointDiscovery.Bytes.Words
import EndpointDiscovery.Crypto.Residue

/-!
# The elliptic curve P-256

The points of `y² = x³ - 3x + b` over a prime field, in Jacobian coordinates:
`(x, y, z)` stands for the point `(x / z², y / z³)`, and for the point at
infinity if `z` is zero.
-/

namespace EndpointDiscovery.Curve

open Residue (subtract)

def prime :
    Nat := 0xffffffff00000001000000000000000000000000ffffffffffffffffffffffff

def order :
    Nat := 0xffffffff00000000ffffffffffffffffbce6faada7179e84f3b9cac2fc632551

def constant :
    Nat := 0x5ac635d8aa3a93e7b3ebbd55769886bc651d06b0cc53b0f63bce3c3e27d2604b

structure Point where
  x : Nat
  y : Nat
  z : Nat
deriving DecidableEq, Repr

def infinity : Point := ⟨1, 1, 0⟩

def generator : Point where
  x := 0x6b17d1f2e12c4247f8bce6e563a440f277037d812deb33a0f4a13945d898c296
  y := 0x4fe342e2fe1a7f9b8ee7eb4a7c0f9e162bce33576b315ececbb6406837bf51f5
  z := 1

def multiplyMod (left right : Nat) : Nat := left * right % prime

namespace Point

def double (point : Point) : Point :=
  let ySquare := multiplyMod point.y point.y
  let zSquare := multiplyMod point.z point.z
  let product := 4 * multiplyMod point.x ySquare % prime
  let slope :=
    3 * multiplyMod (subtract prime point.x zSquare) ((point.x + zSquare) % prime) %
      prime
  let x := subtract prime (multiplyMod slope slope) (2 * product % prime)
  { x
    y := subtract prime (multiplyMod slope (subtract prime product x))
      (8 * multiplyMod ySquare ySquare % prime)
    z := 2 * multiplyMod point.y point.z % prime }

def add (left right : Point) : Point :=
  if left.z = 0 then right
  else if right.z = 0 then left
  else
    let leftSquare := multiplyMod left.z left.z
    let rightSquare := multiplyMod right.z right.z
    let leftX := multiplyMod left.x rightSquare
    let rightX := multiplyMod right.x leftSquare
    let leftY := multiplyMod left.y (multiplyMod rightSquare right.z)
    let rightY := multiplyMod right.y (multiplyMod leftSquare left.z)
    if leftX = rightX then
      if leftY = rightY then double left else infinity
    else
      let run := subtract prime rightX leftX
      let rise := subtract prime rightY leftY
      let runSquare := multiplyMod run run
      let runCube := multiplyMod runSquare run
      let product := multiplyMod leftX runSquare
      let x := subtract prime (subtract prime (multiplyMod rise rise) runCube)
        (2 * product % prime)
      { x
        y :=
          subtract prime (multiplyMod rise (subtract prime product x))
            (multiplyMod leftY runCube)
        z := multiplyMod run (multiplyMod left.z right.z) }

def multiply (factor : Nat) (point : Point) : Point :=
  (Residue.bits 256 factor).foldl
    (fun sum bit =>
      let twice := double sum
      if bit then add twice point else twice)
    infinity

def hasX (point : Point) (x : Nat) : Bool :=
  point.x == multiplyMod x (multiplyMod point.z point.z)

def same (left right : Point) : Bool :=
  let leftSquare := multiplyMod left.z left.z
  let rightSquare := multiplyMod right.z right.z
  if left.z = 0 ∨ right.z = 0 then left.z == right.z
  else
    multiplyMod left.x rightSquare == multiplyMod right.x leftSquare &&
      multiplyMod left.y (multiplyMod rightSquare right.z) ==
        multiplyMod right.y (multiplyMod leftSquare left.z)

end Point

/-! ## Encoded points -/

def rightSide (x : Nat) : Nat :=
  (multiplyMod x (multiplyMod x x) + (prime - 3) * x + constant) % prime

def isOnCurve (x y : Nat) : Bool :=
  x < prime && y < prime && multiplyMod y y == rightSide x

def recover? (x : Nat) (isOdd : Bool) : Option Nat :=
  let root := Residue.power prime (rightSide x) ((prime + 1) / 4)
  let y := if (root % 2 = 1) = isOdd then root else (prime - root) % prime
  if isOnCurve x y ∧ (y % 2 = 1) = isOdd then some y else none

/-- A point is written as its two coordinates, or as the first one and the parity
of the second. -/
def pointOf? : List UInt8 → Option Point
  | [0] => some infinity
  | form :: coordinates =>
      let x := Bytes.toNat (coordinates.take 32)
      let y := Bytes.toNat (coordinates.drop 32)
      if coordinates.length = 64 then
        if (form = 4 ∨ (form = 6 ∧ y % 2 = 0) ∨ (form = 7 ∧ y % 2 = 1)) ∧
          isOnCurve x y then
          some ⟨x, y, 1⟩
        else none
      else if coordinates.length = 32 ∧ (form = 2 ∨ form = 3) then
        (recover? x (form = 3)).map (⟨x, ·, 1⟩)
      else none
  | [] => none

/-! ## Signatures -/

/-- The point whose first coordinate is compared with `r`.  Of a digest that is
longer than the order, its first bytes count. -/
def signaturePoint (point : Point) (digest : List UInt8) (r s : Nat) : Point :=
  let inverse := Residue.inverse order s
  (generator.multiply (Bytes.toNat (digest.take 32) * inverse % order)).add
    (point.multiply (r * inverse % order))

/-- Whether the numbers `r` and `s` sign a digest under the key that `point` is.
There is no answer if the point that decides is the one at infinity, which has
no coordinates. -/
def verifies? (point : Point) (digest : List UInt8) (r s : Nat) : Option Bool :=
  if r = 0 ∨ order ≤ r ∨ s = 0 ∨ order ≤ s then some false
  else
    let found := signaturePoint point digest r s
    if found.z = 0 then none
    else some (found.hasX r || (r + order < prime && found.hasX (r + order)))

end EndpointDiscovery.Curve
