/-!
# Residues

Arithmetic modulo a number.
-/

namespace EndpointDiscovery.Residue

def bits (count number : Nat) : List Bool :=
  ((List.range count).map fun place => number.testBit place).reverse

def bitLength (number : Nat) : Nat :=
  if number = 0 then 0 else number.log2 + 1

def power (modulus base exponent : Nat) : Nat :=
  (bits (bitLength exponent) exponent).foldl
    (fun product bit =>
      let square := product * product % modulus
      if bit then square * base % modulus else square)
    (1 % modulus)

/-- The inverse of a number that is not divisible by the modulus, which
must be a prime. -/
def inverse (prime number : Nat) : Nat :=
  power prime number (prime - 2)

def subtract (modulus left right : Nat) : Nat :=
  (left + modulus - right) % modulus

end EndpointDiscovery.Residue
