/-!
# Punycode

Decoding of the part of a label after `xn--`.  `decode?` yields the code points of
the label, or `none` if the text is not well formed.
-/

namespace EndpointDiscovery.Url.Punycode

def digit? (character : Char) : Option Nat :=
  if 'a' ≤ character ∧ character ≤ 'z' then some (character.toNat - 0x61)
  else if 'A' ≤ character ∧ character ≤ 'Z' then some (character.toNat - 0x41)
  else if '0' ≤ character ∧ character ≤ '9' then some (character.toNat - 0x30 + 26)
  else none

def shrink (delta steps : Nat) : Nat × Nat :=
  if delta ≤ 455 then (delta, steps) else shrink (delta / 35) (steps + 36)
termination_by delta

def adapt (delta count : Nat) (first : Bool) : Nat :=
  let scaled := if first then delta / 700 else delta / 2
  let (rest, steps) := shrink (scaled + scaled / count) 0
  steps + 36 * rest / (rest + 38)

/-- Reads one number of variable length whose digits have falling weights. -/
def number? (bias : Nat) : List Char → Nat → Nat → Nat → Option (Nat × List Char)
  | [], _, _, _ => none
  | character :: rest, sum, weight, place => do
      let digit ← digit? character
      let sum := sum + digit * weight
      let threshold := if place ≤ bias then 1 else min (place - bias) 26
      if digit < threshold then some (sum, rest)
      else number? bias rest sum (weight * (36 - threshold)) (place + 36)

def insertions? : Nat → List Char → Nat → Nat → Nat → Bool → List Nat →
    Option (List Nat)
  | 0, _, _, _, _, _, _ => none
  | _, [], _, _, _, _, points => some points
  | fuel + 1, digits, code, index, bias, first, points => do
      let (total, rest) ← number? bias digits index 1 36
      let count := points.length + 1
      let code := code + total / count
      let place := total % count
      if code.isValidChar ∧ 0x80 ≤ code then
        insertions? fuel rest code (place + 1)
          (adapt (total - index) count first) false
          (points.take place ++ code :: points.drop place)
      else
        none

def decode? (label : List Char) : Option (List Nat) :=
  let reversed := label.reverse
  let digits := (reversed.takeWhile (· ≠ '-')).reverse
  let basic := ((reversed.dropWhile (· ≠ '-')).drop 1).reverse
  insertions? (digits.length + 1) digits 0x80 0 72 true (basic.map Char.toNat)

end EndpointDiscovery.Url.Punycode
