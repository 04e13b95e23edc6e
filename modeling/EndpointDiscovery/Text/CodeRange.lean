/-!
# Sets of code points

A set is the ascending list of the code points at which membership changes, so `[a,
b, c, d]` stands for `a ≤ x < b` or `c ≤ x < d`.
-/

namespace EndpointDiscovery.Text

structure CodeRanges where
  bounds : List Nat

namespace CodeRanges

private def coveredBy (code : Nat) : List Nat → Bool
  | low :: high :: rest =>
      if code < low then false else code < high || coveredBy code rest
  | _ => false

def contains (ranges : CodeRanges) (character : Char) : Bool :=
  coveredBy character.toNat ranges.bounds

end CodeRanges

end EndpointDiscovery.Text
