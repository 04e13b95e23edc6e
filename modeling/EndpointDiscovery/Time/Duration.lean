/-!
# Durations

A duration is a number of nanoseconds.  It is shown in the largest unit that is not
a fraction, with as many decimals as it needs.
-/

namespace EndpointDiscovery

structure Duration where
  nanoseconds : Nat
deriving DecidableEq, Repr

namespace Duration

def ofMilliseconds (count : Nat) : Duration := ⟨count * 1000000⟩

def ofSeconds (count : Nat) : Duration := ⟨count * 1000000000⟩

def milliseconds (duration : Duration) : Nat := duration.nanoseconds / 1000000

instance :
    Add Duration := ⟨fun left right => ⟨left.nanoseconds + right.nanoseconds⟩⟩

instance : LT Duration := ⟨fun left right => left.nanoseconds < right.nanoseconds⟩

instance (left right : Duration) : Decidable (left < right) :=
  inferInstanceAs (Decidable (left.nanoseconds < right.nanoseconds))

def fractionText (places fraction : Nat) : String :=
  let digits := Nat.toDigits 10 fraction
  let padded := List.replicate (places - digits.length) '0' ++ digits
  let significant := (padded.reverse.dropWhile (· = '0')).reverse
  if significant.isEmpty then "" else "." ++ String.ofList significant

def inUnit (duration : Duration) (places : Nat) (unit : String) : String :=
  toString (duration.nanoseconds / Nat.pow 10 places) ++
    fractionText places (duration.nanoseconds % Nat.pow 10 places) ++ unit

def display (duration : Duration) : String :=
  if 1000000000 ≤ duration.nanoseconds then duration.inUnit 9 "s"
  else if 1000000 ≤ duration.nanoseconds then duration.inUnit 6 "ms"
  else if 1000 ≤ duration.nanoseconds then duration.inUnit 3 "µs"
  else toString duration.nanoseconds ++ "ns"

end Duration

end EndpointDiscovery
