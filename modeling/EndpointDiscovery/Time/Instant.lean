import EndpointDiscovery.Time.Civil

/-!
# Instants

An instant is a second since the epoch and nanoseconds within it.  A leap second is
a second whose nanoseconds run on to two thousand million.  Instants are written as
date and time in UTC.
-/

namespace EndpointDiscovery

structure Instant where
  seconds : Int
  nanoseconds : Nat
deriving DecidableEq, Repr

namespace Instant

instance : LE Instant :=
  ⟨fun left right => left.seconds < right.seconds ∨
    (left.seconds = right.seconds ∧ left.nanoseconds ≤ right.nanoseconds)⟩

instance (left right : Instant) : Decidable (left ≤ right) :=
  inferInstanceAs (Decidable (_ ∨ _))

def secondsPerDay : Int := 86400

def padded (width number : Nat) : String :=
  let digits := Nat.toDigits 10 number
  String.ofList (List.replicate (width - digits.length) '0' ++ digits)

/-- Four digits, with a sign outside the years 0 to 9999. -/
def yearText (year : Int) : String :=
  if year < 0 then "-" ++ padded 4 year.natAbs
  else if 9999 < year then "+" ++ padded 4 year.natAbs
  else padded 4 year.natAbs

def fractionText (nanoseconds : Nat) : String :=
  if nanoseconds = 0 then ""
  else if nanoseconds % 1000000 = 0 then "." ++ padded 3 (nanoseconds / 1000000)
  else if nanoseconds % 1000 = 0 then "." ++ padded 6 (nanoseconds / 1000)
  else "." ++ padded 9 nanoseconds

def dateText (date : CivilDate) : String :=
  yearText date.year ++ "-" ++ padded 2 date.month ++ "-" ++ padded 2 date.day

def toText (instant : Instant) : String :=
  let secondOfDay := (instant.seconds % secondsPerDay).toNat
  let leap := instant.nanoseconds / 1000000000
  dateText (.ofDays (instant.seconds / secondsPerDay)) ++ "T" ++
    padded 2 (secondOfDay / 3600) ++ ":" ++
    padded 2 (secondOfDay / 60 % 60) ++ ":" ++ padded 2 (secondOfDay % 60 + leap) ++
    fractionText (instant.nanoseconds % 1000000000) ++ "+00:00"

end Instant

end EndpointDiscovery
