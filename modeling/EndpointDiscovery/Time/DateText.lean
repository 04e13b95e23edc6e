import EndpointDiscovery.Text.Blank
import EndpointDiscovery.Time.Instant

/-!
# Reading dates

Three notations are tried in turn: a date and time with an offset, a date and
time in UTC whose numbers may be shorter, and a date alone, which stands for
its first instant.
-/

namespace EndpointDiscovery.DateText

abbrev Rest := List Char

def isDigit (character : Char) : Bool :=
  '0' ≤ character && character ≤ '9'

def number? (least most : Nat) (input : Rest) : Option (Nat × Rest) :=
  let digits := (input.take most).takeWhile isDigit
  if digits.length < least then none
  else
    some (digits.foldl (fun sum digit => sum * 10 + (digit.toNat - 0x30)) 0,
      input.drop digits.length)

def mark? (mark : Char) : Rest → Option Rest
  | character :: rest => if character = mark then some rest else none
  | [] => none

def fraction? (input : Rest) : Option (Nat × Rest) :=
  match input with
  | '.' :: rest => do
      let (value, after) ← number? 1 9 rest
      some (value * Nat.pow 10 (9 - (rest.length - after.length)),
        after.dropWhile isDigit)
  | _ => some (0, input)

/-- A time of day; the second 60 is the leap second after the second 59. -/
structure TimeOfDay where
  hour : Nat
  minute : Nat
  second : Nat
  nanosecond : Nat

def instant? (date : CivilDate) (time : TimeOfDay)
    (offset : Int) : Option Instant :=
  if date.isValid && -262143 ≤ date.year && date.year ≤ 262142 && time.hour ≤ 23 &&
      time.minute ≤ 59 && time.second ≤ 60 then
    let second := min time.second 59
    some ⟨date.toDays * Instant.secondsPerDay + time.hour * 3600 +
      time.minute * 60 + second - offset,
      time.nanosecond + (time.second - second) * 1000000000⟩
  else
    none

/-! ## With an offset -/

def offset? (input : Rest) : Option (Int × Rest) :=
  match input with
  | [] => none
  | sign :: rest =>
      if sign = 'Z' ∨ sign = 'z' then some (0, rest)
      else do
        let negative ←
          if sign = '+' then some false
          else if sign = '-' ∨ sign = '\u2212' then some true
          else none
        let (hours, rest) ← number? 2 2 rest
        let rest ← mark? ':' rest
        let (minutes, rest) ← number? 2 2 rest
        if 59 < minutes ∨ 23 < hours then none
        else
          let seconds : Int := hours * 3600 + minutes * 60
          some (if negative then -seconds else seconds, rest)

def withOffset? (input : Rest) : Option Instant := do
  let (year, rest) ← number? 4 4 input
  let rest ← mark? '-' rest
  let (month, rest) ← number? 2 2 rest
  let rest ← mark? '-' rest
  let (day, rest) ← number? 2 2 rest
  let rest ← match rest with
    | separator :: rest => if separator ∈ ['T', 't', ' '] then some rest else none
    | [] => none
  let (hour, rest) ← number? 2 2 rest
  let rest ← mark? ':' rest
  let (minute, rest) ← number? 2 2 rest
  let rest ← mark? ':' rest
  let (second, rest) ← number? 2 2 rest
  let (nanosecond, rest) ← fraction? rest
  let (offset, rest) ← offset? rest
  if rest.isEmpty then
    instant? ⟨year, month, day⟩ ⟨hour, minute, second, nanosecond⟩ offset
  else none

/-! ## In UTC -/

def shortNumber? (input : Rest) : Option (Nat × Rest) :=
  number? 1 2 (input.dropWhile Text.isBlank)

def year? (input : Rest) : Option (Int × Rest) :=
  match input.dropWhile Text.isBlank with
  | '-' :: rest => (number? 1 rest.length rest).map fun (year, rest) =>
      (-(year : Int), rest)
  | '+' :: rest => (number? 1 rest.length rest).map fun (year, rest) =>
      ((year : Int), rest)
  | rest => (number? 1 4 rest).map fun (year, rest) => ((year : Int), rest)

def date? (input : Rest) : Option (CivilDate × Rest) := do
  let (year, rest) ← year? input
  let rest ← mark? '-' rest
  let (month, rest) ← shortNumber? rest
  let rest ← mark? '-' rest
  let (day, rest) ← shortNumber? rest
  some (⟨year, month, day⟩, rest)

def inUtc? (input : Rest) : Option Instant := do
  let (date, rest) ← date? input
  let rest ← mark? 'T' rest
  let (hour, rest) ← shortNumber? rest
  let rest ← mark? ':' rest
  let (minute, rest) ← shortNumber? rest
  let rest ← mark? ':' rest
  let (second, rest) ← shortNumber? rest
  let (nanosecond, rest) ← fraction? rest
  if rest.isEmpty then instant? date ⟨hour, minute, second, nanosecond⟩ 0 else none

/-! ## Without a time -/

def dateAlone? (input : Rest) : Option Instant := do
  let body := if input.getLast? = some 'Z' then input.dropLast else input
  let (date, rest) ← date? body
  if rest.isEmpty then instant? date ⟨0, 0, 0, 0⟩ 0 else none

/-- The instant that a date in any of the three notations denotes. -/
def parse? (text : String) : Option Instant :=
  let input := text.toList
  (withOffset? input).orElse fun _ => (inUtc? input).orElse fun _ =>
    dateAlone? input

end EndpointDiscovery.DateText
