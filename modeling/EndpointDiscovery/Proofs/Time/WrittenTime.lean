import EndpointDiscovery.Asn1.Time
import EndpointDiscovery.Proofs.Time.YearOfDay
import Mathlib.Data.List.TakeWhile

/-!
# Written times

The times of certificates have a year of two or of four digits, and seconds
that may be left out or have decimals.  A time is read exactly if it is written
by these rules, and as the second that its calendar date, its time of day and
its offset denote.
-/

namespace EndpointDiscovery

/-- Days since 1970-01-01.  The calendar repeats after 400 years, so that the year 0
is counted as the year 400. -/
def CivilDate.daysSinceEpoch (year month day : Nat) : Int :=
  dayNumber (year + 400) month day - dayNumber (1970 + 400) 1 1

namespace CivilDate

theorem toDays_eq_daysSinceEpoch {month : Nat} (hleast : 1 ≤ month)
    (hmost : month ≤ 12) (year day : Nat) :
    toDays ⟨year, month, day⟩ = daysSinceEpoch year month day := by
  have hera : toDays ⟨(year + 400 : Nat), month, day⟩ =
      toDays ⟨year, month, day⟩ + 146097 := by
    simp only [toDays]
    split <;> omega
  have hepoch : toDays ⟨(1970 + 400 : Nat), 1, 1⟩ = 146097 := by decide
  rw [toDays_eq (by omega) hleast hmost] at hera
  rw [toDays_eq (by decide) (by decide) (by decide)] at hepoch
  unfold daysSinceEpoch
  omega

theorem le_year_of_seconds_iff (year : Nat) (seconds : Int) :
    year ≤ (ofDays (seconds / 86400)).year ↔
      daysSinceEpoch year 1 1 * 86400 ≤ seconds := by
  rw [le_year_ofDays_iff, toDays_eq_daysSinceEpoch (by decide) (by decide),
    Int.le_ediv_iff_mul_le (by decide)]

theorem daysInMonth_add_era (year month : Nat) :
    daysInMonth (year + 400 : Nat) month = daysInMonth year month := by
  have hleap : isLeapYear (year + 400 : Nat) = isLeapYear year := by
    rw [Bool.eq_iff_iff, isLeapYear_iff, isLeapYear_iff]
    omega
  simp only [daysInMonth, hleap]

theorem isValid_iff {year : Int} {month day : Nat} :
    isValid ⟨year, month, day⟩ = true ↔
    (1 ≤ month ∧ month ≤ 12) ∧ 1 ≤ day ∧ day ≤ daysInMonth year month := by
  simp [isValid, and_assoc]

end CivilDate

namespace Asn1

/-! ## What is written -/

def twoDigits (number : Nat) : List UInt8 :=
  [UInt8.ofNat (0x30 + number / 10), UInt8.ofNat (0x30 + number % 10)]

inductive WrittenSecond where
  | omitted
  | whole (second : Nat)
  | decimal (second : Nat) (digits : List UInt8)

inductive WrittenZone where
  | utc
  | ahead (hours minutes : Nat)
  | behind (hours minutes : Nat)

structure WrittenTime where
  generalized : Bool
  year : Nat
  month : Nat
  day : Nat
  hour : Nat
  minute : Nat
  second : WrittenSecond
  zone : WrittenZone

def WrittenSecond.text : WrittenSecond → List UInt8
  | .omitted => []
  | .whole second => twoDigits second
  | .decimal second digits => twoDigits second ++ 0x2E :: digits

def WrittenSecond.value : WrittenSecond → Nat
  | .omitted => 0
  | .whole second | .decimal second _ => second

def WrittenSecond.IsAllowed (generalized : Bool) : WrittenSecond → Prop
  | .omitted => True
  | .whole second => second ≤ 59
  | .decimal second digits =>
      second ≤ 59 ∧ generalized = true ∧ digits ≠ [] ∧ ∀ digit ∈ digits,
        Time.isDigit digit = true

def WrittenZone.text : WrittenZone → List UInt8
  | .utc => [0x5A]
  | .ahead hours minutes => 0x2B :: (twoDigits hours ++ twoDigits minutes)
  | .behind hours minutes => 0x2D :: (twoDigits hours ++ twoDigits minutes)

def WrittenZone.offset : WrittenZone → Int
  | .utc => 0
  | .ahead hours minutes => hours * 3600 + minutes * 60
  | .behind hours minutes => -(hours * 3600 + minutes * 60)

def WrittenZone.IsAllowed : WrittenZone → Prop
  | .utc => True
  | .ahead hours minutes | .behind hours minutes => hours ≤ 12 ∧ minutes ≤ 59

namespace WrittenTime

def yearText (written : WrittenTime) : List UInt8 :=
  if written.generalized then
    twoDigits (written.year / 100) ++ twoDigits (written.year % 100)
  else twoDigits (written.year % 100)

def text (written : WrittenTime) : List UInt8 :=
  written.yearText ++ (twoDigits written.month ++ (twoDigits written.day ++
    (twoDigits written.hour ++ (twoDigits written.minute ++
      (written.second.text ++ written.zone.text)))))

def seconds (written : WrittenTime) : Int :=
  CivilDate.daysSinceEpoch written.year written.month written.day * 86400 +
    (written.hour * 3600 + written.minute * 60 + written.second.value : Nat) -
      written.zone.offset

/-- Two digits are those of the years from 1950 to 2049.  A time with an offset must
not leave the years from 1900 to 9999. -/
structure IsAllowed (written : WrittenTime) : Prop where
  year : if written.generalized then written.year ≤ 9999
    else 1950 ≤ written.year ∧ written.year ≤ 2049
  month : 1 ≤ written.month ∧ written.month ≤ 12
  day : 1 ≤ written.day ∧ written.day ≤
    CivilDate.daysInMonth written.year written.month
  hour : written.hour ≤ 23
  minute : written.minute ≤ 59
  second : written.second.IsAllowed written.generalized
  zone : written.zone.IsAllowed
  bounded : written.zone.offset = 0 ∨
    CivilDate.daysSinceEpoch 1900 1 1 * 86400 ≤ written.seconds ∧
      written.seconds < CivilDate.daysSinceEpoch 10000 1 1 * 86400

end WrittenTime

/-- A time is written by the rules and stands for a second. -/
def Time.Denotes (time : Time) (seconds : Int) : Prop :=
  ∃ written : WrittenTime, written.IsAllowed ∧
    time = ⟨written.generalized, written.text⟩ ∧
    written.seconds = seconds

/-! ## Pairs of digits -/

namespace Time

theorem isDigit_iff {byte : UInt8} : isDigit byte = true ↔
    48 ≤ byte.toNat ∧ byte.toNat ≤ 57 := by
  simp [isDigit, UInt8.le_iff_toNat_le]

theorem toNat_digit {number : Nat} (h : number < 10) :
    (UInt8.ofNat (0x30 + number)).toNat = 48 + number := by
  rw [UInt8.toNat_ofNat_of_lt' (by simp [UInt8.size]; omega)]

theorem pair?_eq_some_iff {most number : Nat} (hmost : most ≤ 99)
    {input rest : List UInt8} :
    pair? most input = some (number, rest) ↔
      number ≤ most ∧ input = twoDigits number ++ rest := by
  constructor
  · intro h
    match input with
    | [] | [_] => simp [pair?] at h
    | tens :: ones :: rest =>
        simp only [pair?, Option.ite_none_right_eq_some, Option.some.injEq,
          Prod.mk.injEq, isDigit_iff] at h
        obtain ⟨⟨htens, hones, hle⟩, rfl, rfl⟩ := h
        refine ⟨hle, ?_⟩
        have hfirst : 0x30 + ((tens.toNat - 0x30) * 10 + (ones.toNat - 0x30)) / 10 =
            tens.toNat := by omega
        have hsecond :
            0x30 + ((tens.toNat - 0x30) * 10 + (ones.toNat - 0x30)) % 10 =
            ones.toNat := by omega
        rw [twoDigits, hfirst, hsecond, UInt8.ofNat_toNat, UInt8.ofNat_toNat]
        rfl
  · rintro ⟨hle, rfl⟩
    have htens := toNat_digit (show number / 10 < 10 by omega)
    have hones := toNat_digit (show number % 10 < 10 by omega)
    simp only [twoDigits, pair?, isDigit_iff, List.cons_append, List.nil_append,
      htens, hones, Option.ite_none_right_eq_some, Option.some.injEq, Prod.mk.injEq,
      and_true]
    omega

theorem head?_twoDigits {number : Nat} (h : number ≤ 99) (rest : List UInt8) :
    ∃ digit, (twoDigits number ++ rest).head? = some digit ∧ isDigit digit = true :=
  ⟨_, rfl, isDigit_iff.mpr (by rw [toNat_digit (by omega)]; omega)⟩

/-! ## Parts -/

variable {generalized : Bool} {input rest : List UInt8}

theorem year?_eq_some_iff {year : Nat} :
    year? generalized input = some (year, rest) ↔
    (if generalized then year ≤ 9999 else 1950 ≤ year ∧ year ≤ 2049) ∧
      input = (if generalized then twoDigits (year / 100) ++ twoDigits (year % 100)
        else twoDigits (year % 100)) ++ rest := by
  cases generalized with
  | false =>
      simp only [year?, Option.bind_eq_bind, Option.bind_eq_some_iff, Prod.exists,
        pair?_eq_some_iff (Nat.le_refl 99), Bool.false_eq_true, if_false,
        Option.some.injEq, Prod.mk.injEq]
      constructor
      · rintro ⟨short, rest, ⟨hshort, rfl⟩, hyear, rfl⟩
        have hpivot : 1950 ≤ year ∧ year ≤ 2049 ∧ year % 100 = short := by
          split at hyear <;> omega
        exact ⟨⟨hpivot.1, hpivot.2.1⟩, by rw [hpivot.2.2]⟩
      · rintro ⟨hyear, rfl⟩
        exact ⟨year % 100, rest, ⟨by omega, rfl⟩, by split <;> omega, rfl⟩
  | true =>
      simp only [year?, Option.bind_eq_bind, Option.bind_eq_some_iff, Prod.exists,
        pair?_eq_some_iff (Nat.le_refl 99), if_true, Option.some.injEq,
        Prod.mk.injEq]
      constructor
      · rintro ⟨first, _, ⟨hfirst, rfl⟩, second, rest, ⟨hsecond, rfl⟩, rfl, rfl⟩
        have hdigits : (first * 100 + second) / 100 = first ∧
            (first * 100 + second) % 100 = second := by omega
        exact ⟨by omega, by rw [hdigits.1, hdigits.2, List.append_assoc]⟩
      · rintro ⟨hyear, rfl⟩
        exact ⟨year / 100, _, ⟨by omega, List.append_assoc _ _ _⟩, year % 100, rest,
          ⟨by omega, rfl⟩, by omega, rfl⟩

def BeginsZone (input : List UInt8) : Prop :=
  ∃ mark, input.head? = some mark ∧ startsZone mark = true

theorem startsZone_eq_false {byte : UInt8} (h : isDigit byte = true) :
    startsZone byte = false := by
  rw [isDigit_iff] at h
  simp only [startsZone, Bool.or_eq_false_iff, decide_eq_false_iff_not,
    ← UInt8.toNat_inj, UInt8.reduceToNat]
  omega

theorem BeginsZone.not_digit (h : BeginsZone input) :
    ∀ byte, input.head? = some byte → isDigit byte = false := by
  obtain ⟨mark, hmark, hzone⟩ := h
  intro byte hbyte
  rw [hmark, Option.some.injEq] at hbyte
  subst hbyte
  by_contra hdigit
  simp [startsZone_eq_false (eq_true_of_ne_false hdigit)] at hzone

theorem skipFraction?_of_not_point (h : input.head? ≠ some 0x2E) :
    skipFraction? generalized input = some input := by
  unfold skipFraction?
  split
  · simp at h
  · rfl

theorem BeginsZone.skipFraction?_eq (h : BeginsZone input) :
    skipFraction? generalized input = some input := by
  refine skipFraction?_of_not_point fun hpoint => ?_
  obtain ⟨mark, hmark, hzone⟩ := h
  rw [hmark, Option.some.injEq] at hpoint
  simp [hpoint, startsZone] at hzone

theorem second?_of_digits {second : Nat} (h : second ≤ 59) :
    second? (twoDigits second ++ rest) = some (second, rest) := by
  obtain ⟨digit, hhead, hdigit⟩ := head?_twoDigits (show second ≤ 99 by omega) rest
  rw [second?, hhead, Option.any_some, startsZone_eq_false hdigit,
    if_neg Bool.false_ne_true, (pair?_eq_some_iff (by decide)).mpr ⟨h, rfl⟩]

theorem read_second {second : WrittenSecond} (h : second.IsAllowed generalized)
    (hrest : BeginsZone rest) : ∃ between, second? (second.text ++ rest) =
      some (second.value, between) ∧
      skipFraction? generalized between = some rest := by
  cases second with
  | omitted =>
      obtain ⟨mark, hmark, hzone⟩ := hrest
      refine ⟨rest, ?_, BeginsZone.skipFraction?_eq ⟨mark, hmark, hzone⟩⟩
      simp [WrittenSecond.text, second?, hmark, hzone, WrittenSecond.value]
  | whole second => exact ⟨rest, second?_of_digits h, hrest.skipFraction?_eq⟩
  | decimal second digits =>
      obtain ⟨hsecond, hgeneralized, hne, hdigits⟩ := h
      refine ⟨0x2E :: (digits ++ rest), ?_, ?_⟩
      · rw [WrittenSecond.text, List.append_assoc]
        exact second?_of_digits hsecond
      · obtain ⟨first, more, rfl⟩ := List.exists_cons_of_ne_nil hne
        have hfirst : isDigit first = true := hdigits first List.mem_cons_self
        have hdropped : (first :: more ++ rest).dropWhile isDigit = rest := by
          rw [List.dropWhile_append_of_pos hdigits]
          cases rest with
          | nil => rfl
          | cons byte rest =>
              exact List.dropWhile_cons_of_neg (by simp [hrest.not_digit byte rfl])
        simp only [skipFraction?, hgeneralized, List.cons_append, List.head?_cons,
          Option.any_some, hfirst, and_self, if_true]
        rw [← List.cons_append, hdropped]

theorem exists_second {second : Nat} {between : List UInt8}
    (hsecond : second? input = some (second, between))
    (hfraction : skipFraction? generalized between = some rest) :
    ∃ written : WrittenSecond, written.IsAllowed generalized ∧
      input = written.text ++ rest ∧
      written.value = second := by
  unfold second? at hsecond
  split at hsecond
  · rename_i hzone
    cases hsecond
    have hbegins : BeginsZone input := by
      cases hhead : input.head? with
      | none => simp [hhead] at hzone
      | some mark => exact ⟨mark, hhead, by simpa [hhead] using hzone⟩
    rw [hbegins.skipFraction?_eq] at hfraction
    cases hfraction
    exact ⟨.omitted, trivial, rfl, rfl⟩
  · rw [pair?_eq_some_iff (by decide)] at hsecond
    obtain ⟨hle, rfl⟩ := hsecond
    unfold skipFraction? at hfraction
    split at hfraction
    · rename_i digits _
      simp only [Option.ite_none_right_eq_some, Option.some.injEq] at hfraction
      obtain ⟨⟨hgeneralized, hfirst⟩, rfl⟩ := hfraction
      refine ⟨.decimal second (digits.takeWhile isDigit),
        ⟨hle, hgeneralized, ?_, ?_⟩, ?_, rfl⟩
      · cases digits with
        | nil => simp at hfirst
        | cons digit digits => simp_all
      · exact fun digit => List.mem_takeWhile_imp
      · simp [WrittenSecond.text]
    · cases hfraction
      exact ⟨.whole second, hle, rfl, rfl⟩

theorem pair?_hours {hours : Nat} (h : hours ≤ 12) (rest : List UInt8) :
    pair? 12 (twoDigits hours ++ rest) = some (hours, rest) :=
  (pair?_eq_some_iff (by decide)).mpr ⟨h, rfl⟩

theorem pair?_minutes {minutes : Nat} (h : minutes ≤ 59) :
    pair? 59 (twoDigits minutes) = some (minutes, []) :=
  (pair?_eq_some_iff (by decide)).mpr ⟨h, (List.append_nil _).symm⟩

theorem zone?_eq_some_iff {offset : Int} : zone? input = some offset ↔
    ∃ zone : WrittenZone, zone.IsAllowed ∧ input = zone.text ∧
      zone.offset = offset := by
  constructor
  · intro h
    unfold zone? at h
    split at h
    · cases h
      exact ⟨.utc, trivial, rfl, rfl⟩
    · rename_i sign rest _
      simp only [Option.bind_eq_bind, Option.bind_eq_some_iff, Prod.exists,
        pair?_eq_some_iff, Nat.reduceLeDiff, Option.ite_none_right_eq_some,
        List.isEmpty_iff] at h
      obtain ⟨hours, _, ⟨hhours, rfl⟩, minutes, rest, ⟨hminutes, rfl⟩, rfl,
          hsign⟩ := h
      rw [List.append_nil]
      split at hsign
      · cases hsign
        exact ⟨.ahead hours minutes, ⟨hhours, hminutes⟩, by
          simp_all [WrittenZone.text], rfl⟩
      · split at hsign
        · cases hsign
          exact ⟨.behind hours minutes,
            ⟨hhours, hminutes⟩, by simp_all [WrittenZone.text], rfl⟩
        · contradiction
    · contradiction
  · rintro ⟨zone, hallowed, rfl, rfl⟩
    cases zone with
    | utc => rfl
    | ahead hours minutes =>
        simp [zone?, WrittenZone.text, pair?_hours hallowed.1,
          pair?_minutes hallowed.2, WrittenZone.offset]
    | behind hours minutes =>
        simp [zone?, WrittenZone.text, pair?_hours hallowed.1,
          pair?_minutes hallowed.2, WrittenZone.offset]

theorem beginsZone_text (zone : WrittenZone) : BeginsZone zone.text := by
  cases zone <;> exact ⟨_, rfl, rfl⟩

/-! ## Whole times -/

theorem bounded_iff {offset seconds : Int} :
    (offset = 0 ∨ 1900 ≤ (CivilDate.ofDays (seconds / 86400)).year ∧
        (CivilDate.ofDays (seconds / 86400)).year ≤ 9999) ↔
      offset = 0 ∨ CivilDate.daysSinceEpoch 1900 1 1 * 86400 ≤ seconds ∧
        seconds < CivilDate.daysSinceEpoch 10000 1 1 * 86400 := by
  have hleast := CivilDate.le_year_of_seconds_iff 1900 seconds
  have hmost := CivilDate.le_year_of_seconds_iff 10000 seconds
  omega

theorem seconds?_of_written {written : WrittenTime} (h : written.IsAllowed) :
    seconds? ⟨written.generalized, written.text⟩ = some written.seconds := by
  obtain ⟨between, hsecond, hfraction⟩ :=
    read_second h.second (beginsZone_text written.zone)
  have hdays : CivilDate.daysInMonth written.year written.month ≤ 31 := by
    unfold CivilDate.daysInMonth
    repeat' split
    all_goals decide
  have hseconds :
      (CivilDate.mk written.year written.month written.day).toDays * 86400 +
      written.hour * 3600 + written.minute * 60 + written.second.value -
        written.zone.offset =
        written.seconds := by
    rw [CivilDate.toDays_eq_daysSinceEpoch h.month.1 h.month.2, WrittenTime.seconds]
    push_cast
    omega
  simp only [seconds?, Option.bind_eq_bind, Option.bind_eq_some_iff, Prod.exists,
    year?_eq_some_iff, pair?_eq_some_iff, Nat.reduceLeDiff, zone?_eq_some_iff,
    Option.ite_none_right_eq_some, Option.some.injEq]
  refine ⟨written.year, _, ⟨h.year, rfl⟩, written.month, _, ⟨h.month.2, rfl⟩,
    written.day, _, ⟨h.day.2.trans hdays, rfl⟩, written.hour, _, ⟨h.hour, rfl⟩,
    written.minute, _, ⟨h.minute, rfl⟩, _, between, hsecond, _, hfraction, _,
    ⟨written.zone, h.zone, rfl, rfl⟩,
    ⟨CivilDate.isValid_iff.mpr ⟨h.month, h.day⟩, ?_⟩, hseconds⟩
  rw [hseconds]
  exact bounded_iff.mpr h.bounded

theorem denotes_of_seconds? {time : Time} {seconds : Int}
    (h : time.seconds? = some seconds) :
    time.Denotes seconds := by
  simp only [seconds?, Option.bind_eq_bind, Option.bind_eq_some_iff, Prod.exists,
    year?_eq_some_iff, pair?_eq_some_iff, Nat.reduceLeDiff, zone?_eq_some_iff,
    Option.ite_none_right_eq_some, Option.some.injEq] at h
  obtain ⟨year, _, ⟨hyear, htext⟩, month, _, ⟨-, rfl⟩, day, _, ⟨-, rfl⟩, hour, _,
      ⟨hhour, rfl⟩, minute, _, ⟨hminute, rfl⟩, second, between, hsecond, rest,
      hfraction, offset, ⟨zone, hzone, rfl, rfl⟩, ⟨hvalid, hbounded⟩, hseconds⟩ := h
  obtain ⟨written, hwritten, rfl, rfl⟩ := exists_second hsecond hfraction
  obtain ⟨hmonth, hday⟩ := CivilDate.isValid_iff.mp hvalid
  rw [CivilDate.toDays_eq_daysSinceEpoch hmonth.1 hmonth.2] at hbounded hseconds
  have hdenoted : WrittenTime.seconds
      ⟨time.generalized, year, month, day, hour, minute, written, zone⟩ =
        seconds := by
    rw [← hseconds, WrittenTime.seconds]
    push_cast
    omega
  rw [hseconds, bounded_iff] at hbounded
  refine ⟨⟨time.generalized, year, month, day, hour, minute, written, zone⟩,
    ⟨hyear, hmonth, hday, hhour, hminute, hwritten, hzone, by rwa [hdenoted]⟩, ?_,
    hdenoted⟩
  cases time
  rw [Time.mk.injEq]
  exact ⟨rfl, htext⟩

theorem seconds?_eq_some_iff {time : Time} {seconds : Int} :
    time.seconds? = some seconds ↔ time.Denotes seconds := by
  constructor
  · exact denotes_of_seconds?
  · rintro ⟨written, hallowed, rfl, rfl⟩
    exact seconds?_of_written hallowed

/-! ## The seconds that can be written -/

theorem Denotes.range {time : Time} {seconds : Int} (h : time.Denotes seconds) :
    CivilDate.daysSinceEpoch 0 1 1 * 86400 ≤ seconds ∧
      seconds < CivilDate.daysSinceEpoch 10000 1 1 * 86400 := by
  obtain ⟨written, hallowed, -, rfl⟩ := h
  -- Without an offset the year bounds the seconds; an offset must keep within
  -- bounds itself.
  rcases hallowed.bounded with hutc | hbounded
  · have hyear : written.year ≤ 9999 := by
      have := hallowed.year
      split at this <;> omega
    have hday := hallowed.day.2
    rw [← CivilDate.daysInMonth_add_era] at hday
    have hmost :=
      CivilDate.lt_newYear (by omega) (show written.year + 400 < 10400 by omega)
        hallowed.month hday
    have hleast :=
      CivilDate.newYear_le (show 400 ≤ written.year + 400 by omega) written.month
        hallowed.day.1
    have hsecond : written.second.value ≤ 59 := by
      cases hwritten : written.second <;> have := hallowed.second <;>
        simp_all [WrittenSecond.IsAllowed, WrittenSecond.value]
    have hhour := hallowed.hour
    have hminute := hallowed.minute
    simp only [WrittenTime.seconds, CivilDate.daysSinceEpoch, Nat.reduceAdd]
    omega
  · have hcentury : CivilDate.daysSinceEpoch 0 1 1 ≤
        CivilDate.daysSinceEpoch 1900 1 1 := by
      decide +kernel
    omega

/-- Exactly the seconds of the years from 0 to 9999 can be written. -/
theorem exists_denotes_iff {seconds : Int} : (∃ time : Time, time.Denotes seconds) ↔
    CivilDate.daysSinceEpoch 0 1 1 * 86400 ≤ seconds ∧
      seconds < CivilDate.daysSinceEpoch 10000 1 1 * 86400 := by
  constructor
  · rintro ⟨time, h⟩
    exact h.range
  · rintro ⟨hleast, hmost⟩
    obtain ⟨year, month, day, hyear, hmonth, hday, hnumber⟩ :=
      CivilDate.exists_dayNumber_eq (show 1 ≤ 400 by decide)
        (seconds / 86400 - CivilDate.daysSinceEpoch 0 1 1).toNat
    obtain ⟨year, rfl⟩ := Nat.exists_eq_add_of_le' hyear
    rw [CivilDate.daysInMonth_add_era] at hday
    have hlast : year ≤ 9999 := by
      by_contra hlater
      have := CivilDate.newYear_le (show 10400 ≤ year + 400 by omega) month hday.1
      simp only [CivilDate.daysSinceEpoch, Nat.reduceAdd] at *
      omega
    refine ⟨_, ⟨true, year, month, day, (seconds % 86400 / 3600).toNat,
      (seconds % 3600 / 60).toNat, .whole (seconds % 60).toNat, .utc⟩,
      ⟨hlast, hmonth, hday, ?_, ?_, ?_, trivial, .inl rfl⟩, rfl, ?_⟩
    · show (seconds % 86400 / 3600).toNat ≤ 23
      omega
    · show (seconds % 3600 / 60).toNat ≤ 59
      omega
    · show (seconds % 60).toNat ≤ 59
      omega
    · simp only [WrittenTime.seconds, WrittenSecond.value, WrittenZone.offset,
        CivilDate.daysSinceEpoch, Nat.reduceAdd] at *
      omega

end Time

end Asn1

end EndpointDiscovery
