import EndpointDiscovery.Proofs.Time.DayCount
import EndpointDiscovery.Time.DateText

/-!
# Dates of the schema

The schema writes a date, or a date and a time, and after it the zone if there is
one.  A date alone is read only if it is in UTC, and the midnight at the end of a
day is not read; every other date is read as the instant that it denotes.
-/

namespace EndpointDiscovery

/-! ## Dates and times -/

structure Decimals where
  places : Nat
  value : Nat
  least : 1 ≤ places
  most : places ≤ 9
  fits : value < 10 ^ places

/-- A time of day; the hour 24 is the midnight that ends the day. -/
structure SchemaTime where
  hour : Nat
  minute : Nat
  second : Nat
  decimals? : Option Decimals
  valid : hour ≤ 23 ∧ minute ≤ 59 ∧ second ≤ 59 ∨
    hour = 24 ∧ minute = 0 ∧ second = 0 ∧ ∀ decimals,
      decimals? = some decimals → decimals.value = 0

inductive SchemaZone where
  | utc
  | offset (behind : Bool) (minutes : Nat) (most : minutes ≤ 840)

structure SchemaDate where
  year : Nat
  month : Nat
  day : Nat
  time? : Option SchemaTime
  zone? : Option SchemaZone
  validYear : 1 ≤ year ∧ year ≤ 9999
  validMonth : 1 ≤ month ∧ month ≤ 12
  validDay : 1 ≤ day ∧ day ≤ CivilDate.daysInMonth year month

/-! ## Texts -/

def numeral : Nat → Nat → List Char
  | 0, _ => []
  | width + 1, number =>
      numeral width (number / 10) ++ [Char.ofNat (0x30 + number % 10)]

def Decimals.text (decimals : Decimals) : List Char :=
  '.' :: numeral decimals.places decimals.value

def SchemaTime.text (time : SchemaTime) : List Char :=
  numeral 2 time.hour ++ ':' ::
  (numeral 2 time.minute ++ ':' :: (numeral 2 time.second ++
    (time.decimals?.map Decimals.text).getD []))

def SchemaZone.text : SchemaZone → List Char
  | .utc => ['Z']
  | .offset behind minutes _ =>
      (if behind then '-' else '+') ::
      (numeral 2 (minutes / 60) ++ ':' :: numeral 2 (minutes % 60))

namespace SchemaDate

def zoneText (date : SchemaDate) : List Char :=
  (date.zone?.map SchemaZone.text).getD []

def dayText (date : SchemaDate) : List Char :=
  numeral 4 date.year ++ '-' :: (numeral 2 date.month ++ '-' :: numeral 2 date.day)

def text (date : SchemaDate) : List Char :=
  date.dayText ++
  ((date.time?.map fun time => 'T' :: time.text).getD [] ++ date.zoneText)

end SchemaDate

/-! ## Instants -/

def Decimals.nanoseconds (decimals : Decimals) : Nat :=
  decimals.value * 10 ^ (9 - decimals.places)

def SchemaTime.seconds (time : SchemaTime) : Nat :=
  time.hour * 3600 + time.minute * 60 + time.second

def SchemaZone.seconds : SchemaZone → Int
  | .utc => 0
  | .offset behind minutes _ => if behind then -(minutes * 60) else minutes * 60

/-- The instant of a date: its day begins at midnight if it has no time, and in UTC
if it has no zone. -/
def SchemaDate.denoted (date : SchemaDate) : Instant where
  seconds :=
    (CivilDate.dayNumber date.year date.month date.day -
      CivilDate.dayNumber 1970 1 1) * 86400 +
      (date.time?.map (fun time => (time.seconds : Int))).getD 0 -
        (date.zone?.map SchemaZone.seconds).getD 0
  nanoseconds := ((date.time?.bind (·.decimals?)).map Decimals.nanoseconds).getD 0

/-- A date alone has no offset, and no time is the end of a day. -/
inductive SchemaDate.IsPlain (date : SchemaDate) : Prop
  | alone (htime : date.time? = none)
      (hzone : ∀ zone, date.zone? = some zone → zone = .utc) : IsPlain date
  | timed {time : SchemaTime} (htime : date.time? = some time)
      (hhour : time.hour ≤ 23) :
      IsPlain date

namespace DateText

/-! ## Numbers -/

theorem some_bind {α β : Type} (value : α) (next : α → Option β) :
    (some value >>= next) = next value :=
  rfl

theorem mark?_cons (mark : Char) (rest : Rest) :
    mark? mark (mark :: rest) = some rest :=
  if_pos rfl

def EndsNumber (rest : Rest) : Prop :=
  ∀ character, rest.head? = some character → isDigit character = false

theorem numeral_digits (width number : Nat) : ∀ digit ∈ numeral width number,
    isDigit digit = true ∧ Text.isBlank digit = false := by
  induction width generalizing number with
  | zero => simp [numeral]
  | succ width ih =>
      intro digit hmem
      rw [numeral, List.mem_append, List.mem_singleton] at hmem
      rcases hmem with hmem | rfl
      · exact ih _ digit hmem
      · have hdigits : ∀ value < 10, isDigit (Char.ofNat (0x30 + value)) = true ∧
            Text.isBlank (Char.ofNat (0x30 + value)) = false := by decide
        exact hdigits _ (Nat.mod_lt _ (by decide))

theorem length_numeral (width number : Nat) :
    (numeral width number).length = width := by
  induction width generalizing number with
  | zero => rfl
  | succ width ih => rw [numeral, List.length_append, ih, List.length_singleton]

theorem foldl_numeral (width : Nat) {number : Nat} (h : number < 10 ^ width) :
    (numeral width number).foldl (fun sum digit =>
      sum * 10 + (digit.toNat - 0x30)) 0 = number := by
  induction width generalizing number with
  | zero =>
      rw [pow_zero, Nat.lt_one_iff] at h
      rw [h, numeral, List.foldl_nil]
  | succ width ih =>
      have hvalue : ∀ value < 10,
          (Char.ofNat (0x30 + value)).toNat - 0x30 = value := by decide
      have hlt : number / 10 < 10 ^ width :=
        Nat.div_lt_of_lt_mul (by rwa [← pow_succ'])
      rw [numeral, List.foldl_append, ih hlt, List.foldl_cons, List.foldl_nil,
        hvalue _ (Nat.mod_lt _ (by decide))]
      omega

theorem takeWhile_digits {digits : List Char}
    (h : ∀ digit ∈ digits, isDigit digit = true) {rest : Rest} (hrest :
      EndsNumber rest) : (digits ++ rest).takeWhile isDigit = digits := by
  rw [List.takeWhile_append_of_pos h]
  cases rest with
  | nil => rw [List.takeWhile_nil, List.append_nil]
  | cons character rest =>
      rw [List.takeWhile_cons_of_neg (by simp [hrest character rfl]),
        List.append_nil]

theorem number?_numeral {least most width number : Nat} (hleast : least ≤ width)
    (hmost : width ≤ most) (hnumber : number < 10 ^ width) {rest : Rest}
    (hrest : width = most ∨ EndsNumber rest) :
    number? least most (numeral width number ++ rest) = some (number, rest) := by
  have hdigits : ∀ digit ∈ numeral width number, isDigit digit = true :=
    fun digit hmem => (numeral_digits width number digit hmem).1
  have htaken : ((numeral width number ++ rest).take most).takeWhile isDigit =
      numeral width number := by
    rcases hrest with rfl | hrest
    · have hend : EndsNumber [] := by simp [EndsNumber]
      rw [List.take_left' (length_numeral ..)]
      simpa using takeWhile_digits hdigits hend
    · rw [List.take_append, length_numeral,
        List.take_of_length_le (by rwa [length_numeral])]
      refine takeWhile_digits hdigits fun character hhead => hrest character ?_
      cases rest with
      | nil => simp at hhead
      | cons other rest =>
          cases htake : most - width with
          | zero => simp [htake] at hhead
          | succ count => simpa [htake] using hhead
  rw [number?, htaken, length_numeral, if_neg (by omega),
    foldl_numeral width hnumber, List.drop_left' (length_numeral ..)]

theorem number?_fixed {width number : Nat} (h : number < 10 ^ width) (rest : Rest) :
    number? width width (numeral width number ++ rest) = some (number, rest) :=
  number?_numeral le_rfl le_rfl h (.inl rfl)

theorem number?_fixed_nil {width number : Nat} (h : number < 10 ^ width) :
    number? width width (numeral width number) = some (number, []) := by
  simpa using number?_fixed h []

theorem exists_numeral_cons {width : Nat} (h : 0 < width) (number : Nat) :
    ∃ digit digits, numeral width number = digit :: digits ∧ isDigit digit = true ∧
      Text.isBlank digit = false := by
  have hlength := length_numeral width number
  have hdigits := numeral_digits width number
  cases hnumeral : numeral width number with
  | nil => simp [hnumeral] at hlength; omega
  | cons digit digits =>
      rw [hnumeral] at hdigits
      exact ⟨digit, digits, rfl, hdigits digit (by simp)⟩

theorem dropWhile_blank_numeral {width : Nat} (h : 0 < width) (number : Nat)
    (rest : Rest) :
    (numeral width number ++ rest).dropWhile Text.isBlank =
      numeral width number ++ rest := by
  obtain ⟨digit, digits, heq, -, hvisible⟩ := exists_numeral_cons h number
  rw [heq, List.cons_append, List.dropWhile_cons_of_neg (by simp [hvisible])]

theorem shortNumber?_numeral {number : Nat} (h : number < 10 ^ 2) (rest : Rest) :
    shortNumber? (numeral 2 number ++ rest) = some (number, rest) := by
  rw [shortNumber?, dropWhile_blank_numeral (by decide)]
  exact number?_numeral (by decide) (by decide) h (.inl rfl)

theorem year?_numeral {year : Nat} (h : year < 10 ^ 4) (rest : Rest) :
    year? (numeral 4 year ++ rest) = some ((year : Int), rest) := by
  have hread : number? 1 4 (numeral 4 year ++ rest) = some (year, rest) :=
    number?_numeral (by decide) (by decide) h (.inl rfl)
  obtain ⟨digit, digits, heq, hdigit, -⟩ :=
    exists_numeral_cons (by decide : 0 < 4) year
  rw [year?, dropWhile_blank_numeral (by decide)]
  rw [heq, List.cons_append] at hread ⊢
  split
  · rename_i hsign
    rw [(List.cons.inj hsign).1] at hdigit
    contradiction
  · rename_i hsign
    rw [(List.cons.inj hsign).1] at hdigit
    contradiction
  · rw [hread, Option.map_some]

end DateText

/-! ## Parts of dates -/

open DateText

theorem SchemaTime.bounds (time : SchemaTime) :
    time.hour < 10 ^ 2 ∧ time.minute < 10 ^ 2 ∧ time.second < 10 ^ 2 := by
  have hvalid := time.valid
  omega

structure EndsTime (rest : Rest) : Prop where
  digits : EndsNumber rest
  point : rest.head? ≠ some '.'

theorem fraction?_decimals (decimals? : Option Decimals) {rest : Rest}
    (h : EndsTime rest) :
    fraction? ((decimals?.map Decimals.text).getD [] ++ rest) =
      some ((decimals?.map Decimals.nanoseconds).getD 0, rest) := by
  cases decimals? with
  | none =>
      rw [Option.map_none, Option.map_none, Option.getD_none, Option.getD_none,
        List.nil_append]
      unfold fraction?
      split
      · exact absurd rfl h.point
      · rfl
  | some decimals =>
      have hread : number? 1 9 (numeral decimals.places decimals.value ++ rest) =
          some (decimals.value, rest) :=
        number?_numeral decimals.least decimals.most decimals.fits (.inr h.digits)
      have hrest : rest.dropWhile isDigit = rest := by
        cases rest with
        | nil => rfl
        | cons character rest =>
            exact List.dropWhile_cons_of_neg (by simp [h.digits character rfl])
      simp [Decimals.text, fraction?, hread, hrest, length_numeral,
        Decimals.nanoseconds]

theorem offset?_text (zone : SchemaZone) :
    offset? zone.text = some (zone.seconds, []) := by
  cases zone with
  | utc => rfl
  | offset behind minutes most =>
      have hhours : minutes / 60 < 10 ^ 2 := by omega
      have hminutes : minutes % 60 < 10 ^ 2 := by omega
      have hbounds : ¬(59 < minutes % 60 ∨ 23 < minutes / 60) := by omega
      cases behind
      all_goals
        simp [SchemaZone.text, offset?, number?_fixed hhours,
          number?_fixed_nil hminutes, mark?_cons, hbounds, SchemaZone.seconds]
        omega

namespace SchemaDate

variable (date : SchemaDate)

theorem head?_zoneText {character : Char}
    (h : date.zoneText.head? = some character) :
    character ∈ ['Z', '+', '-'] := by
  unfold zoneText at h
  cases hzone : date.zone? with
  | none => simp [hzone] at h
  | some zone =>
      cases zone with
      | utc =>
          simp only [hzone, Option.map_some, Option.getD_some, SchemaZone.text,
            List.head?_cons, Option.some.injEq] at h
          simp [← h]
      | offset behind minutes most =>
          simp only [hzone, Option.map_some, Option.getD_some, SchemaZone.text,
            List.head?_cons, Option.some.injEq] at h
          cases behind <;> simp [← h]

theorem endsTime_zoneText : EndsTime date.zoneText where
  digits character hhead := by
    have hsigns : ∀ sign ∈ ['Z', '+', '-'],
        isDigit sign = false := by simp [isDigit]
    exact hsigns character (date.head?_zoneText hhead)
  point hhead := by simpa using date.head?_zoneText hhead

/-! ## The three notations -/

def civil : CivilDate := ⟨date.year, date.month, date.day⟩

theorem bounds : date.year < 10 ^ 4 ∧ date.month < 10 ^ 2 ∧ date.day < 10 ^ 2 := by
  have hyear := date.validYear
  have hmonth := date.validMonth
  have hday := date.validDay
  have hdays : CivilDate.daysInMonth date.year date.month ≤ 31 := by
    unfold CivilDate.daysInMonth
    repeat' split
    all_goals decide
  omega

theorem date?_dayText (rest : Rest) :
    date? (date.dayText ++ rest) = some (date.civil, rest) := by
  obtain ⟨hyear, hmonth, hday⟩ := date.bounds
  simp [dayText, civil, date?, year?_numeral hyear, shortNumber?_numeral hmonth,
    shortNumber?_numeral hday, mark?_cons]

theorem withOffset?_of_no_time {rest : Rest}
    (h : ∀ character, rest.head? = some character → character ∉ ['T', 't', ' ']) :
    withOffset? (date.dayText ++ rest) = none := by
  obtain ⟨hyear, hmonth, hday⟩ := date.bounds
  rw [dayText, withOffset?]
  simp only [List.append_assoc, List.cons_append]
  rw [number?_fixed hyear, some_bind, mark?_cons, some_bind, number?_fixed hmonth,
    some_bind, mark?_cons, some_bind, number?_fixed hday, some_bind]
  dsimp only
  cases rest with
  | nil => rfl
  | cons character rest => exact if_neg (h character rfl)

theorem withOffset?_of_time (time : SchemaTime) {rest : Rest}
    (hrest : EndsTime rest) :
    withOffset? (date.dayText ++ 'T' :: (time.text ++ rest)) =
      (offset? rest).bind fun read =>
        if read.2.isEmpty then
          instant? date.civil ⟨time.hour, time.minute, time.second,
            (time.decimals?.map Decimals.nanoseconds).getD 0⟩ read.1
        else none := by
  obtain ⟨hyear, hmonth, hday⟩ := date.bounds
  obtain ⟨hhour, hminute, hsecond⟩ := time.bounds
  rw [dayText, SchemaTime.text, withOffset?]
  simp only [List.append_assoc, List.cons_append]
  rw [number?_fixed hyear, some_bind, mark?_cons, some_bind, number?_fixed hmonth,
    some_bind, mark?_cons, some_bind, number?_fixed hday, some_bind]
  dsimp only
  rw [if_pos (by decide), some_bind, number?_fixed hhour, some_bind, mark?_cons,
    some_bind, number?_fixed hminute, some_bind, mark?_cons, some_bind,
    number?_fixed hsecond, some_bind, fraction?_decimals time.decimals? hrest]
  rfl

theorem inUtc?_of_no_time {rest : Rest} (h : rest.head? ≠ some 'T') :
    inUtc? (date.dayText ++ rest) = none := by
  have hmark : mark? 'T' rest = none := by
    unfold mark?
    split
    · rw [if_neg (by simpa using h)]
    · rfl
  simp [inUtc?, date?_dayText, hmark]

theorem inUtc?_of_time (time : SchemaTime) {rest : Rest} (hrest : EndsTime rest) :
    inUtc? (date.dayText ++ 'T' :: (time.text ++ rest)) =
      if rest.isEmpty then
        instant? date.civil ⟨time.hour, time.minute, time.second,
          (time.decimals?.map Decimals.nanoseconds).getD 0⟩ 0
      else none := by
  obtain ⟨hhour, hminute, hsecond⟩ := time.bounds
  simp [inUtc?, date?_dayText, mark?_cons, SchemaTime.text,
    shortNumber?_numeral hhour, shortNumber?_numeral hminute,
    shortNumber?_numeral hsecond, fraction?_decimals time.decimals? hrest]

theorem dateAlone?_dayText (rest : Rest) :
    dateAlone? (date.dayText ++ rest) =
      if rest = [] ∨ rest = ['Z'] then instant? date.civil ⟨0, 0, 0, 0⟩ 0
        else none := by
  have hread (body : Rest) : (date? (date.dayText ++ body)).bind (fun read =>
      if read.2.isEmpty then instant? read.1 ⟨0, 0, 0, 0⟩ 0 else none) =
      if body.isEmpty then instant? date.civil ⟨0, 0, 0, 0⟩ 0 else none := by
    rw [date?_dayText, Option.bind_some]
  rw [dateAlone?]
  rcases List.eq_nil_or_concat rest with rfl | ⟨before, last, rfl⟩
  · have hlast : (date.dayText ++ []).getLast? ≠ some 'Z' := by
      have hdigits : ∀ value < 10, Char.ofNat (0x30 + value) ≠ 'Z' := by decide
      have hsplit : date.dayText =
          (numeral 4 date.year ++ '-' :: (numeral 2 date.month ++ '-' ::
          numeral 1 (date.day / 10))) ++ [Char.ofNat (0x30 + date.day % 10)] := by
        simp [dayText, numeral]
      rw [List.append_nil, hsplit, List.getLast?_concat, ne_eq, Option.some.injEq]
      exact hdigits _ (Nat.mod_lt _ (by decide))
    simp only [if_neg hlast]
    exact hread []
  · rw [List.concat_eq_append, ← List.append_assoc, List.getLast?_concat,
      List.dropLast_concat]
    by_cases hlast : last = 'Z'
    · subst hlast
      rw [if_pos rfl]
      refine (hread before).trans ?_
      cases before <;> simp
    · rw [if_neg (by simpa using hlast), List.append_assoc]
      refine (hread (before ++ [last])).trans ?_
      cases before <;> simp [hlast]

/-! ## Reading -/

theorem parse?_of_no_time (htime : date.time? = none) :
    parse? (String.ofList date.text) =
      if date.zoneText = [] ∨ date.zoneText = ['Z'] then
        instant? date.civil ⟨0, 0, 0, 0⟩ 0
      else none := by
  have htext : date.text = date.dayText ++ date.zoneText := by
    rw [text, htime, Option.map_none, Option.getD_none, List.nil_append]
  have hmarks : ∀ sign ∈ ['Z', '+', '-'], sign ∉ ['T', 't', ' '] := by simp
  have hoffset : withOffset? (date.dayText ++ date.zoneText) = none :=
    date.withOffset?_of_no_time fun sign hhead =>
      hmarks sign (date.head?_zoneText hhead)
  have hutc : inUtc? (date.dayText ++ date.zoneText) = none :=
    date.inUtc?_of_no_time fun hhead => by simpa using date.head?_zoneText hhead
  rw [parse?, String.toList_ofList, htext]
  simp only [hoffset, hutc, dateAlone?_dayText]
  rfl

theorem parse?_of_time {time : SchemaTime} (htime : date.time? = some time) :
    parse? (String.ofList date.text) =
      instant? date.civil ⟨time.hour, time.minute, time.second,
        (time.decimals?.map Decimals.nanoseconds).getD 0⟩
        ((date.zone?.map SchemaZone.seconds).getD 0) := by
  have htext : date.text = date.dayText ++ 'T' :: (time.text ++ date.zoneText) := by
    rw [text, htime, Option.map_some, Option.getD_some, List.cons_append]
  have halone :
      dateAlone? (date.dayText ++ 'T' :: (time.text ++ date.zoneText)) = none := by
    rw [dateAlone?_dayText, if_neg (by simp)]
  rw [parse?, String.toList_ofList, htext]
  simp only [date.withOffset?_of_time time date.endsTime_zoneText,
    date.inUtc?_of_time time date.endsTime_zoneText, halone]
  unfold zoneText
  cases date.zone? with
  | none => simp [offset?]
  | some zone =>
      have hzone : zone.text ≠ [] := by cases zone <;> simp [SchemaZone.text]
      simp [offset?_text, hzone]

theorem toDays_civil : date.civil.toDays =
    CivilDate.dayNumber date.year date.month date.day -
      CivilDate.dayNumber 1970 1 1 :=
  CivilDate.toDays_eq date.validYear.1 date.validMonth.1 date.validMonth.2 date.day

theorem instant?_civil (time : TimeOfDay) (offset : Int)
    (hminute : time.minute ≤ 59) (hsecond : time.second ≤ 59) :
    instant? date.civil time offset =
      if time.hour ≤ 23 then
        some ⟨(CivilDate.dayNumber date.year date.month date.day -
            CivilDate.dayNumber 1970 1 1) * 86400 +
              (time.hour * 3600 + time.minute * 60 + time.second : Nat) - offset,
              time.nanosecond⟩
      else none := by
  obtain ⟨hyear, hyearMost⟩ := date.validYear
  obtain ⟨hmonth, hmonthMost⟩ := date.validMonth
  obtain ⟨hday, hdayMost⟩ := date.validDay
  have hvalid : date.civil.isValid = true := by
    simp [CivilDate.isValid, civil, hmonth, hmonthMost, hday, hdayMost]
  have hcivil : date.civil.year = date.year := rfl
  have hleast : -262143 ≤ date.civil.year := by omega
  have hmost : date.civil.year ≤ 262142 := by omega
  have hleap : time.second ≤ 60 := by omega
  rw [instant?]
  simp only [hvalid, hleast, hmost, hminute, hleap, decide_true, Bool.true_and,
    Bool.and_true, decide_eq_true_eq, min_eq_left hsecond, toDays_civil,
    Instant.secondsPerDay, Nat.sub_self, Nat.zero_mul, Nat.add_zero]
  split
  · rw [Option.some.injEq, Instant.mk.injEq]
    exact ⟨by push_cast; omega, rfl⟩
  · rfl

theorem utc_iff : date.zoneText = [] ∨ date.zoneText = ['Z'] ↔
    ∀ zone, date.zone? = some zone → zone = .utc := by
  unfold zoneText
  cases date.zone? with
  | none => simp
  | some zone => cases zone <;> simp [SchemaZone.text]

theorem read_of_plain (h : date.IsPlain) :
    parse? (String.ofList date.text) = some date.denoted := by
  cases h with
  | alone htime hzone =>
      have hseconds : (date.zone?.map SchemaZone.seconds).getD 0 = 0 := by
        cases hsome : date.zone? with
        | none => rfl
        | some zone =>
            rw [hzone zone hsome]
            rfl
      rw [date.parse?_of_no_time htime, if_pos (date.utc_iff.mpr hzone),
        date.instant?_civil _ _ (by decide) (by decide), if_pos (by decide)]
      simp [denoted, htime, hseconds]
  | @timed time htime hhour =>
      have hvalid := time.valid
      rw [date.parse?_of_time htime, date.instant?_civil _ _ (by dsimp only; omega)
        (by dsimp only; omega), if_pos hhour]
      simp [denoted, htime, SchemaTime.seconds]

theorem not_read_of_not_plain (h : ¬date.IsPlain) :
    parse? (String.ofList date.text) = none := by
  cases htime : date.time? with
  | none =>
      have hzone : ¬(date.zoneText = [] ∨ date.zoneText = ['Z']) :=
        fun hutc => h (.alone htime (date.utc_iff.mp hutc))
      rw [date.parse?_of_no_time htime, if_neg hzone]
  | some time =>
      have hhour : ¬time.hour ≤ 23 := fun hhour => h (.timed htime hhour)
      have hvalid := time.valid
      rw [date.parse?_of_time htime, date.instant?_civil _ _ (by dsimp only; omega)
        (by dsimp only; omega), if_neg hhour]

end SchemaDate

/-- A date of the schema is read as the instant that it denotes if it is plain, and
not at all otherwise. -/
theorem SchemaDate.read_iff_plain (date : SchemaDate) :
    (parse? (String.ofList date.text) = some date.denoted ↔ date.IsPlain) ∧
      (¬date.IsPlain → parse? (String.ofList date.text) = none) := by
  refine ⟨⟨fun hread => ?_, date.read_of_plain⟩, date.not_read_of_not_plain⟩
  by_contra hplain
  rw [date.not_read_of_not_plain hplain] at hread
  contradiction

def newYearAhead : SchemaDate where
  year := 2024
  month := 1
  day := 1
  time? := none
  zone? := some (.offset false 60 (by decide))
  validYear := by decide
  validMonth := by decide
  validDay := by decide

theorem not_read_newYearAhead :
    String.ofList newYearAhead.text = "2024-01-01+01:00" ∧
    newYearAhead.denoted.toText = "2023-12-31T23:00:00+00:00" ∧
      parse? (String.ofList newYearAhead.text) = none := by
  have hplain : ¬newYearAhead.IsPlain := by
    rintro (⟨-, hzone⟩ | ⟨htime, -⟩)
    · cases hzone _ rfl
    · cases htime
  have hdays : newYearAhead.civil.toDays = 19723 := by decide
  have hdenoted : newYearAhead.denoted = ⟨1704063600, 0⟩ := by
    rw [SchemaDate.denoted, ← SchemaDate.toDays_civil, hdays]
    rfl
  refine ⟨by decide, ?_, newYearAhead.read_iff_plain.2 hplain⟩
  rw [hdenoted]
  decide

end EndpointDiscovery
