/-
  TreeSift.Document.Moment — dates and times.

  A date may have a time of day with it, and that may have a zone: its distance from
  the common time, less than a day either way. Moments with a zone are the same when
  they are at one instant, whatever their zones; others when they say the same.

    §1 Moments  `Moment`, `Moment.instant?`
    §2 Display  `Moment.shown`
    §3 Reading  `Moment.parts?`, `Moment.fault?`
-/
import TreeSift.Decimal.Integer

namespace TreeSift.Document

/-! ## §1 Moments -/

/-- A time of day. -/
structure Clock where
  hour : Nat
  minute : Nat
  second : Nat
  micro : Nat
  /-- The distance from the common time, in seconds. -/
  zone : Option Int
  deriving DecidableEq, Repr

/-- A date, perhaps with a time of day. -/
structure Moment where
  year : Nat
  month : Nat
  day : Nat
  clock : Option Clock
  deriving DecidableEq, Repr

namespace Moment

/-- Whether a year has a day more. -/
def isLeap (year : Nat) : Bool := year % 4 == 0 && (year % 100 != 0 || year % 400 == 0)

/-- The number of days of a month. -/
def daysIn (year month : Nat) : Nat :=
  if month == 2 then (if isLeap year then 29 else 28)
  else if [4, 6, 9, 11].contains month then 30
  else 31

/-- The number of days before a date, from the first year on. -/
def daysBefore (m : Moment) : Nat :=
  let years := m.year - 1
  365 * years + years / 4 - years / 100 + years / 400
    + (List.range (m.month - 1)).foldl (fun n i => n + daysIn m.year (i + 1)) 0 + m.day

/-- The instant of a moment with a zone, in microseconds. -/
def instant? (m : Moment) : Option Int := do
  let clock ← m.clock
  let zone ← clock.zone
  let seconds : Int := 86400 * m.daysBefore + 3600 * clock.hour + 60 * clock.minute + clock.second
  return 1000000 * (seconds - zone) + clock.micro

/-! ## §2 Display -/

/-- A length of time as it is displayed, in seconds. -/
def lengthShown (seconds : Int) : String :=
  let days := seconds.fdiv 86400
  let rest := seconds - 86400 * days
  let parts := (if days = 0 then [] else ["days=" ++ toString days])
    ++ (if rest = 0 then [] else ["seconds=" ++ toString rest])
  "datetime.timedelta(" ++ ", ".intercalate parts ++ ")"

/-- A zone as it is displayed. -/
def zoneShown (seconds : Int) : String :=
  if seconds = 0 then "datetime.timezone.utc"
  else "datetime.timezone(" ++ lengthShown seconds ++ ")"

/-- Without the nothings at the end of the last two of four numbers. -/
def withoutZeros : List Nat → List Nat
  | [h, mi, 0, 0] => [h, mi]
  | [h, mi, s, 0] => [h, mi, s]
  | ns => ns

/-- A moment as it is displayed. -/
def shown (m : Moment) : String :=
  let commaSeparated := fun (ns : List Nat) => ", ".intercalate (ns.map toString)
  match m.clock with
  | none => "datetime.date(" ++ commaSeparated [m.year, m.month, m.day] ++ ")"
  | some clock =>
    let time := withoutZeros [clock.hour, clock.minute, clock.second, clock.micro]
    let zone := match clock.zone with
      | none => ""
      | some seconds => ", tzinfo=" ++ zoneShown seconds
    "datetime.datetime(" ++ commaSeparated ([m.year, m.month, m.day] ++ time) ++ zone ++ ")"

/-! ## §3 Reading -/

/-- The digits at the start of a text, from a least to a greatest number of them,
and what follows. -/
def takeDigits (least most : Nat) (s : List Char) : Option (Nat × List Char) :=
  let digits := (s.take most).takeWhile Char.isDigit
  if digits.length < least then none else some (Decimal.ofDigits digits, s.drop digits.length)

/-- What follows a given character. -/
def expect (c : Char) (s : List Char) : Option (List Char) :=
  match s with
  | d :: rest => if d = c then some rest else none
  | [] => none

/-- The zone at the end of a moment, in seconds. -/
def zone? (s : List Char) : Option (Option Int) :=
  match s.dropWhile fun c => c == ' ' || c == '\t' with
  | [] => if s.isEmpty then some none else none
  | ['Z'] => some (some 0)
  | sign :: rest => do
    if sign != '+' && sign != '-' then none
    let (hours, rest) ← takeDigits 1 2 rest
    let (minutes, rest) ←
      match rest with
      | ':' :: rest => takeDigits 2 2 rest
      | _ => some (0, rest)
    if !rest.isEmpty then none
    let seconds : Int := 3600 * hours + 60 * minutes
    return some (if sign == '-' then -seconds else seconds)

/-- The time of day after a date. -/
def clock? (s : List Char) : Option Clock := do
  let rest ←
    match s with
    | 'T' :: rest => some rest
    | 't' :: rest => some rest
    | c :: rest =>
      if c == ' ' || c == '\t' then some (rest.dropWhile fun c => c == ' ' || c == '\t') else none
    | [] => none
  let (hour, rest) ← takeDigits 1 2 rest
  let (minute, rest) ← takeDigits 2 2 (← expect ':' rest)
  let (second, rest) ← takeDigits 2 2 (← expect ':' rest)
  let (fraction, rest) :=
    match rest with
    | '.' :: rest => (rest.takeWhile Char.isDigit, rest.dropWhile Char.isDigit)
    | _ => ([], rest)
  let micro := Decimal.ofDigits ((fraction ++ List.replicate 6 '0').take 6)
  return ⟨hour, minute, second, micro, ← zone? rest⟩

/-- The numbers of a text that has the form of a moment, whether or not there is
such a moment. -/
def parts? (s : List Char) : Option Moment := do
  let (year, rest) ← takeDigits 4 4 s
  let (month, rest) ← takeDigits 1 2 (← expect '-' rest)
  let (day, rest) ← takeDigits 1 2 (← expect '-' rest)
  if rest.isEmpty then return ⟨year, month, day, none⟩
  return ⟨year, month, day, some (← clock? rest)⟩

/-- Why a zone does not exist. -/
def zoneFault? (seconds : Int) : Option String :=
  if -86400 < seconds && seconds < 86400 then none
  else some ("offset must be a timedelta strictly between -timedelta(hours=24) and "
    ++ "timedelta(hours=24), not " ++ lengthShown seconds ++ ".")

/-- Why a time of day does not exist. -/
def clockFault? (clock : Clock) : Option String :=
  if 23 < clock.hour then some "hour must be in 0..23"
  else if 59 < clock.minute then some "minute must be in 0..59"
  else if 59 < clock.second then some "second must be in 0..59"
  else none

/-- Why a date does not exist. -/
def dateFault? (m : Moment) : Option String :=
  if m.year == 0 then some "year 0 is out of range"
  else if m.month < 1 || 12 < m.month then some "month must be in 1..12"
  else if m.day < 1 || daysIn m.year m.month < m.day then some "day is out of range for month"
  else none

/-- Why a moment does not exist: its zone is looked at first, its time last. -/
def fault? (m : Moment) : Option String :=
  (((m.clock.bind Clock.zone).bind zoneFault?).or m.dateFault?).or (m.clock.bind clockFault?)

end Moment

end TreeSift.Document
