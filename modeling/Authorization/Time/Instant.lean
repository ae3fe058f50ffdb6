import Authorization.Number.Binary
import Authorization.Number.Decimal
import Authorization.Text.Basic

/-!
# Durations and instants

Spans of time, and calendar times, which lie apart by them.
-/

/-!
## Durations

A span of time in whole microseconds, of less than a thousand million days in either direction. It is
shown as days, seconds and microseconds, of which only the days may be negative.
-/

namespace Authorization.Time

def microsPerSecond : Int := 1000000

def microsPerDay : Int := 86400 * microsPerSecond

/-- The greatest number of days that a duration has. -/
def maxDays : Int := 999999999

/-- A span of time. -/
structure Duration where
  micros : Int
deriving DecidableEq, Repr

namespace Duration

/-- The duration of a number of microseconds, unless it is too long. -/
def ofMicros? (micros : Int) : Option Duration :=
  if -maxDays ≤ micros.fdiv microsPerDay ∧ micros.fdiv microsPerDay ≤ maxDays then some ⟨micros⟩
  else none

/-- The longest duration backwards. -/
def least : Duration := ⟨-maxDays * microsPerDay⟩

/-- The longest duration forwards. -/
def greatest : Duration := ⟨(maxDays + 1) * microsPerDay - 1⟩

/-- Whole days, rounded down. -/
def days (d : Duration) : Int :=
  d.micros.fdiv microsPerDay

/-- Whole seconds beyond the days. -/
def seconds (d : Duration) : Int :=
  d.micros.fmod microsPerDay / microsPerSecond

/-- Microseconds beyond the seconds. -/
def microseconds (d : Duration) : Int :=
  d.micros.fmod microsPerSecond

private def twoDigits (n : Int) : String :=
  if n < 10 then "0" ++ Number.intText n else Number.intText n

/-- The duration as days and a time of day. -/
def text (d : Duration) : String :=
  let fraction := Number.intText d.microseconds
  (if d.days = 0 then ""
    else Number.intText d.days ++ (if d.days = 1 ∨ d.days = -1 then " day, " else " days, ")) ++
  Number.intText (d.seconds / 3600) ++ ":" ++ twoDigits (d.seconds / 60 % 60) ++ ":" ++
    twoDigits (d.seconds % 60) ++
  (if d.microseconds = 0 then ""
    else "." ++ String.ofList (List.replicate (6 - fraction.length) '0') ++ fraction)

/-- The duration by the names of its parts, those that are zero left out. -/
def written (d : Duration) : String :=
  let parts := [("days=", d.days), ("seconds=", d.seconds), ("microseconds=", d.microseconds)]
  let shown := (parts.filter fun part => part.2 != 0).map fun part =>
    part.1 ++ Number.intText part.2
  "datetime.timedelta(" ++ (if shown.isEmpty then "0" else Text.join ", " shown) ++ ")"

end Duration

/-- The quotient of two integers, rounded to the nearest integer, a half going to the even neighbour. The
divisor is not zero. -/
def nearestQuotient (a b : Int) : Int :=
  Number.roundRatioToInt (if b < 0 then -a else a) b.natAbs

end Authorization.Time

/-!
## Instants

A calendar time with microseconds and, where known, its distance from universal time. Times are
written in the extended ISO 8601 format. Dates run from year 1 to year 9999 of the Gregorian calendar,
carried back before its introduction.
-/

namespace Authorization.Time

/-- A local time as microseconds since the start of year 1, and the offset of local time from
universal time in microseconds. -/
structure Instant where
  micros : Int
  offset : Option Int
deriving DecidableEq, Repr

/-- A calendar date and a time of day. -/
structure Calendar where
  year : Nat
  month : Nat
  day : Nat
  hour : Nat
  minute : Nat
  second : Nat
  micro : Nat
deriving DecidableEq, Repr

def isLeap (year : Nat) : Bool :=
  year % 4 = 0 && (year % 100 != 0 || year % 400 = 0)

def daysInMonth (year month : Nat) : Nat :=
  if month = 2 then (if isLeap year then 29 else 28)
  else if month = 4 ∨ month = 6 ∨ month = 9 ∨ month = 11 then 30
  else 31

/-- Days before the first of January of a year. -/
def daysBeforeYear (year : Nat) : Nat :=
  let past := year - 1
  past * 365 + past / 4 - past / 100 + past / 400

/-- Days of a year before the first of a month. -/
def daysBeforeMonth (year month : Nat) : Nat :=
  (List.range (month - 1)).foldl (fun days m => days + daysInMonth year (m + 1)) 0

/-- Days from the start of year 1 to the end of year 9999. -/
def lastDay : Nat := daysBeforeYear 10000

/-- The days from the start of year 1 to a date, when there is such a date. -/
def dayOf? (year month day : Nat) : Option Nat :=
  if 1 ≤ year ∧ year ≤ 9999 ∧ 1 ≤ month ∧ month ≤ 12 ∧ 1 ≤ day ∧ day ≤ daysInMonth year month then
    some (daysBeforeYear year + daysBeforeMonth year month + (day - 1))
  else none

namespace Instant

/-- The instant of a time of day on a day, counted from the start of year 1, when all is in range. -/
def ofDay? (day hour minute second micro : Nat) (offset : Option Int) : Option Instant :=
  if day < lastDay ∧ hour < 24 ∧ minute < 60 ∧ second < 60 ∧ micro < 1000000 then
    let seconds := day * 86400 + hour * 3600 + minute * 60 + second
    some ⟨seconds * microsPerSecond + micro, offset⟩
  else none

/-- The first instant of all. -/
def first : Instant := ⟨0, none⟩

/-- The last instant of all. -/
def last : Instant := ⟨lastDay * microsPerDay - 1, none⟩

private def yearOf (day : Nat) : Nat :=
  let guess := day / 366 + 1
  ((List.range 30).map (guess + ·)).foldl
    (fun found year => if daysBeforeYear year ≤ day then year else found) guess

private def monthOf (year dayOfYear : Nat) : Nat :=
  (List.range 12).foldl
    (fun found m => if daysBeforeMonth year (m + 1) ≤ dayOfYear then m + 1 else found) 1

/-- The calendar time of an instant. -/
def calendar (t : Instant) : Calendar :=
  let micros := t.micros.toNat
  let day := micros / 86400000000
  let rest := micros % 86400000000
  let year := yearOf day
  let dayOfYear := day - daysBeforeYear year
  let month := monthOf year dayOfYear
  { year, month, day := dayOfYear - daysBeforeMonth year month + 1
    hour := rest / 3600000000
    minute := rest / 60000000 % 60
    second := rest / 1000000 % 60
    micro := rest % 1000000 }

/-- Microseconds of universal time, for an instant that knows its offset. -/
def universal? (t : Instant) : Option Int :=
  t.offset.map fun offset => t.micros - offset

/-- The duration from one instant to another; nothing when only one of them knows its offset. -/
def since? (later earlier : Instant) : Option Duration :=
  match later.universal?, earlier.universal? with
  | some x, some y => some ⟨x - y⟩
  | none, none => some ⟨later.micros - earlier.micros⟩
  | _, _ => none

/-- The instant after a number of microseconds, inside the range of dates. -/
def addMicros? (t : Instant) (micros : Int) : Option Instant :=
  let moved := t.micros + micros
  if 0 ≤ moved ∧ moved < lastDay * microsPerDay then some { t with micros := moved } else none

private def padded (width n : Nat) : String :=
  let digits := Number.intText n
  String.ofList (List.replicate (width - digits.length) '0') ++ digits

/-- The text of a distance from universal time. -/
def offsetText (offset : Int) : String :=
  let magnitude := offset.natAbs
  let seconds := magnitude / 1000000
  let micro := magnitude % 1000000
  (if offset < 0 then "-" else "+") ++ padded 2 (seconds / 3600) ++ ":" ++
    padded 2 (seconds / 60 % 60) ++
    (if seconds % 60 = 0 ∧ micro = 0 then "" else ":" ++ padded 2 (seconds % 60)) ++
    (if micro = 0 then "" else "." ++ padded 6 micro)

/-- Writes an instant with a mark between date and time. Microseconds appear when there are any. -/
def text (mark : String) (t : Instant) : String :=
  let c := t.calendar
  padded 4 c.year ++ "-" ++ padded 2 c.month ++ "-" ++ padded 2 c.day ++ mark ++
    padded 2 c.hour ++ ":" ++ padded 2 c.minute ++ ":" ++ padded 2 c.second ++
    (if c.micro = 0 then "" else "." ++ padded 6 c.micro) ++
    (t.offset.map offsetText).getD ""

/-- The ISO 8601 text of an instant. -/
def iso (t : Instant) : String :=
  t.text "T"

end Instant

/-- Microseconds of a duration given in whole seconds. -/
def microsOfWhole (seconds : Int) : Int :=
  seconds * microsPerSecond

/-- Microseconds of a duration given in seconds as a finite double: whole seconds exactly, the
fraction rounded to a microsecond, a half going to the even neighbour of the whole. -/
def microsOfFloat? (seconds : Float) : Option Int :=
  (Number.truncate? seconds).bind fun whole =>
    let fraction := Number.truncatedRemainder seconds 1.0
    (Number.exactRatio? (fraction * 1000000.0)).map fun ratio =>
      Number.roundRatioToInt (whole * microsPerSecond * ratio.2 + ratio.1) ratio.2

end Authorization.Time
