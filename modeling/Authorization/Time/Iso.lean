import Authorization.Time.Instant

/-!
# Reading ISO 8601

A date is a calendar date or a week of a year with a weekday, each with hyphens or without. After one
character of any kind a time of day may follow, of two, four or six digits with colons or without, and a
fraction after a point or a comma; and after it the distance from universal time, written alike. The
text is read as octets. Where a date ends is decided by its first characters alone. What is read
before an offset may be followed by one character that is not looked at, and so may the whole text by
an octet zero.
-/

namespace Authorization.Time.Iso

/-- A text as octets; behind its end there are zeros. -/
private structure Source where
  octets : Array UInt8

private def Source.get (source : Source) (place : Nat) : Char :=
  Char.ofNat ((source.octets[place]?).getD 0).toNat

private def isDigit (c : Char) : Bool :=
  '0' ≤ c && c ≤ '9'

/-- The number that the digits at a place stand for. -/
private def Source.number? (source : Source) (place : Nat) (count : Nat) : Option Nat :=
  (List.range count).foldlM
    (fun value i =>
      let c := source.get (place + i)
      if isDigit c then some (value * 10 + (c.toNat - 48)) else none) 0

private def Source.skipDigits (source : Source) : (steps place : Nat) → Nat
  | 0, place => place
  | steps + 1, place =>
    if isDigit (source.get place) then source.skipDigits steps (place + 1) else place

/-! ## Dates -/

/-- The place at which the date of a text of some length ends. -/
private def Source.dateEnd (source : Source) (length : Nat) : Nat :=
  if length = 7 then 7
  else if source.get 4 = '-' then
    if source.get 5 = 'W' then
      if length > 8 ∧ source.get 8 = '-' then
        if length > 10 ∧ isDigit (source.get 10) then 8 else 10
      else 8
    else 10
  else if source.get 4 = 'W' then
    let place := source.skipDigits length 7
    if place < 9 then place else if place % 2 = 0 then 7 else 8
  else 8

/-- The weekday of the first of January, Monday being zero. -/
private def firstWeekday (year : Nat) : Nat :=
  daysBeforeYear year % 7

/-- A year has a fifty-third week when it begins on a Thursday, or on a Wednesday and is a leap year. -/
private def hasLongWeeks (year : Nat) : Bool :=
  firstWeekday year = 3 || (firstWeekday year = 2 && isLeap year)

/-- The day of a weekday of a week. The first week of a year is the one with its first Thursday. -/
private def dayOfWeek? (year week weekday : Nat) : Option Nat :=
  if 1 ≤ year ∧ year ≤ 9999 ∧ 1 ≤ week ∧ (week ≤ 52 ∨ (week = 53 ∧ hasLongWeeks year)) ∧
      1 ≤ weekday ∧ weekday ≤ 7 then
    let toMonday := if firstWeekday year ≤ 3 then 0 else 7
    some (daysBeforeYear year + toMonday + (week - 1) * 7 + (weekday - 1) - firstWeekday year)
  else none

/-- The day of the date at the start of a text, which ends at a place. -/
private def Source.day? (source : Source) (ending : Nat) : Option Nat := do
  let year ← source.number? 0 4
  let isSpaced := source.get 4 = '-'
  let start := if isSpaced then 5 else 4
  let gap := if isSpaced then 1 else 0
  if source.get start = 'W' then
    let week ← source.number? (start + 1) 2
    if start + 3 < ending then
      guard (!isSpaced || source.get (start + 3) = '-')
      dayOfWeek? year week (← source.number? (start + 3 + gap) 1)
    else dayOfWeek? year week 1
  else
    let month ← source.number? start 2
    guard (!isSpaced || source.get (start + 2) = '-')
    dayOf? year month (← source.number? (start + 2 + gap) 2)

/-! ## Times of day -/

/-- A time of day, and whether something is left behind it. -/
private structure Clock where
  hour : Nat := 0
  minute : Nat := 0
  second : Nat := 0
  micro : Nat := 0
  hasRest : Bool := false

/-- The fraction of a second from a place on. Digits beyond the sixth are passed over. -/
private def Source.fraction? (source : Source) (place ending : Nat) (clock : Clock) :
    Option Clock := do
  let count := min 6 (ending - place)
  let value ← source.number? place count
  let rest := source.skipDigits source.octets.size (place + count)
  return { clock with micro := value * Nat.pow 10 (6 - count), hasRest := source.get rest ≠ '\x00' }

/-- The parts of a time of day from a place on: hours, minutes and seconds are set in turn. -/
private def Source.clock? (source : Source) (ending : Nat) :
    (parts : List (Nat → Clock → Clock)) → (hasColons? : Option Bool) → (place : Nat) → Clock →
      Option Clock
  | [], _, place, clock => source.fraction? place ending clock
  | set :: parts, hasColons?, place, clock => do
    let clock := set (← source.number? place 2) clock
    let mark := source.get (place + 2)
    let hasColons := hasColons?.getD (mark = ':')
    if place + 3 ≥ ending then return { clock with hasRest := mark ≠ '\x00' }
    else if hasColons ∧ mark = ':' then source.clock? ending parts (some hasColons) (place + 3) clock
    else if mark = '.' ∨ mark = ',' then source.fraction? (place + 3) ending clock
    else if hasColons then none
    else source.clock? ending parts (some hasColons) (place + 2) clock

private def Source.time? (source : Source) (start ending : Nat) : Option Clock :=
  source.clock? ending
    [fun n clock => { clock with hour := n }, fun n clock => { clock with minute := n },
     fun n clock => { clock with second := n }] none start {}

/-- The place of the mark that begins an offset, or the end of the text. -/
private def Source.offsetStart (source : Source) (length : Nat) : (steps place : Nat) → Nat
  | 0, place => place
  | steps + 1, place =>
    let c := source.get place
    if c = '+' ∨ c = '-' ∨ c = 'Z' then place
    else if place + 1 < length then source.offsetStart length steps (place + 1)
    else length

/-- The microseconds of an offset. One of less than a second counts as none. -/
private def offsetOf (isNegative : Bool) (clock : Clock) : Int :=
  let seconds : Int := (clock.hour * 3600 + clock.minute * 60 + clock.second : Nat)
  let magnitude := if seconds = 0 then 0 else seconds * microsPerSecond + clock.micro
  if isNegative then -magnitude else magnitude

/-- A distance from universal time is less than a day. -/
private def isOffset (micros : Int) : Bool :=
  -microsPerDay < micros && micros < microsPerDay

/-- A time of day and its offset, from a place up to the end of a text. -/
private def Source.timeWithOffset? (source : Source) (start length : Nat) :
    Option (Clock × Option Int) := do
  let mark := source.offsetStart length length start
  let clock ← source.time? start mark
  if mark = length then
    guard (!clock.hasRest)
    return (clock, none)
  else if source.get mark = 'Z' then
    guard (source.get (mark + 1) = '\x00')
    return (clock, some 0)
  else
    let distance ← source.time? (mark + 1) length
    guard (!distance.hasRest)
    let offset := offsetOf (source.get mark = '-') distance
    guard (isOffset offset)
    return (clock, some offset)

/-- The number of octets of the character that begins with one. -/
private def width (c : Char) : Nat :=
  if c.toNat < 0x80 then 1
  else if c.toNat / 16 = 0xE then 3
  else if c.toNat / 16 = 0xF then 4
  else 2

end Iso

open Iso in
/-- Reads an instant. -/
def Instant.ofIso? (text : String) : Option Instant := do
  guard (text.length ≥ 7)
  let source : Source := ⟨text.toUTF8.data⟩
  let length := source.octets.size
  let ending := source.dateEnd length
  let day ← source.day? ending
  if length > ending then
    let (clock, offset) ← source.timeWithOffset? (ending + width (source.get ending)) length
    Instant.ofDay? day clock.hour clock.minute clock.second clock.micro offset
  else Instant.ofDay? day 0 0 0 0 none

end Authorization.Time
