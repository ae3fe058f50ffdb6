import Authorization.Error.Basic
import Authorization.Number.Binary

/-!
# Arithmetic on times

Instants are moved by durations, and the difference of two instants is a duration. Durations are added,
multiplied and divided; what does not come to whole microseconds is rounded to the nearest one, a half
going to the even neighbour. An operation says nothing about operands that it is not for.
-/

namespace Authorization.Value

def spanOf (micros : Int) : Except Error Value :=
  match Time.Duration.ofMicros? micros with
  | some span => .ok (.duration span)
  | none => fault .overflow "the duration is too long"

def movedBy (time : Time.Instant) (micros : Int) : Except Error Value :=
  match time.addMicros? micros with
  | some moved => .ok (.instant moved)
  | none => fault .overflow "date value out of range"

def noDivisor {α : Type} : Except Error α :=
  fault .zeroDivision "integer division or modulo by zero"

/-- A double as a quotient of integers. -/
def ratioOf (x : Float) : Except Error (Int × Int) :=
  match Number.exactRatio? x with
  | some ratio => .ok (ratio.1, ratio.2)
  | none =>
    if x.isNaN then fault .value "cannot convert NaN to integer ratio"
    else fault .overflow "cannot convert Infinity to integer ratio"

def roundedSpan (numerator denominator : Int) : Except Error Value :=
  if denominator = 0 then noDivisor else spanOf (Time.nearestQuotient numerator denominator)

/-- The sum of times. -/
def addTimes? : Value → Value → Option (Except Error Value)
  | .instant time, .duration span | .duration span, .instant time => some (movedBy time span.micros)
  | .duration a, .duration b => some (spanOf (a.micros + b.micros))
  | _, _ => none

/-- The difference of times. -/
def subtractTimes? : Value → Value → Option (Except Error Value)
  | .instant a, .instant b => some <|
    match a.since? b with
    | some span => .ok (.duration span)
    | none => fault .type "can't subtract offset-naive and offset-aware datetimes"
  | .instant time, .duration span => some (movedBy time (-span.micros))
  | .duration a, .duration b => some (spanOf (a.micros - b.micros))
  | _, _ => none

def multipleOf (span : Time.Duration) (factor : Value) : Option (Except Error Value) :=
  match factor with
  | .float x => some do
    let (numerator, denominator) ← ratioOf x
    roundedSpan (span.micros * numerator) denominator
  | _ => factor.asInt?.map fun n => spanOf (span.micros * n)

/-- A duration as often as a number says. -/
def multiplyTimes? : Value → Value → Option (Except Error Value)
  | .duration span, factor | factor, .duration span => multipleOf span factor
  | _, _ => none

/-- The quotient of two durations, or a part of one. -/
def divideTimes? : Value → Value → Option (Except Error Value)
  | .duration a, .duration b => some <|
    if b.micros = 0 then noDivisor
    else match Number.divideInts a.micros b.micros with
      | some x => .ok (.float x)
      | none => fault .overflow "integer division result too large for a float"
  | .duration a, .float x => some do
    let (numerator, denominator) ← ratioOf x
    roundedSpan (a.micros * denominator) numerator
  | .duration a, divisor => divisor.asInt?.map fun n => roundedSpan a.micros n
  | _, _ => none

/-- The quotient of two durations, or a part of one, rounded down. -/
def floorDivideTimes? : Value → Value → Option (Except Error Value)
  | .duration a, .duration b => some <|
    if b.micros = 0 then noDivisor else .ok (.int (a.micros.fdiv b.micros))
  | .duration a, divisor => divisor.asInt?.map fun n =>
    if n = 0 then noDivisor else spanOf (a.micros.fdiv n)
  | _, _ => none

/-- What a whole number of durations leaves of another. -/
def moduloTimes? : Value → Value → Option (Except Error Value)
  | .duration a, .duration b => some <|
    if b.micros = 0 then noDivisor else spanOf (a.micros.fmod b.micros)
  | _, _ => none

/-- The duration in the other direction. -/
def negateTime? : Value → Option (Except Error Value)
  | .duration span => some (spanOf (-span.micros))
  | _ => none

/-- The duration forwards. -/
def magnitudeOfTime? : Value → Option (Except Error Value)
  | .duration span => some (spanOf span.micros.natAbs)
  | _ => none

end Authorization.Value
