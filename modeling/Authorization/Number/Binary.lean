/-!
# Doubles

The exact values of doubles, and arithmetic on doubles by their exact values.
-/

/-!
## Binary fractions

The exact value of a double: a sign and `mantissa * 2 ^ exponent`, an infinity, or no number.
In the other direction `roundRatio` finds the double nearest to a quotient of two integers, a half
going to the even neighbour. All exact arithmetic on doubles goes through these two.
-/

namespace Authorization.Number

/-- What the bits of a double stand for. -/
inductive Binary where
  | finite (negative : Bool) (mantissa : Nat) (exponent : Int)
  | infinite (negative : Bool)
  | undefined
deriving DecidableEq, Repr

namespace Binary

/-- Decodes the three fields of a double: sign, eleven exponent bits, fifty-two fraction bits. -/
def ofFloat (x : Float) : Binary :=
  let bits : Nat := x.toBits.toNat
  let negative : Bool := bits ≥ Nat.pow 2 63
  let field : Nat := bits / Nat.pow 2 52 % Nat.pow 2 11
  let fraction : Nat := bits % Nat.pow 2 52
  if field = 2047 then
    if fraction = 0 then .infinite negative else .undefined
  else if field = 0 then
    .finite negative fraction (-1074)
  else
    .finite negative (fraction + Nat.pow 2 52) ((field : Int) - 1075)

end Binary

/-- The greatest `e` with `2 ^ e ≤ numerator / denominator`, for a positive quotient. -/
def binaryMagnitude (numerator denominator : Nat) : Int :=
  let guess : Int := (numerator.log2 : Int) - denominator.log2
  let scaledLeft := numerator * Nat.pow 2 (-guess).toNat
  let scaledRight := denominator * Nat.pow 2 guess.toNat
  if scaledLeft < scaledRight then guess - 1 else guess

/-- The quotient rounded to an integer, a half going to the even neighbour. -/
def roundQuotient (numerator denominator : Nat) : Nat :=
  let quotient := numerator / denominator
  let twice := 2 * (numerator % denominator)
  if twice < denominator then quotient
  else if twice > denominator then quotient + 1
  else if quotient % 2 = 0 then quotient
  else quotient + 1

/-- The quotient of integers rounded to an integer, a half going to the even neighbour. -/
def roundRatioToInt (numerator : Int) (denominator : Nat) : Int :=
  let magnitude := roundQuotient numerator.natAbs denominator
  if numerator < 0 then -magnitude else magnitude

def signed (negative : Bool) (bits : Nat) : Float :=
  Float.ofBits (UInt64.ofNat (if negative then bits + Nat.pow 2 63 else bits))

/-- The double nearest to `± numerator / denominator`, a half going to the even mantissa;
nothing when that lies beyond the greatest double. The denominator is positive. -/
def roundRatio (negative : Bool) (numerator denominator : Nat) : Option Float :=
  if numerator = 0 then
    some (signed negative 0)
  else
    let unit := max (binaryMagnitude numerator denominator - 52) (-1074)
    let mantissa := roundQuotient (numerator * Nat.pow 2 (-unit).toNat) (denominator * Nat.pow 2 unit.toNat)
    let bits := (unit + 1074).toNat * Nat.pow 2 52 + mantissa
    if bits ≥ 2047 * Nat.pow 2 52 then none else some (signed negative bits)

/-- The double nearest to an integer. -/
def roundInt (n : Int) : Option Float :=
  roundRatio (n < 0) n.natAbs 1

/-- A finite double as a quotient with a positive denominator. -/
def Binary.ratio (negative : Bool) (mantissa : Nat) (exponent : Int) : Int × Nat :=
  let magnitude : Int := (mantissa * Nat.pow 2 exponent.toNat : Nat)
  (if negative then -magnitude else magnitude, Nat.pow 2 (-exponent).toNat)

/-- The quotient that a finite double stands for. -/
def exactRatio? (x : Float) : Option (Int × Nat) :=
  match Binary.ofFloat x with
  | .finite negative mantissa exponent => some (Binary.ratio negative mantissa exponent)
  | _ => none

/-- The integer between a double and zero that is nearest to it. -/
def truncate? (x : Float) : Option Int :=
  (exactRatio? x).map fun ratio => Int.tdiv ratio.1 ratio.2

/-- The integer value of a double that has one. -/
def exactInt? (x : Float) : Option Int :=
  (exactRatio? x).bind fun ratio =>
    if ratio.1 % ratio.2 = 0 then some (ratio.1 / ratio.2) else none

/-- Compares an integer with a double exactly; nothing when the double is no number. -/
def compareIntFloat (n : Int) (x : Float) : Option Ordering :=
  match Binary.ofFloat x with
  | .undefined => none
  | .infinite negative => some (if negative then .gt else .lt)
  | .finite negative mantissa exponent =>
    let ratio := Binary.ratio negative mantissa exponent
    some (compare (n * ratio.2) ratio.1)

/-- The number of binary digits of an integer's magnitude; zero has none. -/
def bitLength (n : Int) : Nat :=
  if n = 0 then 0 else n.natAbs.log2 + 1

end Authorization.Number

/-!
## Arithmetic on doubles

Division, remainder, rounding and powers of doubles, each by its exact value where it has one.
Quotients round down, so a remainder has the sign of the divisor.
-/

namespace Authorization.Number

/-- Positive infinity. -/
def infinity : Float := 1.0 / 0.0

/-- The undefined double. -/
def undefined : Float := 0.0 / 0.0

/-- The sign bit of a double. -/
def isNegative (x : Float) : Bool :=
  x.toBits.toNat ≥ Nat.pow 2 63

/-- The magnitude of the first double with the sign of the second. -/
def withSign (magnitude sign : Float) : Float :=
  if isNegative sign then -magnitude.abs else magnitude.abs

/-- The remainder of a division that truncates toward zero; it is always exact. -/
def truncatedRemainder (x y : Float) : Float :=
  match Binary.ofFloat x, Binary.ofFloat y with
  | .finite negative mantissa exponent, .finite _ mantissa' exponent' =>
    if mantissa' = 0 then undefined
    else
      let unit := min exponent exponent'
      let remainder :=
        (mantissa * Nat.pow 2 (exponent - unit).toNat) % (mantissa' * Nat.pow 2 (exponent' - unit).toNat)
      (roundRatio negative (remainder * Nat.pow 2 unit.toNat) (Nat.pow 2 (-unit).toNat)).getD undefined
  | .finite .., .infinite _ => x
  | _, _ => undefined

/-- Quotient and remainder of a division that rounds down, for a divisor other than zero. -/
def floorDivide (x y : Float) : Float × Float :=
  let truncated := truncatedRemainder x y
  let quotient := (x - truncated) / y
  let (remainder, quotient) :=
    if truncated != 0.0 then
      if (y < 0.0) != (truncated < 0.0) then (truncated + y, quotient - 1.0)
      else (truncated, quotient)
    else (withSign 0.0 y, quotient)
  let whole :=
    if quotient != 0.0 then
      let floor := quotient.floor
      if quotient - floor > 0.5 then floor + 1.0 else floor
    else withSign 0.0 (x / y)
  (whole, remainder)

/-- The quotient of two integers as a double; nothing when it is too great. The divisor is not
zero. -/
def divideInts (a b : Int) : Option Float :=
  roundRatio ((a < 0) != (b < 0)) a.natAbs b.natAbs

/-- A double rounded to an integer, a half going to the even neighbour. -/
def roundToInt? (x : Float) : Option Int :=
  (exactRatio? x).map fun ratio => roundRatioToInt ratio.1 ratio.2

/-- An integer rounded to a multiple of `10 ^ places`, a half going to the even multiple. -/
def roundIntTo (n : Int) (places : Nat) : Int :=
  roundRatioToInt n (Nat.pow 10 places) * Nat.pow 10 places

/-- A double rounded to a number of decimal places, a half going to the even digit; nothing when
the rounded value is too great. -/
def roundTo (x : Float) (places : Int) : Option Float :=
  match Binary.ofFloat x with
  | .finite negative mantissa exponent =>
    if places > 323 then some x
    else if places < -308 then some (0.0 * x)
    else
      let numerator := mantissa * Nat.pow 2 exponent.toNat * Nat.pow 10 places.toNat
      let denominator := Nat.pow 2 (-exponent).toNat * Nat.pow 10 (-places).toNat
      let rounded := roundQuotient numerator denominator
      roundRatio negative (rounded * Nat.pow 10 (-places).toNat) (Nat.pow 10 places.toNat)
  | _ => some x

/-- A double is an odd whole number. -/
def isOddWhole (x : Float) : Bool :=
  (exactInt? x).any fun n => n % 2 = 1

/-- What a power of doubles comes to. -/
inductive Power where
  | real (value : Float)
  | zeroToNegative
  | overflow
  | complexBase
deriving Repr

private def isFinite (x : Float) : Bool :=
  x.isFinite

/-- The power of two doubles. A negative base with a fractional exponent has a complex power. -/
def power (base exponent : Float) : Power :=
  if exponent == 0.0 then .real 1.0
  else if base.isNaN then .real base
  else if exponent.isNaN then .real (if base == 1.0 then 1.0 else exponent)
  else if exponent.isInf then
    let magnitude := base.abs
    if magnitude == 1.0 then .real 1.0
    else if (exponent > 0.0) == (magnitude > 1.0) then .real infinity
    else .real 0.0
  else if base.isInf then
    let odd := isOddWhole exponent
    if exponent > 0.0 then .real (if odd then base else base.abs)
    else .real (if odd then withSign 0.0 base else 0.0)
  else if base == 0.0 then
    if exponent < 0.0 then .zeroToNegative
    else .real (if isOddWhole exponent then base else 0.0)
  else if base < 0.0 && (exactInt? exponent).isNone then .complexBase
  else if base == 1.0 then .real 1.0
  else if base == -1.0 then .real (if isOddWhole exponent then -1.0 else 1.0)
  else
    let value := Float.pow base exponent
    if isFinite value then .real value else .overflow

/-- The power of an integer to a natural exponent. -/
def intPower (base : Int) (exponent : Nat) : Int :=
  if base = 0 then (if exponent = 0 then 1 else 0)
  else if base = 1 then 1
  else if base = -1 then (if exponent % 2 = 0 then 1 else -1)
  else Int.pow base exponent

end Authorization.Number
