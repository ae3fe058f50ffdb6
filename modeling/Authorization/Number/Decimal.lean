import Authorization.Number.Binary

/-!
# Decimals of doubles

A double is written with as few digits as tell it apart, or with a chosen number of them.
-/

/-!
## Shortest decimals

A double is written with the fewest digits that read back to it, and of those decimals with the
nearest. Exponents from `-4` to `15` are written positionally, all others with a marked exponent of
at least two digits; a whole number keeps `.0`.
-/

namespace Authorization.Number

/-- The decimal `0.d₁d₂… * 10 ^ point`. -/
structure Decimal where
  digits : List Nat
  point : Int
deriving DecidableEq, Repr

/-- The digits of a natural number, most significant first. -/
def digitsOf (n : Nat) : List Nat :=
  (Nat.toDigits 10 n).map fun c => c.toNat - 48

/-- The interval of reals that round to a double, in quarters of its last place: the lower and
upper bound around `4 * mantissa`, and whether the bounds themselves belong to it. -/
private def roundingInterval (mantissa : Nat) (exponent : Int) : Nat × Nat × Bool :=
  let below := if mantissa = Nat.pow 2 52 ∧ exponent > -1074 then 1 else 2
  (4 * mantissa - below, 4 * mantissa + 2, mantissa % 2 = 0)

/-- The exponent `k` with `10 ^ (k - 1) ≤ numerator / denominator < 10 ^ k`, searched from a
guess by counted steps. -/
private def decimalMagnitude (numerator denominator : Nat) : Nat → Int → Int
  | 0, k => k
  | steps + 1, k =>
    if numerator * Nat.pow 10 (-k).toNat ≥ denominator * Nat.pow 10 k.toNat then
      decimalMagnitude numerator denominator steps (k + 1)
    else if numerator * Nat.pow 10 (1 - k).toNat < denominator * Nat.pow 10 (k - 1).toNat then
      decimalMagnitude numerator denominator steps (k - 1)
    else
      k

/-- The exponent `k` with `10 ^ (k - 1) ≤ numerator / denominator < 10 ^ k`, for the positive value of a
double. -/
def decimalPoint (numerator denominator : Nat) : Int :=
  decimalMagnitude numerator denominator 8
    (binaryMagnitude numerator denominator * 30103 / 100000 + 1)

/-- The decimal with a given number of digits that lies in the interval and is nearest to the
value, if there is one. Everything is scaled to `numerator / denominator` quarters. -/
def decimalWith? (mantissa : Nat) (exponent : Int) (magnitude : Int) (places : Nat) :
    Option Decimal :=
  let bounds := roundingInterval mantissa exponent
  let unit := magnitude - places
  -- one quarter of the last place is `quarterUp / quarterDown` grid units
  let shift := exponent - 2
  let quarterUp := Nat.pow 2 shift.toNat * Nat.pow 10 (-unit).toNat
  let quarterDown := Nat.pow 2 (-shift).toNat * Nat.pow 10 unit.toNat
  let value := 4 * mantissa * quarterUp
  let lower := bounds.1 * quarterUp
  let upper := bounds.2.1 * quarterUp
  let inside (n : Nat) : Bool :=
    if bounds.2.2 then lower ≤ n * quarterDown && n * quarterDown ≤ upper
    else lower < n * quarterDown && n * quarterDown < upper
  let floor := value / quarterDown
  let distanceDown := value - floor * quarterDown
  let distanceUp := (floor + 1) * quarterDown - value
  let nearest :=
    if distanceDown < distanceUp then floor
    else if distanceDown > distanceUp then floor + 1
    else if floor % 2 = 0 then floor
    else floor + 1
  let other := if nearest = floor then floor + 1 else floor
  let chosen := if inside nearest then some nearest else if inside other then some other else none
  chosen.map fun n =>
    let digits := digitsOf n
    ⟨digits, unit + digits.length⟩

/-- The shortest decimal of a positive double. Seventeen digits always suffice. -/
def shortestDecimal (mantissa : Nat) (exponent : Int) : Decimal :=
  let numerator := mantissa * Nat.pow 2 exponent.toNat
  let denominator := Nat.pow 2 (-exponent).toNat
  let magnitude := decimalPoint numerator denominator
  ((List.range 17).findSome? fun n => decimalWith? mantissa exponent magnitude (n + 1)).getD
    ⟨digitsOf mantissa, 0⟩

/-- The digits without the zeros at their end. -/
def dropTrailingZeros (digits : List Nat) : List Nat :=
  (digits.reverse.dropWhile (· == 0)).reverse

/-- The text of some digits. -/
def digitText (digits : List Nat) : String :=
  String.ofList (digits.map fun d => Char.ofNat (48 + d))

/-- An exponent after its mark, with a sign and at least two digits. -/
def exponentText (exponent : Int) : String :=
  let magnitude := digitText (digitsOf exponent.natAbs)
  let padded := if magnitude.length < 2 then "0" ++ magnitude else magnitude
  "e" ++ (if exponent < 0 then "-" else "+") ++ padded

/-- The digits of a decimal that are written: at least one, and no zeros at their end. -/
def Decimal.significant (decimal : Decimal) : List Nat :=
  match dropTrailingZeros decimal.digits with
  | [] => [0]
  | kept => kept

/-- Writes a decimal: positionally when the point lies from three zeros before the digits up to
sixteen places into them, with an exponent otherwise. -/
def Decimal.text (decimal : Decimal) : String :=
  let digits := decimal.significant
  let count : Int := digits.length
  if -4 < decimal.point ∧ decimal.point ≤ 16 then
    if decimal.point ≤ 0 then
      "0." ++ digitText (List.replicate (-decimal.point).toNat 0) ++ digitText digits
    else if decimal.point ≥ count then
      digitText digits ++ digitText (List.replicate (decimal.point - count).toNat 0) ++ ".0"
    else
      digitText (digits.take decimal.point.toNat) ++ "." ++
        digitText (digits.drop decimal.point.toNat)
  else
    match digits with
    | [] => ""
    | [first] => digitText [first] ++ exponentText (decimal.point - 1)
    | first :: rest => digitText [first] ++ "." ++ digitText rest ++ exponentText (decimal.point - 1)

/-- The text of a double. -/
def floatText (x : Float) : String :=
  match Binary.ofFloat x with
  | .undefined => "nan"
  | .infinite negative => if negative then "-inf" else "inf"
  | .finite negative mantissa exponent =>
    let magnitude := if mantissa = 0 then "0.0" else (shortestDecimal mantissa exponent).text
    if negative then "-" ++ magnitude else magnitude

/-- The text of an integer. -/
def intText (n : Int) : String :=
  let magnitude := digitText (digitsOf n.natAbs)
  if n < 0 then "-" ++ magnitude else magnitude

end Authorization.Number

/-!
## Decimals of a chosen length

A double with a chosen number of digits, rounded from its exact value, a half going to the even digit.
The digits stand with an exponent, or positionally with so many places after the point, or in the one
of these two forms that is the shorter for a number of significant digits.
-/

namespace Authorization.Number

/-- A form in which a double is written with a chosen number of digits. -/
inductive Form where
  | exponential | positional | general
deriving DecidableEq, Repr

/-- The digits of a decimal before and after its point, and its exponent if one is written. -/
private structure Layout where
  whole : List Nat
  fraction : List Nat
  exponent : Option Int

/-- The decimal of a number of digits that is nearest to a quotient. -/
private def roundedDecimal (numerator denominator count : Nat) : Decimal :=
  if numerator = 0 then ⟨List.replicate count 0, 1⟩
  else
    let point := decimalPoint numerator denominator
    let unit := point - count
    let digits := digitsOf <|
      roundQuotient (numerator * Nat.pow 10 (-unit).toNat) (denominator * Nat.pow 10 unit.toNat)
    if digits.length > count then ⟨digits.take count, point + 1⟩ else ⟨digits, point⟩

private def exponential (digits : List Nat) (exponent : Int) : Layout :=
  ⟨digits.take 1, digits.drop 1, some exponent⟩

private def positional (numerator denominator places : Nat) : Layout :=
  let digits := digitsOf (roundQuotient (numerator * Nat.pow 10 places) denominator)
  let padded := List.replicate (places + 1 - digits.length) 0 ++ digits
  ⟨padded.take (padded.length - places), padded.drop (padded.length - places), none⟩

private def general (full : Bool) (decimal : Decimal) : Layout :=
  let count : Int := decimal.digits.length
  let kept := if full then decimal.digits else dropTrailingZeros decimal.digits
  let point := decimal.point.toNat
  if -4 < decimal.point ∧ decimal.point ≤ count then
    if point = 0 then ⟨[0], List.replicate (-decimal.point).toNat 0 ++ kept, none⟩
    else ⟨decimal.digits.take point, kept.drop point, none⟩
  else exponential kept (decimal.point - 1)

private def layout (form : Form) (places : Nat) (full : Bool) (numerator denominator : Nat) :
    Layout :=
  match form with
  | .exponential =>
    let decimal := roundedDecimal numerator denominator (places + 1)
    exponential decimal.digits (decimal.point - 1)
  | .positional => positional numerator denominator places
  | .general => general full (roundedDecimal numerator denominator (max places 1))

/-- More places than the exact value of a double has; all digits beyond them are zeros. -/
private def maxPlaces : Nat := 1100

/-- A double in a form, with a number of places after the point or, in the general form, of significant
digits. Trailing zeros of the general form, and a point without places, are kept only if the text is to
be full. -/
def formText (form : Form) (places : Nat) (full : Bool) (x : Float) : String :=
  match Binary.ofFloat x with
  | .undefined => "nan"
  | .infinite negative => if negative then "-inf" else "inf"
  | .finite negative mantissa exponent =>
    let parts := layout form (min places maxPlaces) full
      (mantissa * Nat.pow 2 exponent.toNat) (Nat.pow 2 (-exponent).toNat)
    let zeros := if full || form != .general then places - maxPlaces else 0
    let fraction := parts.fraction ++ List.replicate zeros 0
    (if negative then "-" else "") ++ digitText parts.whole ++
      (if fraction.isEmpty && !full then "" else ".") ++ digitText fraction ++
      (parts.exponent.map exponentText).getD ""

end Authorization.Number
