import Authorization.Number.Binary
import Authorization.Text.Basic
import Authorization.Text.Digit

/-!
# Reading numbers

Two grammars. A whole number is a sign and digits of a base from two to thirty-six, with single
underscores between digits and an optional base mark. A decimal fraction has an optional point and
exponent, or is one of the words for infinity and undefined. White space around a number and the
decimal digits of every script are accepted.
-/

namespace Authorization.Number

open Authorization.Text

/-- The most digits a whole number may be read from or written with in a base that is no power of
two. -/
def maxDecimalDigits : Nat := 4300

/-- White space around a number: as everywhere, less the four information separators. -/
def isPadding (c : Char) : Bool :=
  isBlank c && !(0x1C ≤ c.toNat && c.toNat ≤ 0x1F)

/-- Replaces the decimal digits of other scripts by the plain ones. -/
def plainDigit (c : Char) : Char :=
  if c.toNat < 128 then c
  else match decimalValue? c with
    | some value => Char.ofNat (48 + value)
    | none => c

def core (text : String) : List Char :=
  (trimBoth isPadding text.toList).map plainDigit

/-- Splits off a leading sign. -/
def takeSign : List Char → Bool × List Char
  | '-' :: rest => (true, rest)
  | '+' :: rest => (false, rest)
  | rest => (false, rest)

/-- The value of a letter or digit as a digit of a large base. -/
def digitValue? (c : Char) : Option Nat :=
  if '0' ≤ c ∧ c ≤ '9' then some (c.toNat - 48)
  else if 'a' ≤ c ∧ c ≤ 'z' then some (c.toNat - 87)
  else if 'A' ≤ c ∧ c ≤ 'Z' then some (c.toNat - 55)
  else none

/-- Reads digits of a base with single underscores between them. Returns their number and value.
`afterDigit` tells whether the last character was a digit. -/
def readDigits? (base : Nat) : (afterDigit : Bool) → (count value : Nat) → List Char →
    Option (Nat × Nat)
  | true, count, value, [] => some (count, value)
  | false, _, _, [] => none
  | afterDigit, count, value, c :: rest =>
    if c = '_' then
      if afterDigit then readDigits? base false count value rest else none
    else
      match digitValue? c with
      | some digit =>
        if digit < base then readDigits? base true (count + 1) (value * base + digit) rest
        else none
      | none => none

def baseOfMark? (c : Char) : Option Nat :=
  if c = 'x' ∨ c = 'X' then some 16
  else if c = 'o' ∨ c = 'O' then some 8
  else if c = 'b' ∨ c = 'B' then some 2
  else none

/-- Splits a base mark such as `0x` from the digits. With base zero the mark chooses the base, and
unmarked digits are decimal; such a number with a leading zero has to be zero, which the last
component says. -/
def takeBase (base : Nat) (text : List Char) : Nat × List Char × Bool :=
  match text with
  | '0' :: mark :: rest =>
    match baseOfMark? mark with
    | some marked =>
      if base = marked ∨ base = 0 then
        (marked, (match rest with | '_' :: more => more | _ => rest), false)
      else (if base = 0 then 10 else base, text, false)
    | none => (if base = 0 then 10 else base, text, base = 0)
  | _ => (if base = 0 then 10 else base, text, false)

def isPowerOfTwo (base : Nat) : Bool :=
  base = 2 || base = 4 || base = 8 || base = 16 || base = 32

/-- Reads a whole number in a base; base zero lets a mark choose. -/
def readInt? (base : Nat) (text : String) : Option Int :=
  let (negative, unsigned) := takeSign (core text)
  let (chosen, digits, mustBeZero) := takeBase base unsigned
  match readDigits? chosen false 0 0 digits with
  | none => none
  | some (count, value) =>
    if mustBeZero ∧ value ≠ 0 then none
    else if count > maxDecimalDigits ∧ !isPowerOfTwo chosen then none
    else some (if negative then -value else value)

/-- Removes underscores that stand between two digits; any other underscore is refused. -/
private def dropUnderscores? (afterDigit : Bool) : List Char → Option (List Char)
  | [] => some []
  | '_' :: c :: rest =>
    if afterDigit ∧ '0' ≤ c ∧ c ≤ '9' then
      (dropUnderscores? true rest).map (c :: ·)
    else none
  | c :: rest =>
    if c = '_' then none
    else (dropUnderscores? ('0' ≤ c ∧ c ≤ '9') rest).map (c :: ·)

private def isPlainDigit (c : Char) : Bool :=
  '0' ≤ c && c ≤ '9'

private def valueOf (digits : List Char) : Nat :=
  digits.foldl (fun value c => value * 10 + (c.toNat - 48)) 0

/-- The double nearest to `± mantissa * 10 ^ exponent`; beyond the greatest double, infinity.
`places` bounds the number of digits of the mantissa. -/
def scientific (negative : Bool) (mantissa places : Nat) (exponent : Int) : Float :=
  let infinite : Float := if negative then -(1.0 / 0.0) else 1.0 / 0.0
  if mantissa = 0 then (roundRatio negative 0 1).getD 0
  else if exponent > 400 then infinite
  else if exponent + places < -400 then (roundRatio negative 0 1).getD 0
  else
    (roundRatio negative (mantissa * Nat.pow 10 exponent.toNat) (Nat.pow 10 (-exponent).toNat)).getD infinite

/-- Reads digits, an optional fraction and an optional exponent. -/
def readDecimal? (negative : Bool) (text : List Char) : Option Float :=
  let whole := text.takeWhile isPlainDigit
  let afterWhole := text.dropWhile isPlainDigit
  let (fraction, afterFraction) := match afterWhole with
    | '.' :: rest => (rest.takeWhile isPlainDigit, rest.dropWhile isPlainDigit)
    | rest => ([], rest)
  if whole.isEmpty ∧ fraction.isEmpty then none
  else
    let digits := whole ++ fraction
    let mantissa := valueOf digits
    let finish (exponent : Int) : Option Float :=
      some (scientific negative mantissa digits.length (exponent - fraction.length))
    match afterFraction with
    | [] => finish 0
    | mark :: rest =>
      if mark = 'e' ∨ mark = 'E' then
        let (negativeExponent, exponentDigits) := takeSign rest
        if exponentDigits.isEmpty ∨ !exponentDigits.all isPlainDigit then none
        else
          let size : Int := valueOf exponentDigits
          finish (if negativeExponent then -size else size)
      else none

/-- Reads a double. -/
def readFloat? (text : String) : Option Float :=
  let (negative, unsigned) := takeSign (core text)
  let word := unsigned.map Char.toLower
  if word = "inf".toList ∨ word = "infinity".toList then
    some (if negative then -(1.0 / 0.0) else 1.0 / 0.0)
  else if word = "nan".toList then
    some (0.0 / 0.0)
  else
    (dropUnderscores? false unsigned).bind (readDecimal? negative)

end Authorization.Number
