import Authorization.Number.Reading
import Authorization.Script.Syntax
import Authorization.Text.Basic

/-!
# Literals

Texts and numbers as a script spells them.
-/

/-!
## Escape sequences

What stands between the quotes of a text, and which characters it means. A backslash before a line
end joins lines; before a letter or digits it names a character by kind or by code point; before any
other character it stands for itself. Names of characters are not resolved.
-/

namespace Authorization.Script.Escape

open Authorization.Number

private def hexValue? (digits : List Char) : Option Nat :=
  if digits.all (fun c => (digitValue? c).any (· < 16)) then
    some (digits.foldl (fun n c => n * 16 + (digitValue? c).getD 0) 0)
  else none

private def isOctal (c : Char) : Bool :=
  '0' ≤ c && c ≤ '7'

private def octalValue (digits : List Char) : Nat :=
  digits.foldl (fun n c => n * 8 + (c.toNat - 48)) 0

/-- The code point that a single letter or mark after a backslash stands for. -/
private def shortEscape? (c : Char) : Option Nat :=
  if c = '\\' ∨ c = '\'' ∨ c = '"' then some c.toNat
  else if c = 'a' then some 7
  else if c = 'b' then some 8
  else if c = 't' then some 9
  else if c = 'n' then some 10
  else if c = 'v' then some 11
  else if c = 'f' then some 12
  else if c = 'r' then some 13
  else none

/-- The code points of an escaped text, or nothing when an escape is incomplete. With `wide`, escapes
of four and eight digits and of names are known. -/
def codes? (wide : Bool) : List Char → Option (List Nat)
  | [] => some []
  | '\\' :: '\n' :: rest => codes? wide rest
  | '\\' :: 'x' :: a :: b :: rest =>
    (hexValue? [a, b]).bind fun n => (codes? wide rest).map (n :: ·)
  | '\\' :: 'u' :: a :: b :: c :: d :: rest =>
    if wide then (hexValue? [a, b, c, d]).bind fun n => (codes? wide rest).map (n :: ·)
    else
      (codes? wide (a :: b :: c :: d :: rest)).map fun more => 92 :: 117 :: more
  | '\\' :: 'U' :: a :: b :: c :: d :: e :: f :: g :: h :: rest =>
    if wide then
      (hexValue? [a, b, c, d, e, f, g, h]).bind fun n =>
        if n ≤ 0x10FFFF then (codes? wide rest).map (n :: ·) else none
    else
      (codes? wide (a :: b :: c :: d :: e :: f :: g :: h :: rest)).map fun more =>
        92 :: 85 :: more
  | '\\' :: c :: rest =>
    if c = 'x' ∨ (wide ∧ (c = 'u' ∨ c = 'U' ∨ c = 'N')) then none
    else if isOctal c then
      match rest with
      | d :: e :: more =>
        if isOctal d then
          if isOctal e then (codes? wide more).map (octalValue [c, d, e] :: ·)
          else (codes? wide (e :: more)).map (octalValue [c, d] :: ·)
        else (codes? wide (d :: e :: more)).map (octalValue [c] :: ·)
      | [d] =>
        if isOctal d then some [octalValue [c, d]]
        else (codes? wide [d]).map (octalValue [c] :: ·)
      | [] => some [octalValue [c]]
    else match shortEscape? c with
      | some n => (codes? wide rest).map (n :: ·)
      | none => (codes? wide rest).map fun more => 92 :: c.toNat :: more
  | c :: rest => (codes? wide rest).map (c.toNat :: ·)

/-- The text that stands between quotes; a raw text has no escapes. -/
def text? (raw : Bool) (body : List Char) : Option String :=
  if raw then some (String.ofList body)
  else (codes? true body).map fun codes => String.ofList (codes.map Text.ofCode)

/-- The octets that stand between quotes; only ASCII characters may be used to write them. -/
def octets? (raw : Bool) (body : List Char) : Option (List UInt8) :=
  if body.any (fun c => c.toNat ≥ 128) then none
  else if raw then some (body.map fun c => UInt8.ofNat c.toNat)
  else (codes? false body).map fun codes => codes.map UInt8.ofNat

/-- Splits a text after an opening quote at the closing one. The body is collected in reverse; one
line holds a text between single quotes, unless a backslash stands before the line end. -/
def takeBody? (quote : Char) (triple : Bool) (body : List Char) :
    List Char → Option (List Char × List Char)
  | [] => none
  | ['\\'] => none
  | '\\' :: c :: rest => takeBody? quote triple (c :: '\\' :: body) rest
  | c :: rest =>
    if c = quote then
      if !triple then some (body.reverse, rest)
      else if [quote, quote].isPrefixOf rest then some (body.reverse, rest.drop 2)
      else takeBody? quote triple (c :: body) rest
    else if c = '\n' ∧ !triple then none
    else takeBody? quote triple (c :: body) rest

end Authorization.Script.Escape

/-!
## Numerals

Numbers in the text of a script: decimal integers, integers after a base mark, decimal fractions
with an optional exponent, and any decimal followed by the imaginary mark `j`. Single underscores may
stand between digits. A nonzero decimal integer does not begin with a zero.
-/

namespace Authorization.Script.Numeral

open Authorization.Text Authorization.Number

/-- A character that may continue a word, as far as cutting a script into tokens goes. -/
def isWordChar (c : Char) : Bool :=
  ('a' ≤ c && c ≤ 'z') || ('A' ≤ c && c ≤ 'Z') || ('0' ≤ c && c ≤ '9') || c == '_' ||
    c.toNat ≥ 128

private def isDigitOf (base : Nat) (c : Char) : Bool :=
  (digitValue? c).any (· < base)

/-- Takes digits of a base, with single underscores between them. An underscore that no digit
follows is an error; no digit at all is an empty run. -/
def takeRun? (base : Nat) : List Char → Option (List Char × List Char)
  | [] => some ([], [])
  | '_' :: c :: rest =>
    if isDigitOf base c then
      (takeRun? base rest).map fun run => (c :: run.1, run.2)
    else none
  | c :: rest =>
    if c = '_' then none
    else if isDigitOf base c then (takeRun? base rest).map fun run => (c :: run.1, run.2)
    else some ([], c :: rest)

/-- The run that begins with a digit; an underscore before the first digit is left alone. -/
private def takeDigits? (base : Nat) : List Char → Option (List Char × List Char)
  | c :: rest => if isDigitOf base c then takeRun? base (c :: rest) else some ([], c :: rest)
  | [] => some ([], [])

/-- A numeral may be followed directly by one of a few keywords, but by no other word. -/
def endsCleanly (rest : List Char) : Bool :=
  let word := rest.takeWhile isWordChar
  word.isEmpty || ["and", "else", "for", "or", "not"].any (·.toList == word) ||
    ["if", "in", "is"].any fun keyword => keyword.toList.isPrefixOf word

private def finish? (literal : Literal) (rest : List Char) : Option (Literal × List Char) :=
  if endsCleanly rest then some (literal, rest) else none

private def markedBase? (mark : Char) : Option Nat :=
  if mark = 'x' ∨ mark = 'X' then some 16
  else if mark = 'o' ∨ mark = 'O' then some 8
  else if mark = 'b' ∨ mark = 'B' then some 2
  else none

private def isExponentMark (c : Char) : Bool :=
  c == 'e' || c == 'E'

private def isImaginaryMark (c : Char) : Bool :=
  c == 'j' || c == 'J'

/-- An exponent with its mark and sign, if one follows; a mark that begins a keyword is none. -/
private def takeExponent? (text : List Char) : Option (List Char × List Char) :=
  match text with
  | mark :: rest =>
    if !isExponentMark mark then some ([], text)
    else match rest with
      | sign :: more =>
        if sign = '+' ∨ sign = '-' then
          (takeDigits? 10 more).bind fun run =>
            if run.1.isEmpty then none else some (mark :: sign :: run.1, run.2)
        else
          (takeDigits? 10 rest).bind fun run =>
            if run.1.isEmpty then some ([], text) else some (mark :: run.1, run.2)
      | [] => some ([], text)
  | [] => some ([], [])

/-- What follows the whole part of a decimal: a fraction, an exponent, an imaginary mark. -/
private def takeDecimal? (whole rest : List Char) : Option (Literal × List Char) :=
  let fraction? : Option (List Char × List Char) := match rest with
    | '.' :: more => (takeDigits? 10 more).map fun run => ('.' :: run.1, run.2)
    | _ => some ([], rest)
  fraction?.bind fun (fraction, afterFraction) =>
    (takeExponent? afterFraction).bind fun (exponent, afterExponent) =>
      let imaginary : Bool := match afterExponent with
        | c :: _ => isImaginaryMark c
        | [] => false
      if imaginary then
        (readDecimal? false (whole ++ fraction ++ exponent)).bind fun x =>
          finish? (.complex 0.0 x) (afterExponent.drop 1)
      else if fraction.isEmpty ∧ exponent.isEmpty then
        if whole.head? = some '0' ∧ whole.any (· ≠ '0') then none
        else if whole.length > maxDecimalDigits then none
        else
          (readDigits? 10 false 0 0 whole).bind fun (_, n) => finish? (.int n) afterExponent
      else
        (readDecimal? false (whole ++ fraction ++ exponent)).bind fun x =>
          finish? (.float x) afterExponent

/-- Reads the numeral at the start of a text that begins with a digit, or with a point and a
digit. -/
def take? (text : List Char) : Option (Literal × List Char) :=
  let decimal? : Option (Literal × List Char) :=
    (takeDigits? 10 text).bind fun run => takeDecimal? run.1 run.2
  match text with
  | '0' :: mark :: rest =>
    match markedBase? mark with
    | some base =>
      let digits := match rest with
        | '_' :: more => more
        | _ => rest
      (takeDigits? base digits).bind fun run =>
        if run.1.isEmpty ∨ (run.2.head?).any (isDigitOf 10) then none
        else (readDigits? base false 0 0 run.1).bind fun (_, n) => finish? (.int n) run.2
    | none => decimal?
  | _ => decimal?

end Authorization.Script.Numeral
