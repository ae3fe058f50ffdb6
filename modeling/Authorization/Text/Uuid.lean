import Authorization.Number.Decimal
import Authorization.Number.Reading

/-!
# Universally unique identifiers

An identifier of 128 bits is read from any of its spellings, with or without hyphens, braces and
scheme words, and has one canonical text: five groups of lower case hexadecimal digits.
-/

namespace Authorization.Text.Uuid

/-- Drops every occurrence of a word, from left to right. The counter bounds the number of steps by
the length of the text. -/
def dropWord (word : List Char) : Nat → List Char → List Char
  | 0, text => text
  | _ + 1, [] => []
  | steps + 1, c :: rest =>
    if word.isPrefixOf (c :: rest) then dropWord word steps ((c :: rest).drop word.length)
    else c :: dropWord word steps rest

def isBrace (c : Char) : Bool :=
  c.toNat = 0x7B || c.toNat = 0x7D

/-- The number of an identifier text: thirty-two hexadecimal digits once scheme words, braces and
hyphens are gone. -/
def read? (text : String) : Option Nat :=
  let chars := (trim text).toList
  let bare := dropWord "uuid:".toList chars.length (dropWord "urn:".toList chars.length chars)
  let digits := (trimBoth isBrace bare).filter (· ≠ '-')
  if digits.length ≠ 32 then none
  else (Number.readInt? 16 (String.ofList digits)).bind fun n =>
    if 0 ≤ n ∧ n < Nat.pow 2 128 then some n.toNat else none

def hexDigit (n : Nat) : Char :=
  if n < 10 then Char.ofNat (48 + n) else Char.ofNat (87 + n)

def hexDigits (n : Nat) : List Char :=
  (List.range 32).map fun i => hexDigit (n / Nat.pow 16 (31 - i) % 16)

/-- The canonical text of a number below `2 ^ 128`. -/
def text (n : Nat) : String :=
  let digits := hexDigits n
  let group (start count : Nat) : List Char := (digits.drop start).take count
  String.ofList <|
    group 0 8 ++ '-' :: group 8 4 ++ '-' :: group 12 4 ++ '-' :: group 16 4 ++ '-' :: group 20 12

/-- The canonical text of an identifier given in any spelling. -/
def canonical? (spelling : String) : Option String :=
  (read? spelling).map text

end Authorization.Text.Uuid
