import Authorization.Encoding.Reader
import Authorization.Number.Reading

/-!
# Encodings with escapes

The encodings that write characters by escapes, in sections of base 64, or as insertions.
-/

/-!
## Escaped text

The two encodings in which an octet is the character of its number, except for a backslash. The first one
has all escapes of a text between quotes; the other one only those of four and eight digits.
-/

namespace Authorization.Encoding.Reader

private def backslash : UInt8 := 0x5C

private def digitOf? (base : Nat) (octet : UInt8) : Option Nat :=
  (Number.digitValue? (Char.ofNat octet.toNat)).filter fun digit => octet < 0x80 && digit < base

/-- The digits at the beginning of octets, of which there are at most so many. -/
private def digits (base count : Nat) (octets : List UInt8) : List UInt8 :=
  (octets.takeWhile fun octet => (digitOf? base octet).isSome).take count

private def codeOfDigits (base : Nat) (octets : List UInt8) : Nat :=
  octets.foldl (fun n octet => base * n + (digitOf? base octet).getD 0) 0

/-- The character of an escape with so many digits after its letter. -/
private def readCode (letter : UInt8) (count : Nat) (rest : List UInt8) : Reading Unit :=
  let found := digits 16 count rest
  let code := codeOfDigits 16 found
  let left := rest.drop found.length
  if found.length < count ∨ code > 0x10FFFF then .misfit (backslash :: letter :: found) left ()
  else .text [Text.ofCode code] left ()

/-- The characters that single letters and marks stand for after a backslash. -/
private def shortEscapes : List (Char × Nat) :=
  [('\\', 92), ('\'', 39), ('"', 34), ('b', 8), ('f', 12), ('t', 9), ('n', 10), ('r', 13), ('v', 11),
   ('a', 7)]

/-- The character of a name in braces. -/
private def readName (named? : String → Option Char) (letter : UInt8) : List UInt8 → Reading Unit
  | 0x7B :: rest =>
    let name := rest.takeWhile (· != 0x7D)
    let text := String.ofList (name.map fun octet => Char.ofNat octet.toNat)
    match rest.drop name.length with
    | [] => .misfit (backslash :: letter :: 0x7B :: rest) [] ()
    | brace :: more =>
      if name.isEmpty then .misfit [backslash, letter, 0x7B] (brace :: more) ()
      else
        match named? text with
        | some c => .text [c] more ()
        | none => .misfit (backslash :: letter :: 0x7B :: name ++ [brace]) more ()
  | rest => .misfit [backslash, letter] rest ()

private def readEscape (named? : String → Option Char) (letter : UInt8) (rest : List UInt8) :
    Reading Unit :=
  let c := Char.ofNat letter.toNat
  match shortEscapes.lookup c with
  | some code => .text [Char.ofNat code] rest ()
  | none =>
    match c with
    | '\n' => .text [] rest ()
    | 'x' => readCode letter 2 rest
    | 'u' => readCode letter 4 rest
    | 'U' => readCode letter 8 rest
    | 'N' => readName named? letter rest
    | _ =>
      match digits 8 3 (letter :: rest) with
      | [] => .text ['\\', c] rest ()
      | found => .text [Text.ofCode (codeOfDigits 8 found)] (rest.drop (found.length - 1)) ()

/-- All escapes; characters may be named. -/
def escaped (named? : String → Option Char) : Reader Unit :=
  plain fun octet rest =>
    if octet = backslash then
      match rest with
      | [] => .misfit [backslash] [] ()
      | letter :: more => readEscape named? letter more
    else .text [Char.ofNat octet.toNat] rest ()

/-- Escapes of four and eight digits alone. -/
def rawEscaped : Reader Unit :=
  plain fun octet rest =>
    match octet == backslash, rest with
    | true, 0x75 :: more => readCode 0x75 4 more
    | true, 0x55 :: more => readCode 0x55 8 more
    | true, letter :: more => .text ['\\', Char.ofNat letter.toNat] more ()
    | _, _ => .text [Char.ofNat octet.toNat] rest ()

end Authorization.Encoding.Reader

/-!
## Shifted text

The encoding that writes all characters with octets of ASCII. Those outside ASCII stand as units of 16
bits in sections of base 64, between a plus sign and a minus sign or any other character that is no digit
of that base.
-/

namespace Authorization.Encoding

/-- A section in base 64: the octets of it that have been read, in reverse, the bits among them that are
still to be used, and the first half of a pair that waits for the second one. -/
structure Section64 where
  read : List UInt8
  bitCount : Nat := 0
  bits : Nat := 0
  half : Option Nat := none

/-- The digit of base 64 that an octet is. -/
def digit64? (octet : UInt8) : Option Nat :=
  let n := octet.toNat
  if 65 ≤ n ∧ n ≤ 90 then some (n - 65)
  else if 97 ≤ n ∧ n ≤ 122 then some (n - 71)
  else if 48 ≤ n ∧ n ≤ 57 then some (n + 4)
  else if n = 43 then some 62
  else if n = 47 then some 63
  else none

namespace Section64

/-- The characters that a unit comes to after the half that waits, and the half that waits then. -/
private def ofUnit (half : Option Nat) (unit : Nat) : List Char × Option Nat :=
  let isFirst : Bool := 0xD800 ≤ unit && unit ≤ 0xDBFF
  let alone := if isFirst then ([], some unit) else ([Text.ofCode unit], none)
  match half with
  | none => alone
  | some first =>
    if 0xDC00 ≤ unit ∧ unit ≤ 0xDFFF then ([Text.ofHalves first unit], none)
    else (Text.ofCode first :: alone.1, alone.2)

/-- The section with one digit more, and the characters that are complete then. -/
private def push (found : Section64) (octet : UInt8) (digit : Nat) : List Char × Section64 :=
  let read := octet :: found.read
  let bits := 64 * found.bits + digit
  let bitCount := found.bitCount + 6
  if bitCount < 16 then ([], { found with read, bits, bitCount })
  else
    let left := bitCount - 16
    let (chars, half) := ofUnit found.half (bits / Nat.pow 2 left)
    (chars, { read, bits := bits % Nat.pow 2 left, bitCount := left, half })

/-- Bits are left over that are no filling. -/
private def hasRemainder (found : Section64) : Bool :=
  found.bitCount ≥ 6 || found.bits != 0

private def readDirect : List UInt8 → Reading (Option Section64)
  | [] => .done
  | 0x2B :: 0x2D :: rest => .text ['+'] rest none
  | 0x2B :: rest =>
    match rest with
    | octet :: more =>
      if (digit64? octet).isSome then .text [] rest (some { read := [0x2B] })
      else .misfit [0x2B, octet] more none
    | [] => .text [] [] (some { read := [0x2B] })
  | octet :: rest =>
    if octet < 0x80 then .text [Char.ofNat octet.toNat] rest none else .misfit [octet] rest none

/-- A section ends at an octet that is no digit. A minus sign belongs to it. -/
private def leave (found : Section64) (octet : UInt8) (rest : List UInt8) :
    Reading (Option Section64) :=
  if found.hasRemainder then .misfit (octet :: found.read).reverse rest none
  else
    let waiting := if octet < 0x80 then found.half.toList.map Text.ofCode else []
    if octet = 0x2D then .text waiting rest none else .text waiting (octet :: rest) none

private def readSection (found : Section64) : List UInt8 → Reading (Option Section64)
  | [] =>
    if found.half.isSome || found.hasRemainder then .misfit found.read.reverse [] none else .done
  | octet :: rest =>
    match digit64? octet with
    | some digit =>
      let (chars, more) := found.push octet digit
      .text chars rest (some more)
    | none => found.leave octet rest

end Section64

/-- Characters of ASCII, and sections in base 64. -/
def Reader.utf7 : Reader (Option Section64) :=
  { start := none
    read := fun state octets =>
      match state with
      | none => Section64.readDirect octets
      | some found => found.readSection octets }

end Authorization.Encoding

/-!
## Labels of names

The encoding that writes a label of a domain name with letters, digits and minus signs of ASCII: first its
ASCII characters, then, after the last minus sign, how the others are inserted among them. They are
inserted in the order of their code points, each by one number that tells how many states of the
insertion are passed over. A number is written with digits of base 36, the least one first, and ends with
a digit below a threshold that follows the size of the numbers before.
-/

namespace Authorization.Encoding.Punycode

/-- The threshold below which the digit of a place ends a number. -/
private def threshold (bias place : Nat) : Nat :=
  min 26 (max 1 (36 * (place + 1) - bias))

/-- The value of a capital letter or of a digit. -/
private def digit? (c : Char) : Option Nat :=
  if 'A' ≤ c ∧ c ≤ 'Z' then some (c.toNat - 65)
  else if '0' ≤ c ∧ c ≤ '9' then some (c.toNat - 22)
  else none

/-- Reads a number, and gives what comes after it. -/
private def number? (bias : Nat) : (weight place found : Nat) → List Char → Option (Nat × List Char)
  | _, _, _, [] => none
  | weight, place, found, c :: rest =>
    match digit? c with
    | none => none
    | some digit =>
      let sum := found + digit * weight
      let least := threshold bias place
      if digit < least then some (sum, rest)
      else number? bias (weight * (36 - least)) (place + 1) sum rest

/-- Divides by counted steps until little is left, and counts the steps. -/
private def reduced : (steps : Nat) → Nat → Nat × Nat
  | 0, n => (0, n)
  | steps + 1, n =>
    if n > 455 then
      let (count, left) := reduced steps (n / 35)
      (count + 1, left)
    else (0, n)

/-- The bias for the number after one, when there are so many characters. -/
private def adapted (number : Nat) (isFirst : Bool) (count : Nat) : Nat :=
  let scaled := if isFirst then number / 700 else number / 2
  let whole := scaled + scaled / count
  let (steps, left) := reduced (Nat.log2 whole) whole
  36 * steps + 36 * left / (left + 38)

/-- An insertion in progress: the characters, the last code point and its place, and the bias. -/
private structure Insertion where
  chars : List Char
  code : Nat := 0x80
  next : Nat := 0
  bias : Nat := 72
  isFirst : Bool := true

/-- Inserts the characters of all numbers, by counted steps. What is no number ends the insertion, unless
it has to be without a fault. -/
def insertAll (strict : Bool) :
    (steps : Nat) → Insertion → List Char → Except FaultKind (List Char)
  | 0, state, _ | _, state, [] => .ok state.chars
  | steps + 1, state, digits =>
    match number? state.bias 1 0 0 digits with
    | none => if strict then .error .encoding else .ok state.chars
    | some (number, rest) =>
      let count := state.chars.length + 1
      let passed := state.next + number
      let code := state.code + passed / count
      if code > 0x10FFFF ∧ strict then .error .encoding
      else
        let code := if code > 0x10FFFF then '?'.toNat else code
        let place := passed % count
        insertAll strict steps
          { chars := state.chars.take place ++ Text.ofCode code :: state.chars.drop place
            code
            next := place + 1
            bias := adapted number state.isFirst count
            isFirst := false }
          rest

private def minus : UInt8 := 0x2D

/-- The characters of a label, after its ASCII characters and the digits of its numbers. -/
private def parts (octets : List UInt8) : List UInt8 × List UInt8 :=
  let digits := (octets.reverse.takeWhile (· != minus)).reverse
  (octets.take (octets.length - digits.length - 1), digits)

/-- The text of a label. Only three treatments of faults are known. -/
def text (treatment : Treatment) (octets : List UInt8) : Except FaultKind String := do
  if [.strict, .replace, .ignore].contains treatment then
    let (plain, digits) := parts octets
    let base ← Reader.ascii.text treatment plain
    let digits ← Reader.ascii.text .strict digits
    let chars ← insertAll (treatment == .strict) digits.length { chars := base.toList }
      (digits.toList.map Char.toUpper)
    return String.ofList chars
  else .error .encoding

end Authorization.Encoding.Punycode
