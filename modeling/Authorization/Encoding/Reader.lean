import Authorization.Error.Record
import Authorization.Text.Quoted

/-!
# Reading octets

What is done about octets that stand for nothing, how octets are gone through, and the encodings in
which every octet is a character of its own.
-/

/-!
## Octets that stand for nothing

Octets that an encoding does not read as characters are treated in one of several ways, chosen by name.
The choice matters only where there are such octets: a name that is none, and a way that is meant for
writing, are errors then and not before.
-/

namespace Authorization.Encoding

/-- What is done about octets that stand for no character. -/
inductive Treatment where
  | strict
  | ignore
  | replace
  | escape
  | keepOctets
  | keepHalves
  | forWriting
  | unknown
deriving DecidableEq, Repr

namespace Treatment

/-- The treatment of a name. -/
def ofName (name : String) : Treatment :=
  match name with
  | "strict" => .strict
  | "ignore" => .ignore
  | "replace" => .replace
  | "backslashreplace" => .escape
  | "surrogateescape" => .keepOctets
  | "surrogatepass" => .keepHalves
  | "xmlcharrefreplace" | "namereplace" => .forWriting
  | _ => .unknown

/-- The half that an octet beyond ASCII is kept as. -/
private def keptOctet (octet : UInt8) : Char :=
  Text.ofCode (0xDC00 + octet.toNat)

/-- What takes the place of some octets, and the octets at which reading goes on. The last argument reads
half of a pair. -/
def apply (treatment : Treatment) (wrong rest : List UInt8)
    (half? : List UInt8 → Option (Char × List UInt8)) :
    Except FaultKind (List Char × List UInt8) :=
  match treatment with
  | .strict => .error .undecodable
  | .ignore => .ok ([], rest)
  | .replace => .ok ([Char.ofNat 0xFFFD], rest)
  | .escape =>
    .ok (wrong.flatMap fun octet => '\\' :: 'x' :: Text.hexText 2 octet.toNat, rest)
  | .keepOctets =>
    match (wrong.takeWhile (· ≥ 0x80)).take 4 with
    | [] => .error .undecodable
    | kept => .ok (kept.map keptOctet, wrong.drop kept.length ++ rest)
  | .keepHalves =>
    match half? (wrong ++ rest) with
    | some (half, rest) => .ok ([half], rest)
    | none => .error .undecodable
  | .forWriting => .error .type
  | .unknown => .error .lookup

end Treatment

end Authorization.Encoding

/-!
## Readers

A reader goes through octets and finds, where it stands, characters or octets that stand for nothing. It
may have a state, which says how the octets after that are meant.
-/

namespace Authorization.Encoding

/-- What a reader finds where it stands: the end, characters, or octets that stand for nothing. -/
inductive Reading (State : Type) where
  | done
  | text (chars : List Char) (rest : List UInt8) (state : State)
  | misfit (wrong rest : List UInt8) (state : State)

/-- A way to read octets. No step goes back, and of two steps one goes forward. -/
structure Reader (State : Type) where
  start : State
  read : State → List UInt8 → Reading State
  /-- Reads half of a pair, where the encoding has a form for it. -/
  half? : List UInt8 → Option (Char × List UInt8) := fun _ => none

namespace Reader

variable {State : Type}

/-- Reads on by counted steps; what has been read is kept in reverse. -/
def readFrom (reader : Reader State) (treatment : Treatment) :
    (steps : Nat) → (found : List Char) → State → List UInt8 → Except FaultKind (List Char)
  | 0, found, _, _ => .ok found.reverse
  | steps + 1, found, state, octets =>
    match reader.read state octets with
    | .done => .ok found.reverse
    | .text chars rest state => readFrom reader treatment steps (chars.reverseAux found) state rest
    | .misfit wrong rest state =>
      match treatment.apply wrong rest reader.half? with
      | .error kind => .error kind
      | .ok (chars, rest) => readFrom reader treatment steps (chars.reverseAux found) state rest

/-- The text of octets. -/
def text (reader : Reader State) (treatment : Treatment) (octets : List UInt8) :
    Except FaultKind String :=
  (readFrom reader treatment (2 * octets.length + 2) [] reader.start octets).map String.ofList

/-- A reader without a state, by what it finds in octets of which there are some. -/
def plain (read : UInt8 → List UInt8 → Reading Unit)
    (half? : List UInt8 → Option (Char × List UInt8) := fun _ => none) : Reader Unit :=
  { start := ()
    read := fun _ octets =>
      match octets with
      | [] => .done
      | octet :: rest => read octet rest
    half? }

/-- A reader by which an octet is a character or stands for nothing. -/
def ofOctets (char? : UInt8 → Option Char) : Reader Unit :=
  plain fun octet rest =>
    match char? octet with
    | some c => .text [c] rest ()
    | none => .misfit [octet] rest ()

/-- Each octet below 128 is a character. -/
def ascii : Reader Unit :=
  ofOctets fun octet => if octet < 0x80 then some (Char.ofNat octet.toNat) else none

/-- Each octet is the character of its number. -/
def latin : Reader Unit :=
  ofOctets fun octet => some (Char.ofNat octet.toNat)

end Reader

end Authorization.Encoding

/-!
## Code pages

Encodings in which every octet is a character of a table, or stands for nothing. Most of them agree with
ASCII for the octets below 128.
-/

namespace Authorization.Encoding

/-- A code page: its name, other names for it, and its table, which holds U+FFFE where there is no
character. -/
structure Page where
  name : String
  aliases : String
  table : String
deriving DecidableEq, Repr

namespace Page

/-- The characters of all octets. -/
private def chars (page : Page) : Array Char :=
  let listed := page.table.toList
  ((List.range (256 - listed.length)).map Char.ofNat ++ listed).toArray

/-- Each octet is a character of the table. -/
def reader (page : Page) : Reader Unit :=
  let chars := page.chars
  .ofOctets fun octet => chars[octet.toNat]?.filter fun c => c.toNat != 0xFFFE

end Page

end Authorization.Encoding
