import Authorization.Error.Basic
import Authorization.Number.Decimal
import Authorization.Value.Directive

/-!
# Formatted octets

The octets that a format makes of its arguments. The octets of a format and of its result are taken for
the characters of the same number. The arguments are the items of a tuple, or one value of another
kind; a directive with a key looks its argument up in that value. Every argument has to be used, except
for one in which keys can be looked up.
-/

namespace Authorization.Value

/-- The arguments of a format that have not been used. -/
inductive Supply where
  | several (rest : List Value)
  | single (value : Value)
  | used

def Supply.ofValue : Value → Supply
  | .tuple items => .several items
  | value => .single value

def Supply.take : Supply → Except Error (Value × Supply)
  | .several (value :: rest) => .ok (value, .several rest)
  | .single value => .ok (value, .used)
  | _ => fault .type "not enough arguments for format string"

def Supply.isEmpty : Supply → Bool
  | .several rest => rest.isEmpty
  | .single _ => false
  | .used => true

/-- A value in which the keys of directives are looked up. -/
def isKeyed : Value → Bool
  | .dict _ | .proxy _ | .list _ | .range .. => true
  | _ => false

def octetsOf (chars : List Char) : List UInt8 :=
  chars.map fun c => UInt8.ofNat c.toNat

def charsOf (octets : List UInt8) : List Char :=
  octets.map fun octet => Char.ofNat octet.toNat

def keyedArgument (source : Value) (key : DirectiveKey) : Except Error (Option Value) :=
  match key with
  | .absent => .ok none
  | .unclosed =>
    if isKeyed source then fault .value "incomplete format key"
    else fault .type "format requires a mapping"
  | .named chars =>
    match source.entries? with
    | some entries =>
      match lookup? entries (.bytes (octetsOf chars)) with
      | some value => .ok (some value)
      | none => fault .key "the key is missing"
    | none => fault .type "format requires a mapping"

/-! ## Widths and places -/

/-- The number that an amount comes to, and what is left of the arguments. The amount may be at most
`most`, and as an argument it has to be an integer of that size. -/
def amount (most : Nat) (given : Amount) (supply : Supply) :
    Except Error (Option Int × Supply) :=
  match given with
  | .absent => .ok (none, supply)
  | .number n => if n > most then fault .value "amount too big" else .ok (some n, supply)
  | .argument => do
    let (value, left) ← supply.take
    match value.asInt? with
    | none => fault .type "* wants int"
    | some n =>
      if n > most ∨ n < -most - 1 then fault .overflow "the amount is too great"
      else return (some n, left)

def maxWidth : Nat := Nat.pow 2 63 - 1

def maxPlaces : Nat := Nat.pow 2 31 - 1

/-- How the text of an argument is filled up to its width. A width less than zero stands for its
magnitude, filled at the right. -/
structure Filling where
  width : Nat
  atRight : Bool
  zeros : Bool
  sign : Option Char
  full : Bool

def filling (flags : List Char) (width : Option Int) : Filling :=
  let given := width.getD 0
  { width := if given < -maxWidth then 0 else given.natAbs
    atRight := flags.contains '-' || given < 0
    zeros := flags.contains '0'
    sign :=
      if flags.contains '+' then some '+' else if flags.contains ' ' then some ' ' else none
    full := flags.contains '#' }

/-- The greatest number of characters that a text is filled up with. -/
def maxFill : Nat := Nat.pow 2 36

def fill (count : Nat) (c : Char) : Except Error (List Char) :=
  if count > maxFill then fault .memory "the width is too great"
  else .ok (List.replicate count c)

def fillText (f : Filling) (text : List Char) : Except Error (List Char) := do
  let blanks ← fill (f.width - text.length) ' '
  return if f.atRight then text ++ blanks else blanks ++ text

/-- Fills the text of a number: zeros go between its sign, with the mark of its base, and its digits. -/
def fillNumber (f : Filling) (negative : Bool) (mark digits : List Char) :
    Except Error (List Char) := do
  let head := (if negative then some '-' else f.sign).toList ++ mark
  let missing := f.width - head.length - digits.length
  if f.atRight then return head ++ digits ++ (← fill missing ' ')
  else if f.zeros then return head ++ (← fill missing '0') ++ digits
  else return (← fill missing ' ') ++ head ++ digits

/-! ## Conversions -/

/-- A base in which integers are written. -/
inductive Base where
  | ten | eight | sixteen
deriving DecidableEq

/-- What a directive makes of its argument. -/
inductive Conversion where
  | octets
  | written
  | octet
  | whole (base : Base) (capital : Bool)
  | real (form : Number.Form) (capital : Bool)

def Conversion.ofLetter? : Char → Option Conversion
  | 's' | 'b' => some .octets
  | 'r' | 'a' => some .written
  | 'c' => some .octet
  | 'd' | 'i' | 'u' => some (.whole .ten false)
  | 'o' => some (.whole .eight false)
  | 'x' => some (.whole .sixteen false)
  | 'X' => some (.whole .sixteen true)
  | 'e' => some (.real .exponential false)
  | 'E' => some (.real .exponential true)
  | 'f' => some (.real .positional false)
  | 'F' => some (.real .positional true)
  | 'g' => some (.real .general false)
  | 'G' => some (.real .general true)
  | _ => none

def capitals (capital : Bool) (chars : List Char) : List Char :=
  if capital then chars.map Char.toUpper else chars

def cut (places : Option Nat) (chars : List Char) : List Char :=
  match places with
  | some count => chars.take count
  | none => chars

/-- The text of a value inside another one, with every character outside ASCII escaped. -/
def plainWritten (value : Value) : Except Error (List Char) := do
  return (← value.toWritten).toList.flatMap fun c =>
    if c.toNat < 0x80 then [c] else Text.escapedChar c

def octetOf : Value → Except Error Char
  | .bytes [octet] => .ok (Char.ofNat octet.toNat)
  | value =>
    match value.asInt? with
    | none => fault .type "%c requires an integer in range(256) or a single byte"
    | some n =>
      if 0 ≤ n ∧ n < 256 then .ok (Char.ofNat n.toNat)
      else fault .overflow "%c arg not in range(256)"

/-- The integer that a conversion writes: only one in base ten also writes the whole part of a double. -/
def wholeArgument (base : Base) (value : Value) : Except Error Int :=
  match value, base with
  | .float x, .ten =>
    match Number.truncate? x with
    | some n => .ok n
    | none =>
      if x.isNaN then fault .value "cannot convert float NaN to integer"
      else fault .overflow "cannot convert float infinity to integer"
  | _, _ =>
    match value.asInt? with
    | some n => .ok n
    | none => fault .type "a number is required"

def realArgument (value : Value) : Except Error Float :=
  let found? := match value with
    | .float x => some x
    | _ => value.asInt?.bind Number.roundInt
  match found? with
  | some x => .ok x
  | none => fault .type "float argument required"

def magnitudeDigits (base : Base) (n : Int) : Except Error (List Char) :=
  match base with
  | .ten => do return (← Value.toText (.int n.natAbs)).toList
  | .eight => .ok (Nat.toDigits 8 n.natAbs)
  | .sixteen => .ok (Nat.toDigits 16 n.natAbs)

def convertWhole (f : Filling) (places : Option Nat) (base : Base) (capital : Bool) (n : Int) :
    Except Error (List Char) := do
  if places.any (· > maxPlaces - 3) then fault .overflow "precision too large"
  else
    let digits ← magnitudeDigits base n
    let zeros ← fill (places.getD 0 - digits.length) '0'
    let digits := zeros ++ capitals capital digits
    match f.full, base with
    | true, .sixteen => fillNumber f (n < 0) ['0', if capital then 'X' else 'x'] digits
    | true, .eight => fillNumber f (n < 0) [] ('0' :: 'o' :: digits)
    | _, _ => fillNumber f (n < 0) [] digits

def convertReal (f : Filling) (places : Option Nat) (form : Number.Form) (capital : Bool)
    (x : Float) : Except Error (List Char) :=
  match capitals capital (Number.formText form (places.getD 6) f.full x).toList with
  | '-' :: digits => fillNumber f true [] digits
  | digits => fillNumber f false [] digits

def convert (f : Filling) (places : Option Nat) (value : Value) :
    Conversion → Except Error (List Char)
  | .octets =>
    match value with
    | .bytes octets => fillText f (cut places (charsOf octets))
    | _ => fault .type "%b requires a bytes-like object"
  | .written => do fillText f (cut places (← plainWritten value))
  | .octet => do fillText f [← octetOf value]
  | .whole base capital => do convertWhole f places base capital (← wholeArgument base value)
  | .real form capital => do convertReal f places form capital (← realArgument value)

/-! ## Formats -/

def directed (source : Value) (directive : Directive) (supply : Supply) :
    Except Error (List Char × Supply) := do
  let supply := match ← keyedArgument source directive.key with
    | some value => .single value
    | none => supply
  let (width, supply) ← amount maxWidth directive.width supply
  let (places, supply) ← amount maxPlaces (directive.places.getD .absent) supply
  match directive.letter with
  | none => fault .value "incomplete format"
  | some letter =>
    let (value, supply) ← supply.take
    match Conversion.ofLetter? letter with
    | none =>
      if letter.toNat ≥ 0x80 ∧ !directive.endsInNumber then fault .overflow "no format character"
      else fault .value "unsupported format character"
    | some conversion =>
      let places := directive.places.map fun _ => (places.getD 0).toNat
      let chars ← convert (filling directive.flags width) places value conversion
      return (chars, supply)

/-- Goes through the parts of a format; what they have made is kept in reverse. -/
def formattedParts (source : Value) (made : List Char) :
    Supply → List FormatPart → Except Error (List Char)
  | supply, [] =>
    if supply.isEmpty || isKeyed source then .ok made.reverse
    else fault .type "not all arguments converted during bytes formatting"
  | supply, .plain c :: rest => formattedParts source (c :: made) supply rest
  | supply, .directive directive :: rest => do
    let (chars, supply) ← directed source directive supply
    formattedParts source (chars.reverseAux made) supply rest

/-- The octets that a format makes of its arguments. -/
def formatted (format : List UInt8) (arguments : Value) : Except Error (List UInt8) :=
  (formattedParts arguments [] (Supply.ofValue arguments) (FormatPart.ofFormat (charsOf format))).map
    octetsOf

end Authorization.Value
