import Authorization.Value.Basic
import Authorization.Number.Decimal
import Authorization.Number.Reading
import Authorization.Text.Quoted
import Authorization.Text.Basic

/-!
# Written values

The text of a value. Inside other values a text is quoted; by itself it stands as it is. An integer
of more than 4300 digits has no text.
-/

namespace Authorization.Value

private def openBrace : String := "\x7b"

private def closeBrace : String := "\x7d"

private def imaginaryText (x : Float) : String :=
  let text := Number.floatText x
  let bare := if text.endsWith ".0" then (text.dropEnd 2).toString else text
  bare ++ "j"

private def complexText (real imaginary : Float) : String :=
  if real == 0.0 && !Number.isNegative real then imaginaryText imaginary
  else
    let realText := Number.floatText real
    let bare := if realText.endsWith ".0" then (realText.dropEnd 2).toString else realText
    let mark := if Number.isNegative imaginary || imaginary.isNaN then "" else "+"
    "(" ++ bare ++ (if imaginary.isNaN then "+" else mark) ++ imaginaryText imaginary ++ ")"

private def zoneWritten (offset : Int) : String :=
  if offset = 0 then "datetime.timezone.utc"
  else "datetime.timezone(" ++ Time.Duration.written ⟨offset⟩ ++ ")"

private def zoneText (offset : Int) : String :=
  if offset = 0 then "UTC" else "UTC" ++ Time.Instant.offsetText offset

private def instantText (t : Time.Instant) : String :=
  let c := t.calendar
  let numbers := [c.year, c.month, c.day, c.hour, c.minute] ++
    (if c.micro ≠ 0 then [c.second, c.micro] else if c.second ≠ 0 then [c.second] else [])
  let parts := numbers.map (fun (n : Nat) => Number.intText n) ++
    (match t.offset with
      | some offset => ["tzinfo=" ++ zoneWritten offset]
      | none => [])
  "datetime.datetime(" ++ Text.join ", " parts ++ ")"

mutual

/-- The text of a value inside another value. -/
def written : Value → String
  | .null => "None"
  | .bool flag => if flag then "True" else "False"
  | .int number => Number.intText number
  | .float number => Number.floatText number
  | .complex real imaginary => complexText real imaginary
  | .str text => Text.quoted text
  | .bytes octets => Text.quotedOctets octets
  | .list items => "[" ++ Text.join ", " (writtenItems items) ++ "]"
  | .tuple [item] => "(" ++ written item ++ ",)"
  | .tuple items => "(" ++ Text.join ", " (writtenItems items) ++ ")"
  | .set frozen members =>
    let inner := openBrace ++ Text.join ", " (writtenItems members) ++ closeBrace
    if frozen then
      if members.isEmpty then "frozenset()" else "frozenset(" ++ inner ++ ")"
    else if members.isEmpty then "set()" else inner
  | .dict entries => openBrace ++ Text.join ", " (writtenEntries entries) ++ closeBrace
  | .proxy entries =>
    "mappingproxy(" ++ openBrace ++ Text.join ", " (writtenEntries entries) ++ closeBrace ++ ")"
  | .view .keys entries => "dict_keys([" ++ Text.join ", " (writtenKeys entries) ++ "])"
  | .view .values entries => "dict_values([" ++ Text.join ", " (writtenValues entries) ++ "])"
  | .view .items entries => "dict_items([" ++ Text.join ", " (writtenPairs entries) ++ "])"
  | .range start stop step =>
    "range(" ++ Number.intText start ++ ", " ++ Number.intText stop ++
      (if step = 1 then "" else ", " ++ Number.intText step) ++ ")"
  | .slice a b c => "slice(" ++ written a ++ ", " ++ written b ++ ", " ++ written c ++ ")"
  | .ellipsis => "Ellipsis"
  | .builtin f =>
    if f.isType then "<class '" ++ f.name ++ "'>" else "<built-in function " ++ f.name ++ ">"
  | .function _ name => "<function " ++ name ++ ">"
  | .method name => "<built-in method " ++ name ++ ">"
  | .object .. => "<Obj object>"
  | .oneShot .. => "<list_iterator object>"
  | .instant t => instantText t
  | .duration span => span.written
  | .zone offset => zoneWritten offset
  | .record kind fields => kind.name ++ "(" ++ Text.join ", " (writtenFields fields) ++ ")"

def writtenItems : List Value → List String
  | [] => []
  | item :: rest => written item :: writtenItems rest

def writtenEntries : List (Value × Value) → List String
  | [] => []
  | (key, value) :: rest => (written key ++ ": " ++ written value) :: writtenEntries rest

def writtenKeys : List (Value × Value) → List String
  | [] => []
  | (key, _) :: rest => written key :: writtenKeys rest

def writtenValues : List (Value × Value) → List String
  | [] => []
  | (_, value) :: rest => written value :: writtenValues rest

def writtenPairs : List (Value × Value) → List String
  | [] => []
  | (key, value) :: rest =>
    ("(" ++ written key ++ ", " ++ written value ++ ")") :: writtenPairs rest

def writtenFields : List (String × Value) → List String
  | [] => []
  | (name, value) :: rest => (name ++ "=" ++ written value) :: writtenFields rest

end

/-- The text of a value by itself. -/
def text : Value → String
  | .str text => text
  | .instant t => t.text " "
  | .duration span => span.text
  | .zone offset => zoneText offset
  | .proxy entries => written (.dict entries)
  | value => written value

/-- An integer has more digits than are written. -/
def isLong (n : Int) : Bool :=
  n.natAbs ≥ Nat.pow 10 Number.maxDecimalDigits

/-- An integer, or an end or a step of a range, that is too long to be written. -/
def isLongInt : Value → Bool
  | .int number => isLong number
  | .range start stop step => isLong start || isLong stop || isLong step
  | _ => false

mutual

/-- A test holds for a part of the value that is no container, at any depth. What objects and one-shot
sequences hold is no part of them. -/
def holdsPart (test : Value → Bool) : Value → Bool
  | .list items | .tuple items | .set _ items => holdsPartItems test items
  | .dict entries | .proxy entries | .view _ entries => holdsPartEntries test entries
  | .slice a b c => holdsPart test a || holdsPart test b || holdsPart test c
  | .record _ fields => holdsPartFields test fields
  | value => test value

def holdsPartItems (test : Value → Bool) : List Value → Bool
  | [] => false
  | item :: rest => holdsPart test item || holdsPartItems test rest

def holdsPartEntries (test : Value → Bool) : List (Value × Value) → Bool
  | [] => false
  | (key, value) :: rest =>
    holdsPart test key || holdsPart test value || holdsPartEntries test rest

def holdsPartFields (test : Value → Bool) : List (String × Value) → Bool
  | [] => false
  | (_, value) :: rest => holdsPart test value || holdsPartFields test rest

end

/-- An integer too long to be written occurs in the text of the value. -/
def holdsLongInt (value : Value) : Bool :=
  value.holdsPart isLongInt

/-- A number that differs from itself. -/
def isUndefined : Value → Bool
  | .float number => number.isNaN
  | .complex real imaginary => real.isNaN || imaginary.isNaN
  | _ => false

/-- The value is a number that differs from itself, or holds one. -/
def holdsUndefined (value : Value) : Bool :=
  value.holdsPart isUndefined

/-- The text of a value by itself, unless it holds an integer too long to be written. -/
def text? (value : Value) : Option String :=
  if value.holdsLongInt then none else some value.text

end Authorization.Value
