import Authorization.Number.Reading
import Authorization.Value.Arithmetic
import Authorization.Value.Cursor
import Authorization.Value.Decoding
import Authorization.Value.Order
import Authorization.Value.Written

/-!
# Functions

The functions that a script calls by name. Each takes a fixed choice of positional arguments and of
named ones, and fails when it is given others.
-/

namespace Authorization.Builtin

def wrongArguments {α : Type} (f : Builtin) : Draw α :=
  fault .type (f.name ++ "() was given arguments it does not take")

/-- The size of a value that has one and can be counted. -/
def size (value : Value) : Except Error Nat :=
  match value.length? with
  | none => fault .type ("object of type '" ++ value.kindName ++ "' has no len()")
  | some count =>
    if (count : Int) > Value.maxCount then
      fault .overflow "the length is too great to be counted"
    else .ok count

/-! ## Conversions -/

/-- Octets as a text, when each of them stands for a plain character. -/
def plainText? (octets : List UInt8) : Option String :=
  if octets.all (· < 128) then
    some (String.ofList (octets.map fun octet => Char.ofNat octet.toNat))
  else none

/-- The characters of a text or of plain octets; nothing for other values. -/
def literal? : Value → Option (Option String)
  | .str content => some (some content)
  | .bytes octets => some (plainText? octets)
  | _ => none

def badInteger {α : Type} : Except Error α :=
  fault .value "invalid literal for int()"

def readWhole (base : Nat) (text : Option String) : Except Error Value :=
  match text.bind (Number.readInt? base) with
  | some n => .ok (.int n)
  | none => badInteger

def wholeOf (value : Value) : Except Error Value :=
  match value with
  | .float x =>
    match Number.truncate? x with
    | some n => .ok (.int n)
    | none =>
      if x.isNaN then fault .value "cannot convert float NaN to integer"
      else fault .overflow "cannot convert float infinity to integer"
  | _ =>
    match literal? value, value.asInt? with
    | some text, _ => readWhole 10 text
    | _, some n => .ok (.int n)
    | none, none =>
      fault .type ("int() argument must be a string or a real number, not '" ++
        value.kindName ++ "'")

/-- A whole number read in a base. -/
def wholeInBase (value base : Value) : Except Error Value :=
  match base.asInt? with
  | none => fault .type "the base of a number must be an integer"
  | some b =>
    if b = 0 ∨ (2 ≤ b ∧ b ≤ 36) then
      match literal? value with
      | some text => readWhole b.toNat text
      | none => fault .type "int() can't convert non-string with explicit base"
    else fault .value "int() base must be >= 2 and <= 36, or 0"

def realOf (value : Value) : Except Error Value :=
  match value with
  | .float _ => .ok value
  | _ =>
    match literal? value, value.asInt? with
    | some text, _ =>
      match text.bind Number.readFloat? with
      | some x => .ok (.float x)
      | none => fault .value "could not convert string to float"
    | _, some n => (Value.doubleOf n).map .float
    | none, none =>
      fault .type ("float() argument must be a string or a real number, not '" ++
        value.kindName ++ "'")

def pairOf (place : Nat) (value : Value) : Draw (Value × Value) := do
  match value.iteration? with
  | none =>
    fault .type ("cannot convert dictionary update sequence element #" ++
      Number.intText place ++ " to a sequence")
  | some _ =>
    match ← value.items with
    | [key, item] => return (key, item)
    | _ =>
      fault .value ("dictionary update sequence element #" ++ Number.intText place ++
        " has another length than 2")

def storePairs (entries : List (Value × Value)) :
    (place : Nat) → List Value → Draw (List (Value × Value))
  | _, [] => return entries
  | place, value :: rest => do
    let (key, item) ← pairOf place value
    if key.hashable then storePairs (Value.store key item entries) (place + 1) rest
    else unhashable key

/-- The entries of a mapping made from a value. -/
def entriesOf (value : Value) : Draw (List (Value × Value)) :=
  match value.entries? with
  | some entries => return entries
  | none => do storePairs [] 0 (← value.items)

def bounds : List Value → Except Error (List Int)
  | [] => .ok []
  | value :: rest =>
    match value.asInt? with
    | some n => (bounds rest).map (n :: ·)
    | none =>
      fault .type ("'" ++ value.kindName ++ "' object cannot be interpreted as an integer")

def rangeOf (start stop step : Int) : Except Error Value :=
  if step = 0 then fault .value "range() arg 3 must not be zero"
  else .ok (.range start stop step)

/-! ## Aggregation -/

def comparisonFault {α : Type} (a b : Value) : Except Error α :=
  fault .type ("'<' not supported between instances of '" ++ a.kindName ++ "' and '" ++
    b.kindName ++ "'")

/-- The item whose key no later key comes before, in the sense of the relation. Every key is compared
before the next one is computed. -/
def extreme (relation : Value.Relation) (key : Value → Draw Value) :
    (best : Value × Value) → List Value → Draw Value
  | best, [] => return best.2
  | best, item :: rest => do
    let first ← key item
    match Value.related? relation first best.1 with
    | none => comparisonFault first best.1
    | some true => extreme relation key (first, item) rest
    | some false => extreme relation key best rest

def sortedEntries (reverse : Bool) (entries : List (Value × Value)) :
    Except Error Value :=
  let given := if reverse then entries.reverse else entries
  match Value.sortEntries? given with
  | none => fault .type "the values have no order"
  | some ordered =>
    .ok (.list ((if reverse then ordered.reverse else ordered).map Prod.snd))

def sumOf : (total : Value) → List Value → Except Error Value
  | total, [] => .ok total
  | total, item :: rest => do sumOf (← Value.add total item) rest

def sumFrom (start : Value) (items : List Value) : Except Error Value :=
  match start with
  | .str _ => fault .type "sum() can't sum strings [use ''.join(seq) instead]"
  | .bytes _ => fault .type "sum() can't sum bytes [use b''.join(seq) instead]"
  | _ => sumOf start items

/-- A number rounded to places after the point, or to a whole number. -/
def rounded (value places : Value) : Except Error Value :=
  match value, places with
  | .float x, .null =>
    match Number.roundToInt? x with
    | some n => .ok (.int n)
    | none =>
      if x.isNaN then fault .value "cannot convert float NaN to integer"
      else fault .overflow "cannot convert float infinity to integer"
  | .float x, _ =>
    match places.asInt? with
    | none => notWhole
    | some n =>
      match Number.roundTo x n with
      | some y => .ok (.float y)
      | none => fault .overflow "rounded value too large to represent"
  | _, _ =>
    match value.asInt? with
    | none => fault .type ("type " ++ value.kindName ++ " cannot be rounded")
    | some n =>
      match places with
      | .null => .ok (.int n)
      | _ =>
        match places.asInt? with
        | none => notWhole
        | some digits =>
          if digits ≥ 0 then .ok (.int n)
          else if digits.natAbs > n.natAbs.log2 + 1 then .ok (.int 0)
          else .ok (.int (Number.roundIntTo n digits.natAbs))
where
  notWhole : Except Error Value :=
    fault .type ("'" ++ places.kindName ++ "' object cannot be interpreted as an integer")

/-! ## Calls -/

def keyed (key : Value → Draw Value) : List Value → Draw (List (Value × Value))
  | [] => return []
  | item :: rest => do
    let first ← key item
    return (first, item) :: (← keyed key rest)

def best (relation : Value.Relation) (key : Value → Draw Value) (default? : Option Value)
    (items : List Value) : Draw Value := do
  match items with
  | first :: rest => extreme relation key (← key first, first) rest
  | [] =>
    match default? with
    | some value => return value
    | none => fault .value "arg is an empty sequence"

/-- The least or the greatest of one value's items, or of several values. -/
def bestOf (f : Builtin) (relation : Value.Relation) (key : Value → Draw Value)
    (default? : Option Value) : List Value → Draw Value
  | [] => wrongArguments f
  | [only] => do best relation key default? (← only.items)
  | several => if default?.isSome then wrongArguments f else best relation key none several

/-- Calls a function with positional arguments alone. -/
def applyPlain (f : Builtin) (arguments : List Value) : Draw Value :=
  match f, arguments with
  | .len, [value] => return .int (← size value)
  | .str, [] => Value.toTextBy none none none
  | .str, [value] => Value.toTextBy value none none
  | .str, [value, encoding] => Value.toTextBy value encoding none
  | .str, [value, encoding, treatment] => Value.toTextBy value encoding treatment
  | .int, [] => return .int 0
  | .int, [value] => wholeOf value
  | .int, [value, base] => wholeInBase value base
  | .float, [] => return .float 0.0
  | .float, [value] => realOf value
  | .bool, [] => return .bool false
  | .bool, [value] => return .bool value.truthy
  | .abs, [value] => value.magnitude
  | .min, values => bestOf .min .less pure none values
  | .max, values => bestOf .max .greater pure none values
  | .sum, [value] => do sumFrom (.int 0) (← value.items)
  | .sum, [value, start] => do sumFrom start (← value.items)
  | .any, [value] => return .bool ((← value.items).any Value.truthy)
  | .all, [value] => return .bool ((← value.items).all Value.truthy)
  | .sorted, [value] => do sortedEntries false ((← value.items).map fun item => (item, item))
  | .round, [value] => rounded value .null
  | .round, [value, places] => rounded value places
  | .list, [] => return .list []
  | .list, [value] => return .list (← value.items)
  | .tuple, [] => return .tuple []
  | .tuple, [value] => return .tuple (← value.items)
  | .set, [] => return .set false []
  | .set, [value] => return .set false (Value.distinct (← value.takeMembers))
  | .dict, [] => return .dict []
  | .dict, [value] => return .dict (← entriesOf value)
  | .range, values => do
    match ← bounds values with
    | [stop] => rangeOf 0 stop 1
    | [start, stop] => rangeOf start stop 1
    | [start, stop, step] => rangeOf start stop step
    | _ => wrongArguments .range
  | _, _ => wrongArguments f

/-- The key function of a sorting or of a search for an extreme. -/
def keyFunction (key : Value) (item : Value) : Draw Value :=
  match key with
  | .null => return item
  | .builtin f => applyPlain f [item]
  | _ => fault .type ("'" ++ key.kindName ++ "' object is not callable")

/-- The named arguments are all among the known ones. -/
def onlyNamed (known : List String) (named : List (String × Value)) : Bool :=
  named.all fun argument => known.contains argument.1

/-- The greatest number that the direction of a sorting may be. -/
def maxDirection : Int := Nat.pow 2 31 - 1

def sortedBy (value : Value) (named : List (String × Value)) : Draw Value := do
  let key := (named.lookup "key").getD .null
  let items ← value.items
  match ((named.lookup "reverse").getD (.bool false)).asInt? with
  | none => fault .type "the direction of a sorting must be an integer"
  | some direction =>
    if direction > maxDirection ∨ direction < -maxDirection - 1 then
      fault .overflow "the direction of a sorting is too great"
    else sortedEntries (direction != 0) (← keyed (keyFunction key) items)

def extremeBy (f : Builtin) (relation : Value.Relation) (values : List Value)
    (named : List (String × Value)) : Draw Value :=
  bestOf f relation (keyFunction ((named.lookup "key").getD .null)) (named.lookup "default") values

/-- Fills positional parameters from named arguments that follow the positional ones. -/
def withNamed (parameters : List String) (arguments : List Value)
    (named : List (String × Value)) : Option (List Value) :=
  let missing := parameters.drop arguments.length
  let filled := missing.takeWhile fun parameter => (named.lookup parameter).isSome
  if filled.length = named.length then
    some (arguments ++ filled.filterMap fun parameter => named.lookup parameter)
  else none

/-- Calls a function with named arguments also. -/
def applyNamed (f : Builtin) (arguments : List Value) (named : List (String × Value)) :
    Draw Value :=
  let throughPositions (parameters : List String) : Draw Value :=
    match withNamed parameters arguments named with
    | some values => applyPlain f values
    | none => wrongArguments f
  match f, arguments with
  | .sorted, [value] =>
    if onlyNamed ["key", "reverse"] named then sortedBy value named else wrongArguments f
  | .min, _ =>
    if onlyNamed ["key", "default"] named then extremeBy f .less arguments named
    else wrongArguments f
  | .max, _ =>
    if onlyNamed ["key", "default"] named then extremeBy f .greater arguments named
    else wrongArguments f
  | .sum, [value] =>
    match named with
    | [("start", start)] => do sumFrom start (← value.items)
    | _ => wrongArguments f
  | .round, _ => throughPositions ["number", "ndigits"]
  | .int, [value] =>
    match named with
    | [("base", base)] => wholeInBase value base
    | _ => wrongArguments f
  | .str, _ =>
    let free := ["object", "encoding", "errors"].drop arguments.length
    if arguments.length ≤ 3 && onlyNamed free named then
      Value.toTextBy (arguments[0]? <|> named.lookup "object")
        (arguments[1]? <|> named.lookup "encoding") (arguments[2]? <|> named.lookup "errors")
    else wrongArguments f
  | .dict, _ => do
    let entries ← match arguments with
      | [] => pure []
      | [value] => entriesOf value
      | _ => wrongArguments f
    return .dict (named.foldl (fun found entry => Value.store (.str entry.1) entry.2 found) entries)
  | _, _ => wrongArguments f

/-- Calls a function. -/
def apply (f : Builtin) (arguments : List Value) (named : List (String × Value)) : Draw Value :=
  if named.isEmpty then applyPlain f arguments else applyNamed f arguments named

end Authorization.Builtin
