import Authorization.Script.Function
import Authorization.Text.Case
import Authorization.Text.Digit
import Authorization.Text.Letter
import Authorization.Value.Cursor

/-!
# Methods

The operations on texts, lists, tuples, mappings and sets that a script may call. None of them
changes the value it is called on.
-/

namespace Authorization.Method

open Authorization.Text

/-- The methods of texts. -/
def ofTexts : List String :=
  ["lower", "upper", "strip", "lstrip", "rstrip", "startswith", "endswith", "split", "join", "find",
   "count", "isdigit", "isalpha", "isalnum", "title", "capitalize"]

/-- The methods of lists and tuples. -/
def ofSequences : List String := ["count", "index"]

/-- The methods of mappings. -/
def ofMappings : List String := ["get", "keys", "values", "items"]

/-- The methods of sets. -/
def ofSets : List String := ["union", "intersection", "difference", "issubset", "issuperset"]

/-- The methods that a script may call on a value. -/
def listed : Value → List String
  | .str _ => ofTexts
  | .list _ | .tuple _ => ofSequences
  | .dict _ => ofMappings
  | .set .. => ofSets
  | _ => []

def wrongArguments {α : Type} (name : String) : Except Error α :=
  fault .type (name ++ "() was given arguments it does not take")

/-! ## Texts -/

def stripped (strip : (Char → Bool) → List Char → List Char) (content : String)
    (drop : Value) : Except Error Value :=
  match drop with
  | .null => .ok (.str (String.ofList (strip isBlank content.toList)))
  | .str dropped =>
    .ok (.str (String.ofList (strip (fun c => dropped.toList.contains c) content.toList)))
  | _ => fault .type "strip arg must be None or str"

/-- A bound of a part of a text: an integer, or nothing. -/
def partBound (default : Int) (value : Value) : Except Error Int :=
  match value with
  | .null => .ok default
  | _ => match value.asInt? with
    | some n => .ok n
    | none => fault .type "slice indices must be integers or None"

/-- The part of a sequence between two bounds, and where it begins; nothing when the first bound lies
beyond the second or the end. -/
def partBetween {α : Type} (items : List α) (start stop : Int) : Option (Nat × List α) :=
  let count : Int := items.length
  let stop := if stop > count then count else if stop < 0 then max 0 (stop + count) else stop
  let start := if start < 0 then max 0 (start + count) else start
  if start > stop then none
  else some (start.toNat, (items.take stop.toNat).drop start.toNat)

def partOf (content : String) : List Value → Except Error (Option (Nat × List Char))
  | [] => .ok (partBetween content.toList 0 content.length)
  | [start] => do return partBetween content.toList (← partBound 0 start) content.length
  | [start, stop] => do
    let first ← partBound 0 start
    return partBetween content.toList first (← partBound content.length stop)
  | _ => wrongArguments "slice"

def affixed (test : List Char → List Char → Bool) (part : Option (Nat × List Char))
    (affix : String) : Bool :=
  part.any fun part => test affix.toList part.2

def anyAffix (test : List Char → List Char → Bool) (part : Option (Nat × List Char)) :
    List Value → Except Error Bool
  | [] => .ok false
  | .str affix :: rest =>
    if affixed test part affix then .ok true else anyAffix test part rest
  | _ :: _ => fault .type "tuple for startswith must only contain str"

def hasAffix (test : List Char → List Char → Bool) (content : String) (affix : Value)
    (bounds : List Value) : Except Error Value := do
  let part ← partOf content bounds
  match affix with
  | .str found => return .bool (affixed test part found)
  | .tuple found => return .bool (← anyAffix test part found)
  | _ => fault .type "first arg must be str or a tuple of str"

def found (content : String) (word : Value) (bounds : List Value) : Except Error Value :=
  match word with
  | .str word => do
    match ← partOf content bounds with
    | none => return .int (-1)
    | some (start, part) =>
      match findFrom word.toList start part with
      | some position => return .int position
      | none => return .int (-1)
  | _ => fault .type "must be str"

def counted (content : String) (word : Value) (bounds : List Value) : Except Error Value :=
  match word with
  | .str word => do
    match ← partOf content bounds with
    | none => return .int 0
    | some (_, part) => return .int (countOf word.toList part)
  | _ => fault .type "must be str"

def texts (parts : List (List Char)) : Value :=
  .list (parts.map fun part => .str (String.ofList part))

def split (content : String) (separator most : Value) : Except Error Value :=
  match most.asInt? with
  | none => fault .type "the number of cuts must be an integer"
  | some n =>
    let cuts : Option Nat := if n < 0 then none else some n.toNat
    match separator with
    | .null => .ok (texts (splitAtBlanks cuts content.toList))
    | .str word =>
      if word.isEmpty then fault .value "empty separator"
      else .ok (texts (splitAtWord word.toList cuts content.toList))
    | _ => fault .type "must be str or None"

def splitBy (content : String) (arguments : List Value) (named : List (String × Value)) :
    Except Error Value :=
  if arguments.length + named.length > 2 ∨
      !named.all (fun argument => argument.1 == "sep" || argument.1 == "maxsplit") then
    wrongArguments "split"
  else if !arguments.isEmpty ∧ (named.lookup "sep").isSome then wrongArguments "split"
  else
    split content ((arguments.head? <|> named.lookup "sep").getD .null)
      ((arguments[1]? <|> named.lookup "maxsplit").getD (.int (-1)))

def textParts : List Value → Except Error (List String)
  | [] => .ok []
  | .str part :: rest => (textParts rest).map (part :: ·)
  | _ :: _ => fault .type "sequence item: expected str instance"

def allOf (test : Char → Bool) (content : String) : Value :=
  .bool (!content.isEmpty && content.toList.all test)

def isLetterOrNumber (c : Char) : Bool :=
  isLetter c || isDecimal c || isDigit c || isNumeric c

def onText (content name : String) (arguments : List Value) : Draw Value :=
  match name, arguments with
  | "lower", [] => return .str (lower content)
  | "upper", [] => return .str (upper content)
  | "title", [] => return .str (title content)
  | "capitalize", [] => return .str (capitalize content)
  | "strip", [] => stripped trimBoth content .null
  | "strip", [drop] => stripped trimBoth content drop
  | "lstrip", [] => stripped trimLeft content .null
  | "lstrip", [drop] => stripped trimLeft content drop
  | "rstrip", [] => stripped trimRight content .null
  | "rstrip", [drop] => stripped trimRight content drop
  | "startswith", affix :: bounds => hasAffix List.isPrefixOf content affix bounds
  | "endswith", affix :: bounds => hasAffix List.isSuffixOf content affix bounds
  | "find", word :: bounds => found content word bounds
  | "count", word :: bounds => counted content word bounds
  | "join", [parts] => do return .str (join content (← textParts (← parts.items)))
  | "isdigit", [] => return allOf isDigit content
  | "isalpha", [] => return allOf isLetter content
  | "isalnum", [] => return allOf isLetterOrNumber content
  | _, _ => wrongArguments name

/-! ## Lists and tuples -/

def position? (value : Value) : Except Error Int :=
  match value.asInt? with
  | some n => .ok n
  | none => fault .type "slice indices must be integers"

/-- The place, counted on from `place`, of the first equal of the value, if there is one; nothing when a
comparison fails before. -/
def placeOf? (value : Value) : (place : Nat) → List Value → Option (Option Nat)
  | _, [] => some none
  | place, item :: rest =>
    match Value.equal? item value with
    | none => none
    | some true => some (some place)
    | some false => placeOf? value (place + 1) rest

/-- The number of equals of the value; nothing when a comparison fails. -/
def countOf? (value : Value) (items : List Value) : Option Nat :=
  items.foldlM (fun count item => (Value.equal? item value).map fun found =>
    if found then count + 1 else count) 0

/-- The first position from `start` and before `stop` that holds an equal of the value. -/
def indexOf (items : List Value) (value : Value) (start stop : Int) : Except Error Value :=
  let count : Int := items.length
  let bound (n : Int) : Nat := if n < 0 then (n + count).toNat else n.toNat
  let first := bound start
  let part := (items.take (bound stop)).drop first
  match placeOf? value first part with
  | none => fault .type "a comparison fails"
  | some (some place) => .ok (.int place)
  | some none => fault .value (value.written ++ " is not in list")

def onSequence (items : List Value) (name : String) (arguments : List Value) :
    Except Error Value :=
  match name, arguments with
  | "count", [value] => (Value.compared (countOf? value items)).map fun count => .int count
  | "index", [value] => indexOf items value 0 items.length
  | "index", [value, start] => do indexOf items value (← position? start) items.length
  | "index", [value, start, stop] => do
    let first ← position? start
    indexOf items value first (← position? stop)
  | _, _ => wrongArguments name

/-! ## Mappings -/

def stored (entries : List (Value × Value)) (key default : Value) : Except Error Value :=
  if key.hashable then .ok ((Value.lookup? entries key).getD default) else unhashable key

def onMapping (entries : List (Value × Value)) (name : String) (arguments : List Value) :
    Except Error Value :=
  match name, arguments with
  | "get", [key] => stored entries key .null
  | "get", [key, default] => stored entries key default
  | "keys", [] => .ok (.view .keys entries)
  | "values", [] => .ok (.view .values entries)
  | "items", [] => .ok (.view .items entries)
  | _, _ => wrongArguments name

/-! ## Sets -/

def isIn (items : List Value) (value : Value) : Bool :=
  items.any (Value.equal value)

def united (own : List Value) : List Value → Draw (List Value)
  | [] => return Value.distinct own
  | other :: rest => do united (own ++ (← other.takeMembers)) rest

/-- What a set and the items of a value have in common. Of equal ones the item counts, except that a
larger set is only asked for the members of the smaller one. -/
def common (own : List Value) (other : Value) (found : List Value) : List Value :=
  match other with
  | .set .. =>
    if found.length > own.length then own.filter (isIn found) else found.filter (isIn own)
  | _ => Value.distinct (found.filter (isIn own))

def shared (own : List Value) : List Value → Draw (List Value)
  | [] => return own
  | other :: rest => do
    let found ← other.takeMembers
    shared (common own other found) rest

def remaining (own : List Value) : List Value → Draw (List Value)
  | [] => return own
  | other :: rest => do
    let found ← other.takeMembers
    remaining (own.filter fun member => !isIn found member) rest

/-- All items of a value are members; the first that is none ends the search. -/
def covers (own : List Value) (value : Value) : Draw Bool := do
  let iteration ← value.iteration
  let isForeign (item : Value) : Option Bool :=
    if item.hashable then some (!isIn own item) else none
  return !(← Value.compared (← modifyGet (iteration.find? isForeign)))

def onSet (frozen : Bool) (own : List Value) (name : String) (arguments : List Value) :
    Draw Value :=
  match name, arguments with
  | "union", others => do return .set frozen (← united own others)
  | "intersection", others => do return .set frozen (← shared own others)
  | "difference", others => do return .set frozen (← remaining own others)
  | "issubset", [other] => do
    let found ← other.takeMembers
    return .bool (own.all (isIn found))
  | "issuperset", [other] => do return .bool (← covers own other)
  | _, _ => wrongArguments name

/-- Calls a method of a value. Only the splitting of a text takes named arguments. -/
def apply (base : Value) (name : String) (arguments : List Value)
    (named : List (String × Value)) : Draw Value :=
  match base with
  | .str content =>
    if name == "split" then splitBy content arguments named
    else if named.isEmpty then onText content name arguments
    else wrongArguments name
  | _ =>
    if !named.isEmpty then wrongArguments name
    else match base with
      | .list items | .tuple items => onSequence items name arguments
      | .dict entries => onMapping entries name arguments
      | .set frozen own => onSet frozen own name arguments
      | _ => wrongArguments name

end Authorization.Method
