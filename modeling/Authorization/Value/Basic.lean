import Authorization.Time.Instant

/-!
# Values

Configurations, attributes and scripts are dynamically typed: one type holds everything a rule can
see or compute. Values do not change once made. A list, a tuple, a set or a mapping keeps its members
in the order in which they were put in, and no set or mapping holds two equal members or keys. The
one kind with a state is a one-shot sequence: the value holds its items, and how many of them have
been taken is recorded outside (`Authorization.Value.Cursors`).
-/

namespace Authorization

/-- The functions that a script may call by name. -/
inductive Builtin where
  | len | str | int | float | bool | abs | min | max | sum | any | all | sorted | round
  | list | tuple | set | dict | range
deriving DecidableEq, Repr

/-- The records of the access model that may occur as values. -/
inductive RecordKind where
  | principal | role | permission | policy | rule | entry | limits | attributes
deriving DecidableEq, Repr

/-- The three ways to look at a mapping as a sequence. -/
inductive ViewKind where
  | keys | values | items
deriving DecidableEq, Repr

/-- A dynamically typed value. Objects, functions and one-shot sequences carry a tag that stands for
their identity. -/
inductive Value where
  | null
  | bool (flag : Bool)
  | int (number : Int)
  | float (number : Float)
  | complex (real imaginary : Float)
  | str (text : String)
  | bytes (octets : List UInt8)
  | list (items : List Value)
  | tuple (items : List Value)
  | set (frozen : Bool) (members : List Value)
  | dict (entries : List (Value × Value))
  | proxy (entries : List (Value × Value))
  | view (kind : ViewKind) (entries : List (Value × Value))
  | range (start stop step : Int)
  | slice (lower upper step : Value)
  | ellipsis
  | builtin (function : Builtin)
  | function (tag : Nat) (name : String)
  | method (name : String)
  | object (tag : Nat) (attributes : List (String × Value))
  | oneShot (tag : Nat) (items : List Value)
  | instant (time : Time.Instant)
  | duration (span : Time.Duration)
  /-- A distance from universal time, in microseconds. -/
  | zone (offset : Int)
  | record (kind : RecordKind) (fields : List (String × Value))
deriving Inhabited

namespace Builtin

/-- All functions, in the order in which they are listed. -/
def listing : List Builtin :=
  [.len, .str, .int, .float, .bool, .abs, .min, .max, .sum, .any, .all, .sorted, .round,
   .list, .tuple, .set, .dict, .range]

/-- The name by which a script calls the function. -/
def name : Builtin → String
  | .len => "len"
  | .str => "str"
  | .int => "int"
  | .float => "float"
  | .bool => "bool"
  | .abs => "abs"
  | .min => "min"
  | .max => "max"
  | .sum => "sum"
  | .any => "any"
  | .all => "all"
  | .sorted => "sorted"
  | .round => "round"
  | .list => "list"
  | .tuple => "tuple"
  | .set => "set"
  | .dict => "dict"
  | .range => "range"

/-- The function of a name. -/
def ofName? (name : String) : Option Builtin :=
  listing.find? fun function => function.name == name

/-- Functions that are also the type of the values they make. -/
def isType : Builtin → Bool
  | .str | .int | .float | .bool | .list | .tuple | .set | .dict | .range => true
  | _ => false

/-- Functions that go through the whole of their first argument. -/
def isMaterializing : Builtin → Bool
  | .list | .tuple | .set | .dict | .sorted | .sum | .min | .max | .any | .all => true
  | _ => false

end Builtin

namespace RecordKind

/-- The name of the kind, as error messages and the text of a record give it. -/
def name : RecordKind → String
  | .principal => "Principal"
  | .role => "Role"
  | .permission => "Permission"
  | .policy => "DynamicPolicy"
  | .rule => "PolicyRule"
  | .entry => "AccessLogEntry"
  | .limits => "SandboxLimits"
  | .attributes => "PolicyAttributes"

/-- Operations of the kind; they can be seen as attributes but not called by a script. -/
def operations : RecordKind → List String
  | .principal => ["as_dict"]
  | .role => ["grants", "sort_key"]
  | .permission => ["sort_key"]
  | .policy => ["with_changes", "sort_key"]
  | .rule => ["with_changes", "config_dict", "sort_key"]
  | .entry => []
  | .limits => ["from_mapping"]
  | .attributes => []

end RecordKind

/-- The number of members of an arithmetic progression. -/
def rangeLength (start stop step : Int) : Nat :=
  if step > 0 then
    if start < stop then ((stop - start - 1) / step + 1).toNat else 0
  else if step < 0 then
    if stop < start then ((start - stop - 1) / (-step) + 1).toNat else 0
  else 0

/-- An integer is a member of an arithmetic progression. -/
def inRange (start stop step n : Int) : Bool :=
  if step > 0 then start ≤ n && n < stop && (n - start) % step == 0
  else if step < 0 then stop < n && n ≤ start && (start - n) % (-step) == 0
  else false

namespace Value

/-- The name of a value's kind. -/
def kindName : Value → String
  | .null => "NoneType"
  | .bool _ => "bool"
  | .int _ => "int"
  | .float _ => "float"
  | .complex .. => "complex"
  | .str _ => "str"
  | .bytes _ => "bytes"
  | .list _ => "list"
  | .tuple _ => "tuple"
  | .set frozen _ => if frozen then "frozenset" else "set"
  | .dict _ => "dict"
  | .proxy _ => "mappingproxy"
  | .view .keys _ => "dict_keys"
  | .view .values _ => "dict_values"
  | .view .items _ => "dict_items"
  | .range .. => "range"
  | .slice .. => "slice"
  | .ellipsis => "ellipsis"
  | .builtin f => if f.isType then "type" else "builtin_function_or_method"
  | .function .. => "function"
  | .method _ => "builtin_function_or_method"
  | .object .. => "Obj"
  | .oneShot .. => "list_iterator"
  | .instant _ => "datetime"
  | .duration _ => "timedelta"
  | .zone _ => "timezone"
  | .record kind _ => kind.name

/-- The number of members of a value that has members. -/
def length? : Value → Option Nat
  | .str text => some text.length
  | .bytes octets => some octets.length
  | .list items | .tuple items | .set _ items => some items.length
  | .dict entries | .proxy entries | .view _ entries => some entries.length
  | .range start stop step => some (rangeLength start stop step)
  | _ => none

/-- A value counts as true unless it is nothing, false, zero or empty. -/
def truthy : Value → Bool
  | .null => false
  | .bool flag => flag
  | .int number => number != 0
  | .float number => number != 0.0
  | .complex real imaginary => real != 0.0 || imaginary != 0.0
  | .duration span => span.micros != 0
  | value => match value.length? with
    | some count => count != 0
    | none => true

/-- The entries of a mapping. -/
def entries? : Value → Option (List (Value × Value))
  | .dict entries | .proxy entries => some entries
  | _ => none

/-- An integer or a truth value, as an integer. -/
def asInt? : Value → Option Int
  | .int number => some number
  | .bool flag => some (if flag then 1 else 0)
  | _ => none

/-- The text of a text value. -/
def asStr? : Value → Option String
  | .str text => some text
  | _ => none

/-- A value that could be called. -/
def isCallable : Value → Bool
  | .builtin _ | .function .. | .method _ => true
  | _ => false

/-- The truth value of a value that is one. -/
def asBool? : Value → Option Bool
  | .bool flag => some flag
  | _ => none

/-- The text in a value, unless it is nothing: for optional texts. -/
def ofOption : Option String → Value
  | some text => .str text
  | none => .null

end Value

end Authorization
