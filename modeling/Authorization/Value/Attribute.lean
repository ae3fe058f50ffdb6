import Authorization.Value.Equality

/-!
# Attributes

What can be read from a value by name. Objects and records have attributes of their own, and values of
the plain kinds have a few: a number has a real part, a range has ends and a step. An operation of a value
is an attribute too: it can be seen, and then be refused, but never be called through its name.
-/

namespace Authorization.Value

private def textOperations : List String :=
  ["capitalize", "casefold", "center", "count", "encode", "endswith", "expandtabs", "find", "format",
   "format_map", "index", "isalnum", "isalpha", "isascii", "isdecimal", "isdigit", "isidentifier",
   "islower", "isnumeric", "isprintable", "isspace", "istitle", "isupper", "join", "ljust", "lower",
   "lstrip", "maketrans", "partition", "removeprefix", "removesuffix", "replace", "rfind", "rindex",
   "rjust", "rpartition", "rsplit", "rstrip", "split", "splitlines", "startswith", "strip",
   "swapcase", "title", "translate", "upper", "zfill"]

private def octetOperations : List String :=
  ["capitalize", "center", "count", "decode", "endswith", "expandtabs", "find", "fromhex", "hex",
   "index", "isalnum", "isalpha", "isascii", "isdigit", "islower", "isspace", "istitle", "isupper",
   "join", "ljust", "lower", "lstrip", "maketrans", "partition", "removeprefix", "removesuffix",
   "replace", "rfind", "rindex", "rjust", "rpartition", "rsplit", "rstrip", "split", "splitlines",
   "startswith", "strip", "swapcase", "title", "translate", "upper", "zfill"]

private def instantOperations : List String :=
  ["astimezone", "combine", "ctime", "date", "dst", "fromisocalendar", "fromisoformat",
   "fromordinal", "fromtimestamp", "isocalendar", "isoformat", "isoweekday", "now", "replace",
   "strftime", "strptime", "time", "timestamp", "timetuple", "timetz", "today", "toordinal",
   "tzname", "utcfromtimestamp", "utcnow", "utcoffset", "utctimetuple", "weekday"]

private def integerOperations : List String :=
  ["as_integer_ratio", "bit_count", "bit_length", "conjugate", "from_bytes", "to_bytes"]

private def decimalOperations : List String :=
  ["as_integer_ratio", "conjugate", "fromhex", "hex", "is_integer"]

private def listOperations : List String :=
  ["append", "clear", "copy", "count", "extend", "index", "insert", "pop", "remove", "reverse", "sort"]

private def sequenceOperations : List String :=
  ["count", "index"]

private def frozenOperations : List String :=
  ["copy", "difference", "intersection", "isdisjoint", "issubset", "issuperset",
   "symmetric_difference", "union"]

private def setOperations : List String :=
  frozenOperations ++
    ["add", "clear", "difference_update", "discard", "intersection_update", "pop", "remove",
     "symmetric_difference_update", "update"]

private def typeOperations : Builtin → List String
  | .str => textOperations
  | .int | .bool => integerOperations
  | .float => decimalOperations
  | .list => listOperations
  | .tuple | .range => sequenceOperations
  | .set => setOperations
  | .dict =>
    ["clear", "copy", "fromkeys", "get", "items", "keys", "pop", "popitem", "setdefault", "update",
     "values"]
  | _ => []

/-- What a type has in place of the properties of its values. It counts as an operation, although it
cannot be called. -/
private def typeProperties : Builtin → List String
  | .int | .bool => ["real", "imag", "numerator", "denominator"]
  | .float => ["real", "imag"]
  | .range => ["start", "stop", "step"]
  | _ => []

/-- The operations that can be seen among the attributes of a value. -/
def operations : Value → List String
  | .bool _ | .int _ => integerOperations
  | .float _ => decimalOperations
  | .str _ => textOperations
  | .bytes _ => octetOperations
  | .list _ => listOperations
  | .tuple _ => sequenceOperations
  | .set true _ => frozenOperations
  | .set false _ => setOperations
  | .slice .. => ["indices"]
  | .complex .. => ["conjugate"]
  | .range .. => sequenceOperations
  | .view .values _ => []
  | .view _ _ => ["isdisjoint"]
  | .builtin f =>
    if f.isType then typeOperations f ++ typeProperties f ++ ["mro"] else []
  | .instant _ => instantOperations
  | .duration _ => ["total_seconds"]
  | .zone _ => ["dst", "fromutc", "tzname", "utcoffset"]
  | .record kind _ => kind.operations
  | _ => []

/-- The action that stands for all actions on a resource. -/
def wildcardAction : String := "manage"

/-- The attributes of a value that are not operations. -/
def properties : Value → List (String × Value)
  | .bool flag =>
    [("real", .int flag.toInt), ("imag", .int 0), ("numerator", .int flag.toInt),
     ("denominator", .int 1)]
  | .int n => [("real", .int n), ("imag", .int 0), ("numerator", .int n), ("denominator", .int 1)]
  | .float x => [("real", .float x), ("imag", .float 0.0)]
  | .complex re im => [("real", .float re), ("imag", .float im)]
  | .slice lower upper step => [("start", lower), ("stop", upper), ("step", step)]
  | .range start stop step => [("start", .int start), ("stop", .int stop), ("step", .int step)]
  | .view _ entries => [("mapping", .proxy entries)]
  | .object _ attributes => attributes
  | .instant time =>
    let c := time.calendar
    [("year", .int c.year), ("month", .int c.month), ("day", .int c.day), ("hour", .int c.hour),
     ("minute", .int c.minute), ("second", .int c.second), ("microsecond", .int c.micro),
     ("fold", .int 0), ("tzinfo", (time.offset.map Value.zone).getD .null),
     ("min", .instant Time.Instant.first), ("max", .instant Time.Instant.last),
     ("resolution", .duration ⟨1⟩)]
  | .duration span =>
    [("days", .int span.days), ("seconds", .int span.seconds),
     ("microseconds", .int span.microseconds), ("min", .duration Time.Duration.least),
     ("max", .duration Time.Duration.greatest), ("resolution", .duration ⟨1⟩)]
  | .zone _ =>
    let farthest := 86340 * Time.microsPerSecond
    [("utc", .zone 0), ("min", .zone (-farthest)), ("max", .zone farthest)]
  | .record .permission fields =>
    fields ++ [("is_wildcard", .bool ((fields.lookup "action").any (equal (.str wildcardAction))))]
  | .record _ fields => fields
  | _ => []

/-- The attribute of a name. -/
def attribute? (value : Value) (name : String) : Option Value :=
  match value.properties.lookup name with
  | some found => some found
  | none => if value.operations.contains name then some (.method name) else none

end Authorization.Value
