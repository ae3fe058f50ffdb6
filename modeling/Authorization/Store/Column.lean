import Authorization.Error.Basic
import Authorization.Text.Uuid
import Authorization.Value.Equality

/-!
# Columns

A store keeps its records as they are in memory, or as rows of tables. Tables take identifiers in any
spelling of a universally unique identifier, and keep values in columns of four kinds: texts, flags,
integers of 64 bits and documents. What a column does not take is an error, and so is a text that is
asked for and that no column could hold.
-/

namespace Authorization

/-- How a store keeps its records. -/
inductive Backend where
  | memory | tables
deriving DecidableEq, Repr

namespace Backend

/-- The identifier that a value stands for, if it stands for one. -/
def identifier (backend : Backend) (value : Value) : Except Error (Option String) :=
  match backend with
  | .memory => if value.hashable then .ok value.asStr? else unhashable value
  | .tables => .ok (value.text?.bind Text.Uuid.canonical?)

/-- A text that is kept is the one that is wanted. -/
def matchesText (backend : Backend) (kept : String) (wanted : Value) : Bool :=
  match backend, wanted with
  | .memory, _ => wanted.equal (.str kept)
  | .tables, .null => false
  | .tables, _ => wanted.text == kept

end Backend

namespace Column

/-- A value in a column of texts; nothing stays nothing. -/
def text (value : Value) : Except Error Value :=
  match value with
  | .null => .ok .null
  | _ => (Value.toText value).map Value.str

/-- Texts are written in a code that has no place for half of a pair. -/
def encoded (values : List Value) : Except Error Unit :=
  if values.any fun value => value.asStr?.any Text.holdsHalf then
    fault .unencodable "half of a pair stands alone"
  else .ok ()

/-- What is asked of columns of texts is converted and encoded like what is kept in them. -/
def asked (wanted : List Value) : Except Error Unit := do
  encoded (← wanted.mapM text)

/-- A value in a column of flags; nothing stays nothing. -/
def flag (value : Value) : Except Error Value :=
  if value.equal .null then .ok .null
  else if value.equal (.bool true) || ["t", "True", "1"].any (fun t => value.equal (.str t)) then
    .ok (.bool true)
  else if value.equal (.bool false) || ["f", "False", "0"].any (fun t => value.equal (.str t)) then
    .ok (.bool false)
  else fault .validation "the value must be either true or false"

/-- A value in a column that must not hold nothing. -/
def required (value : Value) : Except Error Value :=
  match value with
  | .null => fault .integrity "the column must not be empty"
  | _ => .ok value

/-- The greatest integer of a column of integers. -/
def maxInteger : Int := Nat.pow 2 63 - 1

/-- An integer in a column of integers. -/
def integer (n : Int) : Except Error Int :=
  if -maxInteger - 1 ≤ n ∧ n ≤ maxInteger then .ok n
  else fault .overflow "the integer is too large for its column"

/-! ## Documents -/

/-- The text of a number as a key of a document: what is no number or infinite has a word of its own. -/
def floatKey (number : Float) : String :=
  match Number.Binary.ofFloat number with
  | .undefined => "NaN"
  | .infinite negative => if negative then "-Infinity" else "Infinity"
  | .finite .. => Number.floatText number

/-- A key of a document, as a text. -/
def documentKey (key : Value) : Except Error String :=
  match key with
  | .str text => .ok text
  | .bool flag => .ok (if flag then "true" else "false")
  | .null => .ok "null"
  | .int _ => key.toText
  | .float number => .ok (floatKey number)
  | _ => fault .type "keys must be texts, numbers, truth values or nothing"

mutual

/-- A value as a document: sequences become lists, and keys become texts. -/
def document : Value → Except Error Value
  | .null => .ok .null
  | .bool flag => .ok (.bool flag)
  | .int number => (Value.toText (.int number)).map fun _ => .int number
  | .float number => .ok (.float number)
  | .str text => .ok (.str text)
  | .list items => (documentItems items).map .list
  | .tuple items => (documentItems items).map .list
  | .dict entries => (documentEntries entries []).map .dict
  | value => fault .type ("Object of type " ++ value.kindName ++ " is not JSON serializable")

def documentItems : List Value → Except Error (List Value)
  | [] => .ok []
  | item :: rest => do
    let first ← document item
    return first :: (← documentItems rest)

def documentEntries : List (Value × Value) → List (Value × Value) →
    Except Error (List (Value × Value))
  | [], found => .ok found
  | (key, value) :: rest, found => do
    let name ← documentKey key
    let content ← document value
    documentEntries rest (Value.store (.str name) content found)

end

mutual

/-- A document holds finite numbers only. -/
def isFinite : Value → Bool
  | .float number => number.isFinite
  | .list items => areFinite items
  | .dict entries => entriesAreFinite entries
  | _ => true

def areFinite : List Value → Bool
  | [] => true
  | item :: rest => isFinite item && areFinite rest

def entriesAreFinite : List (Value × Value) → Bool
  | [] => true
  | (_, value) :: rest => isFinite value && entriesAreFinite rest

end

/-- A document in a column of documents. -/
def finite (value : Value) : Except Error Value :=
  if isFinite value then .ok value else fault .integrity "the document is not well formed"

end Column

/-- Columns of texts can be asked for some values; memory can be asked for everything. -/
def Backend.asks (backend : Backend) (wanted : List Value) : Except Error Unit :=
  match backend with
  | .memory => .ok ()
  | .tables => Column.asked wanted

end Authorization
