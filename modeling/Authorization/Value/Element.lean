import Authorization.Error.Basic
import Authorization.Value.Equality

/-!
# Elements and slices

Positions in a sequence count from zero, and negative ones from its end. A slice goes from a lower to
an upper bound in steps; bounds beyond the ends are brought back to them.
-/

namespace Authorization.Value

/-- A bound of a slice: an integer, or nothing. -/
def bound? (value : Value) : Except Error (Option Int) :=
  match value with
  | .null => .ok none
  | _ => match value.asInt? with
    | some n => .ok (some n)
    | none =>
      fault .type "slice indices must be integers or None"

/-- Brings a bound into the range from `least` to `most`; a negative one counts from the end. -/
def clamped (length least most : Int) (bound : Int) : Int :=
  max least (min most (if bound < 0 then bound + length else bound))

/-- The positions that a slice of a sequence of some length takes. -/
def slicePositions (length : Nat) (lower upper step : Value) : Except Error (List Nat) := do
  let stride := (← bound? step).getD 1
  if stride = 0 then fault .value "slice step cannot be zero"
  else
    let count : Int := length
    let least : Int := if stride < 0 then -1 else 0
    let most : Int := if stride < 0 then count - 1 else count
    let start := match ← bound? lower with
      | some bound => clamped count least most bound
      | none => if stride < 0 then most else least
    let stop := match ← bound? upper with
      | some bound => clamped count least most bound
      | none => if stride < 0 then least else most
    return (List.range (rangeLength start stop stride)).map fun (i : Nat) => (start + stride * i).toNat

/-- The item at a position that may count from the end. -/
def itemAt {α : Type} (kind : String) (items : List α) (position : Int) : Except Error α :=
  let place := if position < 0 then position + items.length else position
  match if place < 0 then none else items[place.toNat]? with
  | some item => .ok item
  | none => fault .index (kind ++ " index out of range")

def sliceOf {α : Type} (items : List α) (lower upper step : Value) :
    Except Error (List α) := do
  let positions ← slicePositions items.length lower upper step
  let array := items.toArray
  return positions.filterMap fun position => array[position]?

/-- An item or a slice of a sequence, put together again by its kind. -/
def ofSequence {α : Type} (kind : String) (items : List α) (single : α → Value)
    (several : List α → Value) (index : Value) : Except Error Value :=
  match index with
  | .slice lower upper step => (sliceOf items lower upper step).map several
  | _ => match index.asInt? with
    | some position => (itemAt kind items position).map single
    | none =>
      fault .type (kind ++ " indices must be integers or slices, not " ++ index.kindName)

/-- The error for a key that a mapping does not have. Its text is the key as it is written in a text. -/
def missingKey (key : Value) : Error :=
  if key.holdsLongInt then .foreign FaultKind.key.label (.error .value)
  else .operation .key key.written

/-- The value under a key. -/
def entryAt (entries : List (Value × Value)) (key : Value) : Except Error Value :=
  if !key.hashable then unhashable key
  else match lookup? entries key with
    | some value => .ok value
    | none => .error (missingKey key)

/-- The element of a mapping, a text, a list or a tuple. -/
def element (base index : Value) : Except Error Value :=
  match base with
  | .dict entries | .proxy entries => entryAt entries index
  | .str content =>
    ofSequence "string" content.toList (fun c => .str (String.singleton c))
      (fun chars => .str (String.ofList chars)) index
  | .list elements => ofSequence "list" elements id .list index
  | .tuple elements => ofSequence "tuple" elements id .tuple index
  | _ => fault .type ("'" ++ base.kindName ++ "' object is not subscriptable")

end Authorization.Value
