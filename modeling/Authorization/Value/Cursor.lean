import Authorization.Error.Basic
import Authorization.Value.Equality

/-!
# Items of values

How the items of a value are taken one after the other, and how a value is looked for among them.
-/

/-!
## Taking items from values

A value that can be gone through yields its items one after the other. The items of a one-shot
sequence are taken once: the cursors remember how many are gone. An operation that may take such
items, and may fail, is a `Draw`; what it took stays taken when it fails.
-/

namespace Authorization

/-- How many items of each one-shot sequence have been taken, by the tag of the sequence. -/
structure Cursors where
  taken : List (Nat × Nat) := []

namespace Cursors

/-- The number of items taken from a sequence. -/
def position (cursors : Cursors) (tag : Nat) : Nat :=
  (cursors.taken.lookup tag).getD 0

/-- The cursors after a sequence has been gone through up to a position. -/
def moveTo (cursors : Cursors) (tag position : Nat) : Cursors :=
  ⟨(tag, position) :: cursors.taken.filter (·.1 != tag)⟩

end Cursors

/-- An operation on values that may fail and may take items from one-shot sequences. -/
abbrev Draw := ExceptT Error (StateM Cursors)

/-- The items that a value still has to yield. -/
inductive Iteration where
  | listed (items : List Value)
  | counting (next step : Int) (count : Nat)
  | shared (tag : Nat) (items : List Value)

namespace Iteration

/-- The next item, if there is one, and what comes after it. -/
def next? (cursors : Cursors) : Iteration → Option (Value × Iteration) × Cursors
  | .listed [] => (none, cursors)
  | .listed (item :: rest) => (some (item, .listed rest), cursors)
  | .counting _ _ 0 => (none, cursors)
  | .counting next step (count + 1) =>
    (some (.int next, .counting (next + step) step count), cursors)
  | .shared tag items =>
    let position := cursors.position tag
    match items[position]? with
    | some item => (some (item, .shared tag items), cursors.moveTo tag (position + 1))
    | none => (none, cursors)

def countUp (step : Int) : (next : Int) → (count : Nat) → List Value
  | _, 0 => []
  | next, count + 1 => .int next :: countUp step (next + step) count

/-- All items that are left. -/
def all (cursors : Cursors) : Iteration → List Value × Cursors
  | .listed items => (items, cursors)
  | .counting next step count => (countUp step next count, cursors)
  | .shared tag items =>
    (items.drop (cursors.position tag), cursors.moveTo tag items.length)

/-- Takes a number of items. -/
def skip (count : Nat) (cursors : Cursors) : Iteration → Cursors
  | .shared tag items => cursors.moveTo tag (min items.length (cursors.position tag + count))
  | _ => cursors

end Iteration

namespace Value

/-- The items of a value that can be gone through. -/
def iteration? : Value → Option Iteration
  | .str text => some (.listed (text.toList.map fun c => .str (String.singleton c)))
  | .bytes octets => some (.listed (octets.map fun octet => .int octet.toNat))
  | .list items | .tuple items | .set _ items => some (.listed items)
  | .dict entries | .proxy entries | .view .keys entries => some (.listed (entries.map Prod.fst))
  | .view .values entries => some (.listed (entries.map Prod.snd))
  | .view .items entries =>
    some (.listed (entries.map fun entry => .tuple [entry.1, entry.2]))
  | .range start stop step => some (.counting start step (rangeLength start stop step))
  | .oneShot tag items => some (.shared tag items)
  | _ => none

/-- Starts to go through a value. -/
def iteration (value : Value) : Except Error Iteration :=
  match value.iteration? with
  | some iteration => .ok iteration
  | none => fault .type ("'" ++ value.kindName ++ "' object is not iterable")

/-- Takes all items of a value. -/
def items (value : Value) : Draw (List Value) := do
  let iteration ← value.iteration
  modifyGet iteration.all

/-- Takes all items of a value, each of which has to be hashable. -/
def takeMembers (value : Value) : Draw (List Value) := do
  let iteration ← value.iteration
  let (found, _) := iteration.all (← get)
  let accepted := found.takeWhile hashable
  match found.drop accepted.length with
  | [] =>
    modify (iteration.skip found.length)
    return found
  | item :: _ =>
    modify (iteration.skip (accepted.length + 1))
    unhashable item

end Value

end Authorization

/-!
## Membership and identity

A value is in a text when it occurs there, in a set or a mapping when it equals a member or key, in
any other sequence when it equals one of the items that the sequence yields. Looking for a value in a
one-shot sequence takes items up to the first that is equal.

Identity is no part of a value. The few constants are each one object, and so is everything with a tag;
for other values that do not differ, it has to be said whether they are one object. Membership, and the
equality of containers, take an undefined number for equal to itself when it is one object on both sides.
-/

namespace Authorization

namespace Iteration

/-- The number of items of a list up to the first that ends a search, that one included, and what the
search comes to. A failing test ends it too. -/
def search (test : Value → Option Bool) : List Value → Nat × Option Bool
  | [] => (0, some false)
  | item :: rest =>
    match test item with
    | some false =>
      let (count, outcome) := search test rest
      (count + 1, outcome)
    | outcome => (1, outcome)

/-- Takes items up to the first that a test holds for, and tells whether there is one. -/
def find? (test : Value → Option Bool) (cursors : Cursors) (iteration : Iteration) :
    Option Bool × Cursors :=
  let (items, _) := iteration.all cursors
  let (count, outcome) := search test items
  (outcome, iteration.skip count cursors)

end Iteration

namespace Value

/-- The integer that a number is equal to. -/
def wholeNumber? : Value → Option Int
  | .float number => Number.exactInt? number
  | .complex re im => if im == 0.0 then Number.exactInt? re else none
  | value => value.asInt?

/-- Looks a value up among keys: it must be able to be one. -/
def amongKeys (value : Value) (keys : List Value) : Except Error Bool :=
  if value.hashable then .ok (keys.any (equal value)) else unhashable value

/-- A set may be looked up in a set although it can change: as the set it is at the moment. -/
def amongMembers (value : Value) (members : List Value) : Except Error Bool :=
  match value with
  | .set _ found =>
    if hashableItems found then .ok (members.any (equal value)) else unhashable value
  | _ => amongKeys value members

/-- The outcome of a comparison. -/
def compared {α : Type} (outcome : Option α) : Except Error α :=
  match outcome with
  | some found => .ok found
  | none => fault .type "unhashable type in a comparison"

def amongEntries (value : Value) (entries : List (Value × Value)) : Except Error Bool :=
  match value with
  | .tuple [key, item] =>
    if key.hashable then
      compared <| anyOf entries fun entry => also (equal? key entry.1) fun _ => equal? item entry.2
    else unhashable key
  | _ => .ok false

/-- A value is in a container. -/
def isMember (value container : Value) : Draw Bool :=
  match container with
  | .str content =>
    match value with
    | .str word => return Text.occursIn word.toList content.toList
    | _ =>
      fault .type ("'in <string>' requires string as left operand, not " ++ value.kindName)
  | .bytes octets =>
    match value with
    | .bytes word =>
      return Text.occursIn (word.map fun o => Char.ofNat o.toNat)
        (octets.map fun o => Char.ofNat o.toNat)
    | _ =>
      match value.asInt? with
      | some n =>
        if 0 ≤ n ∧ n < 256 then return octets.any fun octet => octet.toNat == n
        else fault .value "byte must be in range(0, 256)"
      | none => fault .type ("a bytes-like object is required, not '" ++ value.kindName ++ "'")
  | .set _ members => amongMembers value members
  | .dict entries | .proxy entries | .view .keys entries => amongKeys value (entries.map Prod.fst)
  | .view .items entries => amongEntries value entries
  | .range start stop step =>
    return (wholeNumber? value).any fun n => inRange start stop step n
  | _ =>
    match container.iteration? with
    | some iteration => do compared (← modifyGet (iteration.find? (equal? value)))
    | none => fault .type ("argument of type '" ++ container.kindName ++ "' is not iterable")

/-- Two values are one object. Where the values leave it open, it is said. -/
def identical (isOne : Bool) : Value → Value → Bool
  | .null, .null => true
  | .bool a, .bool b => a == b
  | .ellipsis, .ellipsis => true
  | .int a, .int b => a == b && isOne
  | .float a, .float b => a.toBits == b.toBits && isOne
  | .str a, .str b => a == b && isOne
  | .bytes a, .bytes b => a == b && isOne
  | .tuple [], .tuple [] => true
  | .builtin a, .builtin b => a == b
  | .function a _, .function b _ => a == b
  | .object a _, .object b _ => a == b
  | .oneShot a _, .oneShot b _ => a == b
  | a, b => a.kindName == b.kindName && isOne

/-- Undefined numbers stand in both values, and one of them is one object. -/
def share (isOne : Bool) (a b : Value) : Bool :=
  isOne && a.holdsUndefined && b.holdsUndefined

/-- Equality of two values, of which containers may share an undefined number. -/
def equalOrShare? (isOne : Bool) (a b : Value) : Option Bool :=
  (equal? a b).map fun isEqual =>
    isEqual || (share isOne a b && !a.isUndefined && !b.isUndefined)

/-- A value is in a container, with which it may share an undefined number. -/
def isMemberOrShares (isOne : Bool) (value container : Value) : Draw Bool := do
  return (← value.isMember container) || share isOne value container

end Value

end Authorization
