import Authorization.Text.Basic
import Authorization.Value.Equality

/-!
# Order of values

Real numbers are ordered by exact value, texts by code point, lists and tuples by their first
difference, sets by inclusion, instants by universal time, durations by length. Values of other kinds,
and values of different kinds, have no order.
-/

namespace Authorization.Value

/-- The four order relations. -/
inductive Relation where
  | less | lessOrEqual | greater | greaterOrEqual
deriving DecidableEq, Repr

/-- A relation holds for the outcome of a comparison. -/
def Relation.holds (relation : Relation) (outcome : Ordering) : Bool :=
  match relation with
  | .less => outcome == .lt
  | .lessOrEqual => outcome != .gt
  | .greater => outcome == .gt
  | .greaterOrEqual => outcome != .lt

def compareLists {α : Type} (compareOne : α → α → Ordering) : List α → List α → Ordering
  | [], [] => .eq
  | [], _ :: _ => .lt
  | _ :: _, [] => .gt
  | a :: as, b :: bs => (compareOne a b).then (compareLists compareOne as bs)

/-- Compares two texts by the code points of their characters. -/
def compareTexts (a b : String) : Ordering :=
  compareLists (fun c d => compare (Text.codeOf c) (Text.codeOf d)) a.toList b.toList

/-- Every member of a set or a view is in a list of members, which may be the entries of a mapping. -/
def isWithin? (a : Value) (amongItems : Bool) (members : List Value) : Option Bool :=
  match a with
  | .set _ own => areAmong? own members
  | .view .keys entries => keysAmong? entries members
  | .view .items entries => pairsAmong? amongItems entries members
  | _ => none

def relateSets? (relation : Relation) (a b : Value) (own others : List Value) :
    Option Bool :=
  let below := isWithin? a b.isItemView others
  let above := isWithin? b a.isItemView own
  match relation with
  | .less => if own.length < others.length then below else some false
  | .lessOrEqual => if own.length ≤ others.length then below else some false
  | .greater => if others.length < own.length then above else some false
  | .greaterOrEqual => if others.length ≤ own.length then above else some false

mutual

/-- Decides an order relation between two values; nothing when they have no order. -/
def related? (relation : Relation) : Value → Value → Option Bool
  | .str a, .str b => some (relation.holds (compareTexts a b))
  | .bytes a, .bytes b =>
    some (relation.holds (compareLists (fun c d => compare c.toNat d.toNat) a b))
  | .list a, .list b => relatedItems? relation a b
  | .tuple a, .tuple b => relatedItems? relation a b
  | .instant a, .instant b => (a.since? b).map fun span => relation.holds (compare span.micros 0)
  | .duration a, .duration b => some (relation.holds (compare a.micros b.micros))
  | a, b =>
    match setMembers? a, setMembers? b with
    | some own, some others => relateSets? relation a b own others
    | _, _ =>
      if a.isReal && b.isReal then
        some (match compareNumbers? a b with
          | some outcome => relation.holds outcome
          | none => false)
      else none

/-- Relates two sequences by their first different members, or by length when one continues the
other. -/
def relatedItems? (relation : Relation) : List Value → List Value → Option Bool
  | [], [] => some (relation.holds .eq)
  | [], _ :: _ => some (relation.holds .lt)
  | _ :: _, [] => some (relation.holds .gt)
  | a :: as, b :: bs =>
    match equal? a b with
    | some true => relatedItems? relation as bs
    | some false => related? relation a b
    | none => none

end

/-- The part of a list that comes before the place of a value: the value is put before the first
member of the upper half it is less than, as a search by halves finds it. `steps` bounds the
search. -/
def insertionPoint? (less : Value → Value → Option Bool) (sorted : Array (Value × Value))
    (key : Value) : (steps low high : Nat) → Option Nat
  | 0, low, _ => some low
  | steps + 1, low, high =>
    if low < high then
      let middle := (low + high) / 2
      match sorted[middle]? with
      | none => some low
      | some (key', _) =>
        match less key key' with
        | none => none
        | some true => insertionPoint? less sorted key steps low middle
        | some false => insertionPoint? less sorted key steps (middle + 1) high
    else some low

def insertSorted? (less : Value → Value → Option Bool) (sorted : Array (Value × Value))
    (entry : Value × Value) : Option (Array (Value × Value)) :=
  (insertionPoint? less sorted entry.1 sorted.size 0 sorted.size).map fun place =>
    sorted.insertIdxIfInBounds place entry

/-- The length of the leading run: the longest start that never descends, or, when the first step
descends, the longest start that always does. The flag says which. -/
def leadingRun? (less : Value → Value → Option Bool) :
    List (Value × Value) → Option (Nat × Bool)
  | a :: b :: rest =>
    match less b.1 a.1 with
    | none => none
    | some descending =>
      let rec extend (count : Nat) (last : Value) : List (Value × Value) → Option (Nat × Bool)
        | [] => some (count, descending)
        | next :: more =>
          match less next.1 last with
          | none => none
          | some down => if down == descending then extend (count + 1) next.1 more
            else some (count, descending)
      extend 2 b.1 rest
  | short => some (short.length, false)

/-- Sorts entries by key: the leading run is kept (reversed when it descends), and every further
entry is inserted after those it is not less than. Equal keys keep their order. -/
def sortEntries? (entries : List (Value × Value)) : Option (List (Value × Value)) :=
  let less := related? .less
  match leadingRun? less entries with
  | none => none
  | some (count, descending) =>
    let run := entries.take count
    let start := (if descending then run.reverse else run).toArray
    ((entries.drop count).foldlM (insertSorted? less) start).map Array.toList

end Authorization.Value
