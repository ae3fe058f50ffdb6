import Authorization.Value.Basic

/-!
# Equality of values

Numbers of all kinds are compared by their exact value, so `1`, `1.0` and `true` are equal; lists,
tuples and ranges member by member; sets and mappings without regard to order; objects, functions and
one-shot sequences by identity. Equality of numbers is not reflexive: an undefined double differs from
itself.

A comparison can fail: the entries of a mapping are looked up in a set, and one whose value is not
hashable cannot be. `equal?` tells when it does, and `equal` is for values of which no part is such a
view, as all are that the access model keeps.
-/

namespace Authorization.Value

/-- Compares two real numbers exactly; nothing when one of the values is none, or undefined. -/
def compareNumbers? : Value → Value → Option Ordering
  | .float x, .float y =>
    if x < y then some .lt else if y < x then some .gt else if x == y then some .eq else none
  | .float x, other => other.asInt?.bind fun n => (Number.compareIntFloat n x).map Ordering.swap
  | value, .float y => value.asInt?.bind fun n => Number.compareIntFloat n y
  | value, other => value.asInt?.bind fun n => other.asInt?.map fun m => compare n m

/-- An integer, a truth value or a double. -/
def isReal : Value → Bool
  | .bool _ | .int _ | .float _ => true
  | _ => false

/-- Real and imaginary part of a number. -/
def complexParts? : Value → Option (Value × Float)
  | .complex real imaginary => some (.float real, imaginary)
  | value => if value.isReal then some (value, 0.0) else none

def numbersEqual (a b : Value) : Bool :=
  match complexParts? a, complexParts? b with
  | some (real, imaginary), some (real', imaginary') =>
    imaginary == imaginary' && compareNumbers? real real' == some .eq
  | _, _ => false

/-- The members of a value that behaves as a set. -/
def setMembers? : Value → Option (List Value)
  | .set _ members => some members
  | .view .keys entries => some (entries.map Prod.fst)
  | .view .items entries => some (entries.map fun entry => .tuple [entry.1, entry.2])
  | _ => none

/-- A view of the entries of a mapping. -/
def isItemView : Value → Bool
  | .view .items _ => true
  | _ => false

/-! ## Outcomes that may fail -/

/-- Both hold; the second is only asked when the first does. -/
def also (first : Option Bool) (second : Unit → Option Bool) : Option Bool :=
  match first with
  | some true => second ()
  | _ => first

/-- One of the two holds; the second is only asked when the first does not. -/
def either (first : Option Bool) (second : Unit → Option Bool) : Option Bool :=
  match first with
  | some false => second ()
  | _ => first

/-- A test holds for one of the values, of which the first that it holds for ends the search. -/
def anyOf {α : Type} (values : List α) (test : α → Option Bool) : Option Bool :=
  values.foldl (fun found value => either found fun _ => test value) (some false)

/-! ## Hashable values -/

mutual

/-- A value may be a key or a member of a set when it cannot change and holds only such values. -/
def hashable : Value → Bool
  | .list _ | .dict _ | .proxy _ | .slice .. => false
  | .set frozen _ => frozen
  | .view kind _ => kind == .values
  | .tuple items => hashableItems items
  | .record _ fields => hashableFields fields
  | _ => true

def hashableItems : List Value → Bool
  | [] => true
  | item :: rest => hashable item && hashableItems rest

def hashableFields : List (String × Value) → Bool
  | [] => true
  | (_, value) :: rest => hashable value && hashableFields rest

end

/-! ## Equality -/

mutual

/-- Equality of values; nothing when the comparison fails. -/
def equal? : Value → Value → Option Bool
  | .null, .null => some true
  | .int a, .int b => some (a == b)
  | .str a, .str b => some (a == b)
  | .bytes a, .bytes b => some (a == b)
  | .list a, .list b => if a.length = b.length then equalItems? a b else some false
  | .tuple a, .tuple b => equalItems? a b
  | .set _ a, b =>
    match b with
    | .view .items entries =>
      if a.length = entries.length then
        entries.foldl (fun found entry => also found fun _ =>
          if hashable entry.2 then isAmong? a (.tuple [entry.1, entry.2]) else none) (some true)
      else some false
    | _ =>
      match setMembers? b with
      | some members => if a.length = members.length then areAmong? a members else some false
      | none => some false
  | .view .keys a, b =>
    match setMembers? b with
    | some members => if a.length = members.length then keysAmong? a members else some false
    | none => some false
  | .view .items a, b =>
    match setMembers? b with
    | some members =>
      if a.length = members.length then pairsAmong? (isItemView b) a members else some false
    | none => some false
  | .dict a, b =>
    match b.entries? with
    | some entries => if a.length = entries.length then entriesAmong? a entries else some false
    | none => some false
  | .proxy a, b =>
    match b.entries? with
    | some entries => if a.length = entries.length then entriesAmong? a entries else some false
    | none => some false
  | .range start stop step, .range start' stop' step' =>
    let count := rangeLength start stop step
    some (count == rangeLength start' stop' step' &&
      (count == 0 || (start == start' && (count == 1 || step == step'))))
  | .slice a b c, .slice a' b' c' => also (also (equal? a a') fun _ => equal? b b') fun _ => equal? c c'
  | .ellipsis, .ellipsis => some true
  | .builtin a, .builtin b => some (a == b)
  | .function a _, .function b _ => some (a == b)
  | .method a, .method b => some (a == b)
  | .object a _, .object b _ => some (a == b)
  | .oneShot a _, .oneShot b _ => some (a == b)
  | .instant a, .instant b => some ((a.since? b).any (·.micros == 0))
  | .duration a, .duration b => some (a.micros == b.micros)
  | .zone a, .zone b => some (a == b)
  | .record kind a, .record kind' b => if kind = kind' then equalFields? a b else some false
  | a, b => some (numbersEqual a b)

/-- Sequences are equal when they are so member by member, from the first difference on no more. -/
def equalItems? : List Value → List Value → Option Bool
  | [], [] => some true
  | a :: as, b :: bs => also (equal? a b) fun _ => equalItems? as bs
  | _, _ => some false

/-- A value has an equal in the list. -/
def isAmong? : List Value → Value → Option Bool
  | [], _ => some false
  | a :: as, b => either (equal? a b) fun _ => isAmong? as b

/-- Every value of the first list has an equal in the second. -/
def areAmong? : List Value → List Value → Option Bool
  | [], _ => some true
  | a :: as, bs => also (anyOf bs (equal? a)) fun _ => areAmong? as bs

/-- Every key has an equal in the list. -/
def keysAmong? : List (Value × Value) → List Value → Option Bool
  | [], _ => some true
  | (key, _) :: rest, bs => also (anyOf bs (equal? key)) fun _ => keysAmong? rest bs

/-- Every entry, as a pair, has an equal in the list. To look it up in a list of members, and not of
entries, its value has to be hashable. -/
def pairsAmong? (amongItems : Bool) : List (Value × Value) → List Value → Option Bool
  | [], _ => some true
  | (key, value) :: rest, bs =>
    if !amongItems && !hashable value then none
    else
      also
        (anyOf bs fun b => match b with
          | .tuple [key', value'] => also (equal? key key') fun _ => equal? value value'
          | _ => some false)
        fun _ => pairsAmong? amongItems rest bs

/-- Every entry has one with an equal key and an equal value in the second list. -/
def entriesAmong? : List (Value × Value) → List (Value × Value) → Option Bool
  | [], _ => some true
  | (key, value) :: rest, entries =>
    also (anyOf entries fun entry => also (equal? key entry.1) fun _ => equal? value entry.2)
      fun _ => entriesAmong? rest entries

/-- Fields are equal when they are so one by one, names apart. -/
def equalFields? : List (String × Value) → List (String × Value) → Option Bool
  | [], [] => some true
  | (_, a) :: as, (_, b) :: bs => also (equal? a b) fun _ => equalFields? as bs
  | _, _ => some false

end

/-- Equality of values; those whose comparison fails are not equal. -/
def equal (a b : Value) : Bool :=
  (equal? a b).getD false

mutual

/-- The first part of a value that keeps it from being hashable. -/
def unhashablePart? : Value → Option Value
  | .tuple items => unhashableItem? items
  | .record _ fields => unhashableField? fields
  | value => if hashable value then none else some value

def unhashableItem? : List Value → Option Value
  | [] => none
  | item :: rest => unhashablePart? item <|> unhashableItem? rest

def unhashableField? : List (String × Value) → Option Value
  | [] => none
  | (_, value) :: rest => unhashablePart? value <|> unhashableField? rest

end

/-- The value stored under a key. -/
def lookup? (entries : List (Value × Value)) (key : Value) : Option Value :=
  (entries.find? fun entry => equal entry.1 key).map Prod.snd

/-- Stores a value under a key: in place of the value of an equal key, at the end otherwise. -/
def store (key value : Value) : List (Value × Value) → List (Value × Value)
  | [] => [(key, value)]
  | entry :: rest =>
    if equal entry.1 key then (entry.1, value) :: rest else entry :: store key value rest

def distinctFrom (seen : List Value) : List Value → List Value
  | [] => seen.reverse
  | item :: rest =>
    if seen.any (equal item) then distinctFrom seen rest else distinctFrom (item :: seen) rest

/-- The distinct values of a list, each at its first place. -/
def distinct (items : List Value) : List Value :=
  distinctFrom [] items

/-- The value stored under a text. -/
def lookupText? (entries : List (Value × Value)) (key : String) : Option Value :=
  lookup? entries (.str key)

end Authorization.Value
