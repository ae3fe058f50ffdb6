import Authorization.Record.Principal
import Authorization.Text.Basic
import Authorization.Value.Attribute
import Authorization.Value.Cursor
import Authorization.Value.Order

/-!
# Looking up and comparing

What a rule finds by names, and how it compares what it has found.
-/

/-!
## Looking things up for a rule

A rule reads a principal, a resource or a context by names. A principal is read as a flat mapping, a
mapping by its keys, any other value by its attributes; nothing has no names, and a name that begins
with an underscore is never found. A dotted path goes from one value to the next.
-/

namespace Authorization

namespace Path

/-- The mark between the segments of a path. -/
def separator : Char := '.'

/-- The parts of a text between the separators. -/
def cut : List Char → List (List Char)
  | [] => [[]]
  | c :: rest =>
    if c = separator then [] :: cut rest
    else match cut rest with
      | [] => [[c]]
      | first :: more => (c :: first) :: more

/-- The segments of a path. -/
def segments (path : String) : List String :=
  (cut path.toList).map String.ofList

end Path

namespace Value

/-- A name that is never looked up. -/
def isHidden (name : String) : Bool :=
  name.toList.head? == some '_'

/-- What a value shows under a name. -/
def shown? (source : Value) (name : String) : Option Value :=
  if isHidden name then none
  else match source with
    | .null => none
    | _ => match Principal.ofValue? source with
      | some principal => lookupText? principal.entries name
      | none => match source.entries? with
        | some entries => lookupText? entries name
        | none => source.attribute? name

/-- What a value shows under a name that may be of any kind, or a default. -/
def shownOr (source name default : Value) : Value :=
  match name with
  | .str text => (source.shown? text).getD default
  | _ => default

/-- What is found at the end of the segments of a path. -/
def follow (source : Value) (segments : List String) : Option Value :=
  segments.foldlM shown? source

/-- What is found at the end of a path. -/
def resolve (source : Value) (path : String) : Option Value :=
  source.follow (Path.segments path)

end Value

end Authorization

/-!
## Comparisons

The operators by which a rule compares a field with a value. An order that does not exist between two
values does not hold either way, and what is no container neither contains a value nor fails to.
-/

namespace Authorization

/-- An operator of a field comparison. -/
inductive Comparison where
  | equals | notEquals | greaterThan | lessThan | contains | notContains
  | startsWith | endsWith | isIn | isNotIn
deriving DecidableEq, Repr

namespace Comparison

/-- All operators, in the order in which they are listed. -/
def listing : List Comparison :=
  [.equals, .notEquals, .greaterThan, .lessThan, .contains, .notContains, .startsWith, .endsWith,
   .isIn, .isNotIn]

/-- The name of an operator in configurations. -/
def label : Comparison → String
  | .equals => "equals"
  | .notEquals => "not_equals"
  | .greaterThan => "greater_than"
  | .lessThan => "less_than"
  | .contains => "contains"
  | .notContains => "not_contains"
  | .startsWith => "starts_with"
  | .endsWith => "ends_with"
  | .isIn => "in"
  | .isNotIn => "not_in"

/-- The names of all operators. -/
def labels : List String :=
  listing.map label

/-- The operator of a name. -/
def ofLabel? (name : String) : Option Comparison :=
  listing.find? fun operator => operator.label == name

/-- The operator compares with the members of a list. -/
def needsList : Comparison → Bool
  | .isIn | .isNotIn => true
  | _ => false

/-- The operator compares with a text. -/
def needsText : Comparison → Bool
  | .startsWith | .endsWith => true
  | _ => false

/-- A container contains a value, with which it may share an undefined number; nothing is said of values
that are no containers. -/
def containment (isOne : Bool) (container value : Value) : Draw (Option Bool) :=
  match container with
  | .str content =>
    return some (match value with
      | .str word => Text.occursIn word.toList content.toList
      | _ => false)
  | .list _ | .tuple _ | .set .. | .view .keys _ | .view .items _ => do
    return some (← Value.isMemberOrShares isOne value container)
  | _ => return none

def bothTexts (test : List Char → List Char → Bool) (field value : Value) : Bool :=
  match field, value with
  | .str content, .str part => test part.toList content.toList
  | _, _ => false

/-- The comparison holds between the value of a field and a given value. Where both hold undefined numbers,
it is said whether they count as one. -/
def holds (isOne : Bool) (operator : Comparison) (field value : Value) : Draw Bool :=
  match operator with
  | .equals => Value.compared (Value.equalOrShare? isOne field value)
  | .notEquals => return !(← Value.compared (Value.equalOrShare? isOne field value))
  | .greaterThan => return (Value.related? .greater field value).getD false
  | .lessThan => return (Value.related? .less field value).getD false
  | .contains => return (← containment isOne field value).getD false
  | .notContains => return ((← containment isOne field value).map (! ·)).getD false
  | .startsWith => return bothTexts List.isPrefixOf field value
  | .endsWith => return bothTexts List.isSuffixOf field value
  | .isIn => Value.isMemberOrShares isOne field value
  | .isNotIn => return !(← Value.isMemberOrShares isOne field value)

end Comparison

end Authorization
