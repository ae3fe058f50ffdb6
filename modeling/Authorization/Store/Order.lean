import Authorization.Record.Policy
import Authorization.Record.Role
import Authorization.Value.Order

/-!
# The order of records

Records are listed in the order of their sort keys. Texts are ordered by their characters, lists of
texts by the first that differs.
-/

namespace Authorization

/-- Two texts stand in order. -/
def textsInOrder (a b : String) : Bool :=
  Value.compareTexts a b != .gt

/-- Two lists of texts stand in order. -/
def keysInOrder : List String → List String → Bool
  | [], _ => true
  | _ :: _, [] => false
  | a :: as, b :: bs =>
    match Value.compareTexts a b with
    | .lt => true
    | .eq => keysInOrder as bs
    | .gt => false

/-- Records in the order of their sort keys. -/
def sortedBy {α : Type} (key : α → List String) (records : List α) : List α :=
  records.mergeSort fun a b => keysInOrder (key a) (key b)

namespace PolicyRule

/-- Two rules stand in order: by number, then by identifier. -/
def inOrder (a b : PolicyRule) : Bool :=
  a.order < b.order || (a.order == b.order && textsInOrder a.id b.id)

/-- Rules of all policies in order: by policy first. -/
def sorted (rules : List PolicyRule) : List PolicyRule :=
  rules.mergeSort fun a b =>
    match Value.compareTexts a.policyId b.policyId with
    | .lt => true
    | .eq => inOrder a b
    | .gt => false

end PolicyRule

end Authorization
