import Authorization.Journal
import Authorization.Record.Principal
import Authorization.Rule.Comparison
import Authorization.Script.Evaluation

/-!
# Rules

A rule says of a decision whether it holds. There are five built-in checks: the user owns the resource,
both belong to one organization, the user has one of some account roles, a field compares with a
value, a script says so. A check may also have a fixed answer: rule types that are declared apart from
the built-in ones have no other.

A rule does not fail for what a script does: a script that fails counts as false, which is noted in
the journal. The note is written in full: where the error of the script has no text, the rule fails.
-/

namespace Authorization

/-- The part of a decision that a field comparison reads. -/
inductive Side where
  | principal | resource
deriving DecidableEq, Repr

/-- A comparison of a field of the resource or the principal with a value. -/
structure FieldComparison where
  side : Side
  path : String
  operator : Comparison
  value : Value

/-- What a rule checks. -/
inductive Check where
  | ownership
  | sameOrganization
  | accountRole (roles : List String)
  | field (comparison : FieldComparison)
  | script (code : Script) (limits : Limits)
  | fixed (answer : Except Error Value)

/-- A rule: a check under the tag of its type. -/
structure Rule where
  className : String
  typeTag : String
  check : Check

/-- Something that leaves traces in the journal and may fail. -/
abbrev Judged := ExceptT Error Journaled

namespace Judged

/-- An operation on values. -/
def ofDraw {α : Type} (draw : Draw α) : Judged α :=
  ExceptT.mk (Journaled.ofDraw draw)

/-- Writes a log record. -/
def note (level : LogLevel) (source : LogSource) (message : String) : Judged Unit :=
  ExceptT.lift (Journaled.note level source message)

/-- What something comes to; its traces stay when it fails. -/
def attempt {α : Type} (action : Judged α) : Judged (Except Error α) :=
  ExceptT.lift action.run

variable {α β : Type}

theorem run_bind (action : Judged α) (next : α → Judged β) (journal : Journal) :
    Id.run ((action >>= next).run journal) =
      match Id.run (action.run journal) with
      | (.ok value, after) => Id.run ((next value).run after)
      | (.error error, after) => (.error error, after) := by
  have shape : Id.run ((action >>= next).run journal) =
      Id.run (StateT.run (ExceptT.bindCont next (Id.run (action.run journal)).1)
        (Id.run (action.run journal)).2) := rfl
  rw [shape]
  rcases Id.run (action.run journal) with ⟨error | value, after⟩ <;> rfl

theorem run_attempt (action : Judged α) (journal : Journal) :
    Id.run ((attempt action).run journal) =
      (.ok (Id.run (action.run journal)).1, (Id.run (action.run journal)).2) :=
  rfl

theorem run_liftM (result : Except Error α) (journal : Journal) :
    Id.run ((liftM result : Judged α).run journal) = (result, journal) := by
  cases result <;> rfl

theorem run_ofDraw (draw : Draw α) (journal : Journal) :
    Id.run ((ofDraw draw).run journal) =
      ((Id.run (draw.run.run journal.cursors)).1,
        { journal with cursors := (Id.run (draw.run.run journal.cursors)).2 }) :=
  rfl

end Judged

namespace FieldComparison

def principalMark : String := "user."
def resourceMark : String := "resource."

def without (mark field : String) : String :=
  String.ofList (field.toList.drop mark.length)

/-- The part of a decision that a field names, and the path from there. -/
def target (field : String) : Side × String :=
  if principalMark.toList.isPrefixOf field.toList then (.principal, without principalMark field)
  else if resourceMark.toList.isPrefixOf field.toList then (.resource, without resourceMark field)
  else (.resource, field)

/-- The value that the field has in a decision, if it is there. -/
def found (comparison : FieldComparison) (attributes : DecisionAttributes) : Option Value :=
  match comparison.side with
  | .principal => attributes.principal.toValue.resolve comparison.path
  | .resource => attributes.resource.resolve comparison.path

/-- The comparison holds in a decision; it does not when the field is not there. -/
def holds [Host] (comparison : FieldComparison) (attributes : DecisionAttributes) : Draw Bool :=
  match comparison.found attributes with
  | some field =>
    Comparison.holds (Host.shares comparison.path comparison.value) comparison.operator field
      comparison.value
  | none => return false

end FieldComparison

namespace Check

/-- A value is there and is not the empty text. -/
def isPresent (value : Value) : Bool :=
  !value.equal .null && !value.equal (.str "")

/-- Two values are there and have the same text. -/
def sameText (a b : Value) : Except Error Bool := do
  if !isPresent a || !isPresent b then return false
  return (← a.toText) == (← b.toText)

/-- The names that a script sees. -/
def exposed (attributes : DecisionAttributes) : List (String × Value) :=
  let parts : List (String × Value) :=
    [("user", .dict attributes.principal.entries), ("resource", attributes.resource),
     ("action", attributes.action), ("context", .dict attributes.context)]
  parts ++ [("attributes", .dict (parts.map fun part => (.str part.1, part.2)))]

/-- What a script runs under: its limits, the clock of the machine, and which values are one object
there. -/
def budget [Host] (code : Script) (limits : Limits) : Script.Budget :=
  ⟨limits, Host.pace.clock code.tree, Host.isOne⟩

/-- What a script says of a decision, unless the machine breaks the run off. -/
def decided [Host] (code : Script) (limits : Limits) (attributes : DecisionAttributes) : Draw Bool :=
  if Host.pace.breaksOff code.tree then throw (.raised .recursion "maximum recursion depth exceeded")
  else code.decide (budget code limits) (exposed attributes)

/-- What a script says of a decision. A failure is noted and counts as false. -/
def consult [Host] (code : Script) (limits : Limits) (attributes : DecisionAttributes) :
    Judged Bool := do
  match ← Judged.attempt (Judged.ofDraw (decided code limits attributes)) with
  | .ok answer => return answer
  | .error error =>
    Judged.note .warning .sandbox ("Script evaluation failed for principal '" ++
      attributes.principal.id ++ "': " ++ (← error.toLogged))
    return false

/-- What a check says of a decision. -/
def evaluate [Host] (check : Check) (attributes : DecisionAttributes) : Judged Value :=
  match check with
  | .ownership =>
    return .bool (← sameText (attributes.resource.shownOr (.str "assigned_to") .null)
      (.str attributes.principal.id))
  | .sameOrganization =>
    return .bool (← sameText (attributes.resource.shownOr (.str "organization_id") .null)
      (Value.ofOption attributes.principal.organization))
  | .accountRole roles => return .bool (roles.contains attributes.principal.role)
  | .field comparison => return .bool (← Judged.ofDraw (comparison.holds attributes))
  | .script code limits => return .bool (← consult code limits attributes)
  | .fixed answer => answer

end Check

namespace Rule

/-- What a rule says of a decision: any value; only a truth value counts. -/
def evaluate [Host] (rule : Rule) (attributes : DecisionAttributes) : Judged Value :=
  rule.check.evaluate attributes

/-- The rule as it is shown: its class and its type. -/
def text (rule : Rule) : String :=
  "<" ++ rule.className ++ " " ++ rule.typeTag ++ ">"

end Rule

end Authorization
