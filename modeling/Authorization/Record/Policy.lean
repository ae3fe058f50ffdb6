import Authorization.Key
import Authorization.Record.Arguments

/-!
# Policies and their rules

What governs the decisions about a key, and what has to hold for them.
-/

/-!
## Policies

A policy of an organization governs the decisions about one key. A description is made up when none is
given.
-/

namespace Authorization

structure Policy where
  id : String
  key : String
  name : String
  organization : String
  description : Value
  active : Value

namespace Policy

def parameters : List Parameter :=
  [.needed "policy_id", .needed "key", .needed "name", .needed "organization_id",
   .optional "description" (.str ""), .optional "active" (.bool true)]

/-- The description of a policy to which none is given. -/
def defaultDescription (key : String) : String :=
  "Policy for " ++ key

def keyOf (value : Value) : Except Error String :=
  match value with
  | .str text => if Key.isPolicyKey text then .ok text else .error (.inadmissible .policyKey)
  | _ => .error (.inadmissible .policyKey)

/-- The policy of given fields. -/
def ofBindings (bindings : Bindings) : Except Error Policy := do
  let id ← (bindings.value "policy_id").nonEmptyText "policy_id"
  let key ← keyOf (bindings.value "key")
  let name ← (bindings.value "name").nonEmptyText "name"
  let organization ← (bindings.value "organization_id").nonEmptyText "organization_id"
  let given := bindings.value "description"
  let description := if given.truthy then given else .str (defaultDescription key)
  return ⟨id, key, name, organization, description, bindings.value "active"⟩

/-- The policy of given arguments. -/
def ofArguments (arguments : Arguments) : Except Error Policy := do
  ofBindings (← arguments.bindTo parameters)

/-- The fields of the policy by name. -/
def fields (policy : Policy) : Bindings :=
  [("policy_id", .str policy.id), ("key", .str policy.key), ("name", .str policy.name),
   ("organization_id", .str policy.organization), ("description", policy.description),
   ("active", policy.active)]

/-- The policy as a record. -/
def toValue (policy : Policy) : Value :=
  .record .policy policy.fields

/-- The policy that a record is. -/
def ofValue? : Value → Option Policy
  | .record .policy fields => (ofBindings fields).toOption
  | _ => none

/-- The policy with some fields replaced, checked anew. -/
def withChanges (policy : Policy) (changes : Bindings) : Except Error Policy :=
  if changes.all fun change => (policy.fields.lookup change.1).isSome then
    ofBindings (policy.fields.map fun field => (field.1, (changes.lookup field.1).getD field.2))
  else fault .type "unknown field"

/-- The order of policies: by organization, key and identifier. -/
def sortKey (policy : Policy) : List String :=
  [policy.organization, policy.key, policy.id]

end Policy

end Authorization

/-!
## Rules of policies

A rule belongs to a policy and says by its type and its configuration what has to hold. The rules of a
policy are ordered by number, and by identifier where the numbers are equal.
-/

namespace Authorization

structure PolicyRule where
  id : String
  policyId : String
  name : String
  type : String
  config : Value
  order : Int
  active : Value
  description : Value

namespace PolicyRule

def parameters : List Parameter :=
  [.needed "rule_id", .needed "policy_id", .needed "name", .needed "type",
   .optional "config" (.dict []), .optional "order" (.int 1), .optional "active" (.bool true),
   .optional "description" .null]

def orderOf (value : Value) : Except Error Int :=
  match value with
  | .int n => .ok n
  | _ => .error (.inadmissible .ruleOrder)

/-- A configuration that cannot be changed; nothing counts as an empty one. -/
def sealedConfig (value : Value) : Value :=
  match value with
  | .null => .proxy []
  | _ => match value.entries? with
    | some entries => .proxy entries
    | none => value

/-- The rule of given fields. -/
def ofBindings (bindings : Bindings) : Except Error PolicyRule := do
  let id ← (bindings.value "rule_id").nonEmptyText "rule_id"
  let policyId ← (bindings.value "policy_id").nonEmptyText "policy_id"
  let name ← (bindings.value "name").nonEmptyText "name"
  let type ← (bindings.value "type").nonEmptyText "type"
  let order ← orderOf (bindings.value "order")
  return ⟨id, policyId, name, type, sealedConfig (bindings.value "config"), order,
    bindings.value "active", bindings.value "description"⟩

/-- The rule of given arguments. -/
def ofArguments (arguments : Arguments) : Except Error PolicyRule := do
  ofBindings (← arguments.bindTo parameters)

/-- The fields of the rule by name. -/
def fields (rule : PolicyRule) : Bindings :=
  [("rule_id", .str rule.id), ("policy_id", .str rule.policyId), ("name", .str rule.name),
   ("type", .str rule.type), ("config", rule.config), ("order", .int rule.order),
   ("active", rule.active), ("description", rule.description)]

/-- The rule as a record. -/
def toValue (rule : PolicyRule) : Value :=
  .record .rule rule.fields

/-- The rule that a record is. -/
def ofValue? : Value → Option PolicyRule
  | .record .rule fields => (ofBindings fields).toOption
  | _ => none

/-- The rule with some fields replaced, checked anew. -/
def withChanges (rule : PolicyRule) (changes : Bindings) : Except Error PolicyRule :=
  if changes.all fun change => (rule.fields.lookup change.1).isSome then
    ofBindings (rule.fields.map fun field => (field.1, (changes.lookup field.1).getD field.2))
  else fault .type "unknown field"

/-- The configuration as a mapping of its own, where it is a mapping. -/
def configCopy (rule : PolicyRule) : Value :=
  match rule.config.entries? with
  | some entries => .dict entries
  | none => rule.config

end PolicyRule

end Authorization
