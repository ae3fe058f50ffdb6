import Authorization.Keyed
import Authorization.Store.Column
import Authorization.Store.Order

/-!
# The policy store

The policy store holds the policies of all organizations and their rules. No two policies of an
organization have one key, and every rule belongs to a policy that is there: a rule of an unknown policy
is not taken, and a policy with rules is not deleted.
-/

namespace Authorization

structure PolicyStore where
  backend : Backend := .memory
  policies : Keyed String Policy := []
  rules : Keyed String PolicyRule := []

namespace PolicyStore

/-! ## Policies -/

/-- The policies of an organization, or all for none, in order. -/
def policiesIn (store : PolicyStore) (organization : Value) : List Policy :=
  sortedBy Policy.sortKey <| store.policies.values.filter fun policy =>
    organization.equal .null || store.backend.matchesText policy.organization organization

/-- The policy of an identifier. -/
def policy? (store : PolicyStore) (id : Value) : Except Error (Option Policy) := do
  return (← store.backend.identifier id).bind store.policies.get?

/-- The policy of a key in an organization. -/
def policyByKey? (store : PolicyStore) (key organization : Value) : Option Policy :=
  store.policies.values.find? fun policy =>
    store.backend.matchesText policy.key key &&
      store.backend.matchesText policy.organization organization

/-- Another policy of the same organization has the key of a policy. -/
def hasClash (store : PolicyStore) (policy : Policy) : Bool :=
  store.policies.values.any fun other =>
    other.id != policy.id && other.key == policy.key && other.organization == policy.organization

/-- The identifier under which a policy is kept. -/
def policyIdentifier (store : PolicyStore) (id : String) : Except Error String := do
  match ← store.backend.identifier (.str id) with
  | some found => return found
  | none => throw (.inadmissible (.notUuid "policy_id" id))

/-- A policy as it is kept. -/
def kept (store : PolicyStore) (policy : Policy) : Except Error Policy :=
  match store.backend with
  | .memory => .ok policy
  | .tables => do
    let description ← Column.text policy.description
    let active ← Column.flag policy.active
    Column.encoded [.str policy.organization, .str policy.key, .str policy.name, description]
    let active ← Column.required active
    return { policy with description, active }

/-- Saves a policy, in place of the one with its identifier. -/
def savePolicy (store : PolicyStore) (policy : Policy) : Except Error PolicyStore := do
  let id ← store.policyIdentifier policy.id
  let named := { policy with id }
  if store.hasClash named then
    throw (.inadmissible (.policyKeyTaken policy.key policy.organization))
  return { store with policies := Keyed.put id (← store.kept named) store.policies }

/-- The rules of a policy. -/
def rulesWithin (store : PolicyStore) (policyId : String) : List PolicyRule :=
  store.rules.values.filter fun rule => rule.policyId == policyId

/-- Deletes the policy of an identifier; the answer tells whether there was one. -/
def deletePolicy (store : PolicyStore) (id : Value) : Except Error (PolicyStore × Bool) := do
  match ← store.backend.identifier id with
  | none => return (store, false)
  | some known =>
    if !(store.rulesWithin known).isEmpty then
      throw (.inadmissible (.policyHasRules (← id.toText)))
    return ({ store with policies := store.policies.erase known }, store.policies.has known)

/-! ## Rules -/

/-- The rules of a policy, or all for none, in order. -/
def rulesOf (store : PolicyStore) (policyId : Value) : Except Error (List PolicyRule) := do
  match policyId with
  | .null => return PolicyRule.sorted store.rules.values
  | _ =>
    match store.backend with
    | .memory => return PolicyRule.sorted (store.rules.values.filter fun rule =>
        policyId.equal (.str rule.policyId))
    | .tables =>
      match ← store.backend.identifier policyId with
      | some known => return PolicyRule.sorted (store.rulesWithin known)
      | none => return []

/-- The rule of an identifier. -/
def rule? (store : PolicyStore) (id : Value) : Except Error (Option PolicyRule) := do
  return (← store.backend.identifier id).bind store.rules.get?

/-- The number of rules of a policy. -/
def countRules (store : PolicyStore) (policyId : Value) : Nat :=
  match store.backend with
  | .memory =>
    (store.rules.values.filter fun rule => policyId.equal (.str rule.policyId)).length
  | .tables =>
    match (policyId.text?).bind Text.Uuid.canonical? with
    | some known => (store.rulesWithin known).length
    | none => 0

/-- A rule with the identifiers under which it is kept. -/
def identified (store : PolicyStore) (rule : PolicyRule) : Except Error PolicyRule := do
  match ← store.backend.identifier (.str rule.id), ← store.backend.identifier (.str rule.policyId) with
  | some id, some policyId => return { rule with id, policyId }
  | _, _ => throw (.inadmissible (.ruleNotUuid rule.id))

/-- A rule belongs to a policy that is there. -/
def checkOwner (store : PolicyStore) (rule named : PolicyRule) : Except Error Unit :=
  if store.policies.has named.policyId then .ok ()
  else .error (.inadmissible (.unknownPolicy rule.id rule.policyId))

/-- A rule as it is kept. -/
def keptRule (store : PolicyStore) (rule : PolicyRule) : Except Error PolicyRule :=
  match store.backend with
  | .memory => .ok rule
  | .tables => do
    let description ← Column.text rule.description
    let config ← Column.document rule.configCopy
    let active ← Column.flag rule.active
    Column.encoded [.str rule.name, description, .str rule.type]
    let order ← Column.integer rule.order
    let active ← Column.required active
    return { rule with
      description, active, order
      config := PolicyRule.sealedConfig (← Column.finite config) }

/-- Saves a rule, in place of the one with its identifier. -/
def saveRule (store : PolicyStore) (rule : PolicyRule) : Except Error PolicyStore := do
  let named ← store.identified rule
  store.checkOwner rule named
  return { store with rules := Keyed.put named.id (← store.keptRule named) store.rules }

/-- The rule that a value is. -/
def ruleOf (value : Value) : Except Error PolicyRule :=
  match PolicyRule.ofValue? value with
  | some rule => .ok rule
  | none => fault .attribute ("'" ++ value.kindName ++ "' object has no attribute 'policy_id'")

/-- Saves rules, all or none: in memory when the owners of all of them have been checked, in tables row
by row. -/
def saveRules (store : PolicyStore) (rules : List PolicyRule) : Except Error PolicyStore :=
  match store.backend with
  | .memory => do
    rules.forM fun rule => store.checkOwner rule rule
    return { store with
      rules := rules.foldl (fun kept rule => Keyed.put rule.id rule kept) store.rules }
  | .tables => rules.foldlM saveRule store

/-- Deletes the rule of an identifier; the answer tells whether there was one. -/
def deleteRule (store : PolicyStore) (id : Value) : Except Error (PolicyStore × Bool) := do
  match ← store.backend.identifier id with
  | none => return (store, false)
  | some known =>
    return ({ store with rules := store.rules.erase known }, store.rules.has known)

/-! ## Making a store -/

/-- The parameters of a store in memory. -/
def parameters : List Parameter :=
  [.optional "policies" .null, .optional "rules" .null]

/-- The policy that a value is. -/
def policyOf (value : Value) : Except Error Policy :=
  match Policy.ofValue? value with
  | some policy => .ok policy
  | none => fault .attribute ("'" ++ value.kindName ++ "' object has no attribute 'policy_id'")

/-- A store in memory with given policies and rules. -/
def ofArguments (arguments : Arguments) : Except Error PolicyStore := do
  let bindings ← arguments.bindTo parameters
  let policies ← (bindings.value "policies").itemsIfAny
  let store ← policies.foldlM (fun store value => policyOf value >>= store.savePolicy)
    ({} : PolicyStore)
  let rules ← (bindings.value "rules").itemsIfAny
  rules.foldlM (fun store value => ruleOf value >>= store.saveRule) store

end PolicyStore

end Authorization
