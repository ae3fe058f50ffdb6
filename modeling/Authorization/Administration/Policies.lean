import Authorization.Administration.Cleaning
import Authorization.Decision.Basic

/-!
# Administration of policies

Administrators of an organization create, change, copy and delete its policies and their rules. The
type and the configuration of a rule are tried before the rule is saved. A policy with rules is not
deleted, and a copy that could not be given its rules is taken away again.
-/

namespace Authorization.PolicyAdministration

open Service

/-! ## Policies -/

/-- Saves a policy; what the store does not take as a value counts as a duplicate. -/
def save [Host] (policy : Policy) : Service Unit := do
  match ← outcome (savePolicy policy) with
  | .ok _ => return ()
  | .error error =>
    if error.isValueError then throw (.duplicate .policy "key" policy.key policy.organization)
    else throw error

/-- Creates a policy of an organization. -/
def create [Host] (organization name key description active actor : Value) : Service Policy := do
  let organization ← orFail (Cleaning.text "organization_id" organization)
  let name ← orFail (Cleaning.text "name" name)
  let key ← orFail (Cleaning.key key)
  let description ← orFail (Cleaning.optionalText "description" description)
  let active ← orFail (Cleaning.flag "active" active)
  if (← policyByKey? (.str key) (.str organization)).isSome then
    throw (.duplicate .policy "key" key organization)
  let policy : Policy :=
    { id := ← newId, key, name, organization
      description := .str (description.getD (Policy.defaultDescription key))
      active := .bool active }
  save policy
  noteChange ("Policy created: " ++ policy.id ++ " key=" ++ key) (.str organization) actor
  return policy

/-- The policies of an organization by key. -/
def list (organization : Value) : Service (List Policy) := do
  let organization ← orFail (Cleaning.text "organization_id" organization)
  return sortedBy (fun policy => [policy.key, policy.id]) (← policiesIn (.str organization))

/-- The policy of an identifier in an organization. -/
def find (organization id : Value) : Service Policy := do
  match ← policy? id with
  | some policy =>
    if organization.equal (.str policy.organization) then return policy
    else throw (.notFound .policy id)
  | none => throw (.notFound .policy id)

/-- The policy of a key in an organization. -/
def findByKey (organization key : Value) : Service Policy := do
  match ← policyByKey? key organization with
  | some policy => return policy
  | none => throw (.notFound .policy key)

/-- The fields of a policy that can be changed. -/
def changeable : List String :=
  ["name", "key", "description", "active"]

/-- A new key of a policy, which no other policy of the organization has. -/
def newKey (organization : Value) (policy : Policy) (changes : Bindings) :
    Service (Option String) := do
  match changes.lookup "key" with
  | none => return none
  | some value =>
    let key ← orFail (Cleaning.key value)
    if key != policy.key then
      if let some other := ← policyByKey? (.str key) organization then
        if other.id != policy.id then
          throw (.duplicate .policy "key" key policy.organization)
    return some key

/-- Changes some fields of a policy. A description that is taken away is made up anew. -/
def update [Host] (organization id actor : Value) (changes : Bindings) : Service Policy := do
  orFail (Cleaning.knownFields changes changeable)
  let policy ← find organization id
  let name ← orFail (Cleaning.change changes "name" (Cleaning.text "name"))
  let description ← orFail
    (Cleaning.change changes "description" (Cleaning.optionalText "description"))
  let active ← orFail (Cleaning.change changes "active" (Cleaning.flag "active"))
  let key := (← newKey organization policy changes).getD policy.key
  let described := match description with
    | none => policy.description
    | some given => .str (given.getD (Policy.defaultDescription key))
  let updated : Policy :=
    { policy with
      key
      name := name.getD policy.name
      description := described
      active := (active.map Value.bool).getD policy.active }
  save updated
  noteChange ("Policy updated: " ++ id.text ++ " fields=" ++
    Cleaning.changedNames (changeable.map fun field => (field, (changes.lookup field).isSome)))
    organization actor
  return updated

/-- A number that an operation has given is positive. -/
def isPositive (count : Value) : Except Error Bool :=
  match Value.related? .greater count (.int 0) with
  | some answer => .ok answer
  | none => fault .type "the number of rules is no number"

/-- Deletes a policy without rules. -/
def delete [Host] (organization id actor : Value) : Service Unit := do
  let policy ← find organization id
  let count ← countRules (.str policy.id)
  if ← orFail (isPositive count) then
    throw (.referenced .policy policy.id (.rules count.text))
  match ← outcome (deletePolicy (.str policy.id)) with
  | .ok _ =>
    noteChange ("Policy deleted: " ++ id.text ++ " key=" ++ policy.key) organization actor
  | .error error =>
    if error.isValueError then throw (.referenced .policy policy.id (.store error.message))
    else throw error

/-- A copy of a rule for another policy. -/
def copyRule (policyId : String) (rule : PolicyRule) : Service PolicyRule := do
  return { rule with id := ← newId, policyId, config := PolicyRule.sealedConfig rule.configCopy }

/-- Gives a copied policy its rules. When that fails, a copy without rules is taken away. -/
def copyRules [Host] (organization : Value) (source copy : Policy) (rules : List PolicyRule) :
    Service Unit := do
  match ← outcome (saveRules (rules.mapM (copyRule copy.id))) with
  | .ok _ => return ()
  | .error error =>
    if (← countRules (.str copy.id)).equal (.int 0) then
      let _ ← deletePolicy (.str copy.id)
    note .error .admin ("Policy clone failed: " ++ source.id ++ " -> " ++ copy.id ++ " org=" ++
      organization.text ++ ": " ++ error.logged)
    throw error

/-- What describes a copy of a policy: what is given for it, if there is anything. -/
def copyDescription (source : Policy) (given : Value) : Value :=
  if given.truthy then given else .str ("Cloned from " ++ source.name)

/-- Copies a policy with its rules under another key. -/
def clone [Host] (organization sourceId name key description actor : Value) : Service Policy := do
  let source ← find organization sourceId
  let rules ← rulesOfPolicy (.str source.id)
  let description := copyDescription source description
  let copy ← create organization name key description (.bool true) actor
  copyRules organization source copy rules
  noteChange ("Policy cloned: " ++ source.id ++ " -> " ++ copy.id ++ " rules=" ++
    Number.intText rules.length) organization actor
  return copy

/-! ## Rules -/

/-- The rules of a policy in order. -/
def listRules (organization policyId : Value) : Service (List PolicyRule) := do
  let policy ← find organization policyId
  rulesOfPolicy (.str policy.id)

/-- Tries the type and the configuration of a rule. -/
def tryRule [Host] (type : String) (config : Value) : Service Unit := do
  let _ ← orFail ((← get).registry.catalog.create (.str type) config)

/-- The number of a new rule: one more than the greatest of the policy, or one. -/
def nextOrder (rules : List PolicyRule) : Int :=
  match rules.map PolicyRule.order with
  | [] => 1
  | first :: rest => rest.foldl max first + 1

/-- Adds a rule to a policy; without a number it comes last. -/
def addRule [Host] (organization policyId name type config order active description actor : Value) :
    Service PolicyRule := do
  let policy ← find organization policyId
  let name ← orFail (Cleaning.text "name" name)
  let type ← orFail (Cleaning.text "type" type)
  let config ← orFail (Cleaning.config config)
  let active ← orFail (Cleaning.flag "active" active)
  let description ← orFail (Cleaning.optionalText "description" description)
  tryRule type config
  let order ← match order with
    | .null => nextOrder <$> rulesOfPolicy (.str policy.id)
    | _ => orFail (Cleaning.integer "order" order)
  let rule : PolicyRule :=
    { id := ← newId, policyId := policy.id, name, type, order
      config := PolicyRule.sealedConfig config
      active := .bool active, description := Value.ofOption description }
  let _ ← saveRules (pure [rule])
  noteChange ("Rule added: " ++ rule.id ++ " type=" ++ type ++ " policy=" ++ policy.id)
    organization actor
  return rule

/-- The rule of an identifier in a policy. -/
def findRule (organization policyId id : Value) : Service PolicyRule := do
  let policy ← find organization policyId
  match ← rule? id with
  | some rule => if rule.policyId == policy.id then return rule else throw (.notFound .rule id)
  | none => throw (.notFound .rule id)

/-- The fields of a rule that can be changed. -/
def changeableRule : List String :=
  ["name", "type", "config", "order", "active", "description"]

/-- Changes some fields of a rule. A new type or configuration is tried first. -/
def updateRule [Host] (organization policyId id actor : Value) (changes : Bindings) :
    Service PolicyRule := do
  orFail (Cleaning.knownFields changes changeableRule)
  let rule ← findRule organization policyId id
  let name ← orFail (Cleaning.change changes "name" (Cleaning.text "name"))
  let type ← orFail (Cleaning.change changes "type" (Cleaning.text "type"))
  let config ← orFail (Cleaning.change changes "config" Cleaning.config)
  let order ← orFail (Cleaning.change changes "order" (Cleaning.integer "order"))
  let active ← orFail (Cleaning.change changes "active" (Cleaning.flag "active"))
  let description ← orFail
    (Cleaning.change changes "description" (Cleaning.optionalText "description"))
  if type.isSome || config.isSome then
    tryRule (type.getD rule.type) (config.getD rule.configCopy)
  let updated : PolicyRule :=
    { rule with
      name := name.getD rule.name
      type := type.getD rule.type
      config := (config.map PolicyRule.sealedConfig).getD rule.config
      order := order.getD rule.order
      active := (active.map Value.bool).getD rule.active
      description := (description.map Value.ofOption).getD rule.description }
  let _ ← saveRules (pure [updated])
  noteChange ("Rule updated: " ++ id.text ++ " fields=" ++
    Cleaning.changedNames (changeableRule.map fun field => (field, (changes.lookup field).isSome)) ++
    " policy=" ++ policyId.text) organization actor
  return updated

/-- Deletes a rule. -/
def deleteRule [Host] (organization policyId id actor : Value) : Service Unit := do
  let rule ← findRule organization policyId id
  let _ ← Service.deleteRule (.str rule.id)
  noteChange ("Rule deleted: " ++ id.text ++ " policy=" ++ policyId.text) organization actor

/-- The text of an identifier that is not among the rules of a policy. -/
def foreignText (value : Value) : Except Error String :=
  match value with
  | .str text => .ok text
  | _ => fault .type ("expected str instance, " ++ value.kindName ++ " found")

/-- The rules of a policy with new numbers. -/
def renumbered (policyId : Value) (rules : List PolicyRule) (orders : List (Value × Value)) :
    Except Error (List PolicyRule) := do
  let ruleOf? (id : Value) : Option PolicyRule := rules.find? fun rule => id.equal (.str rule.id)
  let foreign ← ((orders.map Prod.fst).filter fun id => (ruleOf? id).isNone).mapM foreignText
  if !foreign.isEmpty then
    throw (.invalidInput (.foreignRules policyId.text (foreign.mergeSort textsInOrder)))
  let pairs := orders.filterMap fun (id, order) => (ruleOf? id).map (·, order)
  pairs.mapM fun (rule, order) => do
    return { rule with order := ← Cleaning.integer "order" order }

/-- Gives rules of a policy new numbers, all at once. -/
def reorder [Host] (organization policyId orders actor : Value) : Service (List PolicyRule) := do
  let policy ← find organization policyId
  match orders.entries?.getD [] with
  | [] => throw (.invalidInput .ordersMapping)
  | entries =>
    let rules ← rulesOfPolicy (.str policy.id)
    let updated ← orFail (renumbered policyId rules entries)
    let _ ← saveRules (pure updated)
    noteChange ("Rules reordered: policy=" ++ policyId.text ++ " count=" ++
      Number.intText updated.length) organization actor
    rulesOfPolicy (.str policy.id)

/-! ## Trying a policy -/

/-- The part of a key after its first separator. -/
def actionOf (key : String) : String :=
  match Key.cut? key.toList with
  | some (_, action) => String.ofList action
  | none => ""

/-- Tries the chain of a policy on a decision, rule by rule. -/
def test [Host] (organization policyId principal instance? context : Value) : Service ChainReport := do
  let policy ← find organization policyId
  match ← chainForPolicy (.str policy.id) with
  | none =>
    return { allowed := false, key := .str policy.key, message := "Policy is not loaded." }
  | some chain =>
    let attributes ← orFail <| DecisionAttributes.ofBindings
      [("principal", principal), ("resource", instance?), ("action", .str (actionOf policy.key)),
       ("context", contextOr context)]
    judged (chain.explain attributes)

end Authorization.PolicyAdministration
