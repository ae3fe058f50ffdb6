import Authorization.System.Change

/-!
# The stores at work

The operations of the two stores on the state of the system. Each of them may be replaced by a plan.
-/

namespace Authorization.Service

/-- Changes the role store, and answers what the change says. -/
def changeRoles {α : Type} (change : RoleStore → Except Error (RoleStore × α)) :
    Service α := do
  let (roles, result) ← orFail (change (← get).roles)
  modify fun system => { system with roles }
  return result

/-- Changes the policy store, and answers what the change says. -/
def changePolicies {α : Type} (change : PolicyStore → Except Error (PolicyStore × α)) :
    Service α := do
  let (policies, result) ← orFail (change (← get).policies)
  modify fun system => { system with policies }
  return result

def attributeMissing {α : Type} (value : Value) (name : String) : Except Error α :=
  fault .attribute ("'" ++ value.kindName ++ "' object has no attribute '" ++ name ++ "'")

/-- The attribute of a value. -/
def readAttribute (value : Value) (name : String) : Service Value :=
  match value.attribute? name with
  | some found => return found
  | none => orFail (attributeMissing value name)

/-! ## Values of records -/

/-- A record, or nothing. -/
def optionalValue {α : Type} (write : α → Value) : Option α → Value
  | some record => write record
  | none => .null

/-- Records as a tuple of values. -/
def tupleValue {α : Type} (write : α → Value) (records : List α) : Value :=
  .tuple (records.map write)

def optionalFrom {α : Type} (read : Value → Except Error α) (value : Value) :
    Except Error (Option α) :=
  match value with
  | .null => .ok none
  | _ => (read value).map some

def listFrom {α : Type} (read : Value → Except Error α) (value : Value) :
    Except Error (List α) := do
  (← (value.items.run {}).1).mapM read

/-! ## Roles -/

/-- The number of permissions of the catalog. -/
def countPermissions : Service Value :=
  performedValue .countPermissions (fun count : Nat => .int count) do
    return (← get).roles.countPermissions

/-- Adds permissions and counts the new ones. -/
def addPermissions (permissions : List Value) : Service Value :=
  performedValue .addPermissions (fun count : Nat => .int count) do
    let (roles, result) := (← get).roles.addPermissions permissions
    modify fun system => { system with roles }
    orFail result

/-- Adds the permissions that a value yields and counts the new ones. -/
def addPermissionValues (permissions : Value) : Service Value := do
  addPermissions (← ofDraw permissions.items)

/-- The permissions of the catalog. -/
def listPermissions : Service (List Permission) :=
  performed .listPermissions (listFrom RoleStore.permissionOf) do
    return (← get).roles.listPermissions

/-- The role of an identifier. -/
def role? (id : Value) : Service (Option Role) :=
  performed .getRole (optionalFrom RoleStore.roleOf) do
    orFail ((← get).roles.role? id)

/-- The roles of the identifiers that a value yields. -/
def rolesOf (ids : Value) : Service (List Role) :=
  performed .getRoles (listFrom RoleStore.roleOf) do
    let ids ← ofDraw ids.items
    orFail ((← get).roles.rolesOf ids)

/-- The roles of an organization. -/
def rolesIn (organization : Value) : Service (List Role) :=
  performed .listRoles (listFrom RoleStore.roleOf) do
    let store := (← get).roles
    orFail (store.backend.asks [organization])
    return store.rolesIn organization

/-- The role of a slug in an organization. -/
def roleBySlug? (slug organization : Value) : Service (Option Role) :=
  performed .findRoleBySlug (optionalFrom RoleStore.roleOf) do
    let store := (← get).roles
    orFail (store.backend.asks [slug, organization])
    return store.roleBySlug? slug organization

/-- Saves a role. -/
def saveRole (role : Role) : Service Value :=
  performedValue .saveRole Role.toValue do
    changeRoles fun roles => (roles.saveRole role).map (·, role)

/-- Deletes the role of an identifier. -/
def deleteRole (id : Value) : Service Value :=
  performedValue .deleteRole Value.bool do
    changeRoles fun roles => roles.deleteRole id

/-- The number of users that hold a role. -/
def countHolders (id : Value) : Service Value :=
  performedValue .countRoleAssignments (fun count : Nat => .int count) do
    orFail ((← get).roles.countHolders id)

/-- Lets a user hold a role. Outside transactions the role has to exist in tables. -/
def assign (user id : Value) : Service Value :=
  performedValue .addAssignment Value.bool do
    let isOpen := !(← get).savepoints.isEmpty
    changeRoles fun roles => do
      let (next, isNew) ← roles.assign user id
      if !isOpen && !next.isConsistent then fault .integrity "the role does not exist"
      else return (next, isNew)

/-- Takes a role from a user. -/
def revoke (user id : Value) : Service Value :=
  performedValue .removeAssignment Value.bool do
    changeRoles fun roles => roles.revoke user id

/-- The roles that a user holds. -/
def rolesHeldBy (user : Value) : Service Value :=
  performedValue .getUserRoleIds Value.tuple do
    orFail ((← get).roles.rolesHeldBy user)

/-! ## Policies -/

/-- The policies of an organization, or all for none. -/
def policiesIn (organization : Value) : Service (List Policy) :=
  performed .listPolicies policiesFrom do
    let store := (← get).policies
    orFail (store.backend.asks [organization])
    return store.policiesIn organization

/-- The policy of an identifier. -/
def policy? (id : Value) : Service (Option Policy) :=
  performed .getPolicy (optionalFrom PolicyStore.policyOf) do
    orFail ((← get).policies.policy? id)

/-- The policy of a key in an organization. -/
def policyByKey? (key organization : Value) : Service (Option Policy) :=
  performed .findPolicyByKey (optionalFrom PolicyStore.policyOf) do
    let store := (← get).policies
    orFail (store.backend.asks [key, organization])
    return store.policyByKey? key organization

/-- Saves a policy. -/
def savePolicy [Host] (policy : Policy) : Service Value :=
  performedValue .savePolicy Policy.toValue do
    let saved ← changePolicies fun policies => (policies.savePolicy policy).map (·, policy)
    announce
    return saved

/-- Deletes the policy of an identifier. -/
def deletePolicy [Host] (id : Value) : Service Value :=
  performedValue .deletePolicy Value.bool do
    let deleted ← changePolicies fun policies => policies.deletePolicy id
    if deleted then announce
    return deleted

/-- The rules of a policy, or all for none. -/
def rulesOfPolicy (policyId : Value) : Service (List PolicyRule) :=
  performed .listRules rulesFrom do
    orFail ((← get).policies.rulesOf policyId)

/-- The rule of an identifier. -/
def rule? (id : Value) : Service (Option PolicyRule) :=
  performed .getRule (optionalFrom PolicyStore.ruleOf) do
    orFail ((← get).policies.rule? id)

/-- The number of rules of a policy. -/
def countRules (policyId : Value) : Service Value :=
  performedValue .countRules (fun count : Nat => .int count) do
    return (← get).policies.countRules policyId

/-- Saves the rules that are made for it. -/
def saveRules [Host] (make : Service (List PolicyRule)) : Service Value :=
  performedValue .saveRules (tupleValue PolicyRule.toValue) do
    let rules ← make
    let saved ← changePolicies fun policies => (policies.saveRules rules).map (·, rules)
    if !rules.isEmpty then announce
    return saved

/-- Saves the rules among some values, up to the first value that is none. -/
def saveRuleValues [Host] (values : Value) : Service Value :=
  performedValue .saveRules Value.tuple do
    let items ← ofDraw values.items
    let saved ← changePolicies fun policies => do
      let next ← items.foldlM (fun found item => PolicyStore.ruleOf item >>= found.saveRule) policies
      return (next, items)
    if !items.isEmpty then announce
    return saved

/-- Deletes the rule of an identifier. -/
def deleteRule [Host] (id : Value) : Service Value :=
  performedValue .deleteRule Value.bool do
    let deleted ← changePolicies fun policies => policies.deleteRule id
    if deleted then announce
    return deleted

/-- Lets somebody known listen to changes of policies. -/
def subscribeListener (listener : Listener) : Service Value :=
  performedValue .subscribe (fun _ : Unit => .null) (listen listener)

/-- Lets a function listen to changes of policies. -/
def subscribe (listener : Value) : Service Value :=
  performedValue .subscribe (fun _ : Unit => .null) do
    match listener with
    | .function tag _ => listen (.function tag)
    | _ =>
      if listener.isCallable then return ()
      else throw (.wrongKind .listener)

end Authorization.Service
