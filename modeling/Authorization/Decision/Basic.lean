import Authorization.System.Stores

/-!
# Decisions

A decision goes through the gate of permissions, and then to the chain that governs its key.
-/

/-!
## The gate of permissions

The first and coarse part of a decision: a principal passes with an account role that bypasses the gate,
or with a role of its organization that grants the action on the resource type. A role of another
organization grants nothing.

The catalog lists the permissions that roles may refer to. It is seeded once, with every known action on
every known resource type.
-/

namespace Authorization

/-- Why the gate is passed, or is not. -/
inductive GateReason where
  | bypass | granted | noRoles | missing
deriving DecidableEq, Repr

/-- The name of a reason. -/
def GateReason.label : GateReason → String
  | .bypass => "BYPASS_ROLE"
  | .granted => "ROLE_GRANTED"
  | .noRoles => "NO_ROLES"
  | .missing => "PERMISSION_MISSING"

/-- What the gate says. -/
structure GateReport where
  reason : GateReason
  message : String := ""
  grantedBy : List String := []

/-- The gate is passed. -/
def GateReport.allowed (report : GateReport) : Bool :=
  report.reason = .bypass || report.reason = .granted

namespace Permission

/-- The types of resources that are known from the start. -/
def knownResources : List String :=
  ["customer", "deal", "task", "user", "product", "organization", "webhook", "api_key",
   "custom_field", "analytics"]

/-- The actions that are known from the start. -/
def knownActions : List String :=
  ["create", "read", "update", "delete", Value.wildcardAction]

/-- Every known action on every known resource type. -/
def known : List Permission :=
  knownResources.flatMap fun resource => knownActions.map fun action => Permission.of resource action

end Permission

namespace Service

/-! ### The catalog -/

/-- Seeds the catalog, unless it holds a permission; says how many permissions are new. -/
def seedPermissions : Service Value := do
  if 0 < (← get).roles.countPermissions then
    note .debug .permissions "Permission catalog already seeded — skipping."
    return .int 0
  else
    let created ← addPermissions (Permission.known.map Permission.toValue)
    note .info .permissions ("Default permissions seeded: " ++ created.text)
    return created

/-- The permission of a slug. -/
def permission? (slug : Value) : Service (Option Permission) := do
  return (← listPermissions).find? fun permission => slug.equal (.str permission.slug)

/-- The text of a value that has to be one. -/
def slugText (value : Value) : Except Error String :=
  match value with
  | .str text => .ok text
  | _ => fault .type ("expected str instance, " ++ value.kindName ++ " found")

/-- The slugs among the items of a value, all of them known to the catalog. -/
def resolvePermissions (slugs : Value) : Service (List String) := do
  let items ← ofDraw slugs.items
  if let some item := items.find? fun item => !item.hashable then orFail (unhashable item)
  let requested := Value.distinct items
  let known := (← listPermissions).map Permission.slug
  let isKnown (item : Value) : Bool := item.asStr?.any known.contains
  let unknown ← orFail ((requested.filter fun item => !isKnown item).mapM slugText)
  if unknown.isEmpty then return requested.filterMap Value.asStr?
  else throw (.unknownPermissions (unknown.mergeSort textsInOrder))

/-! ### The gate -/

/-- The key of a resource type and an action of any kind. -/
def keyOf (resource action : Value) : Except Error String := do
  return Key.join (← resource.toText) (← action.toText)

/-- A role lets a principal pass. -/
def letsPass (principal resource action : Value) (role : Role) : Service Bool := do
  let organization ← readAttribute principal "organization_id"
  if organization.equal (.str role.organization) then
    return role.grants (← orFail resource.toText) (← orFail action.toText)
  else return false

/-- What the gate says of a principal. -/
def evaluatePermissions (principal resource action : Value) : Service GateReport := do
  let account ← readAttribute principal "role"
  if !account.hashable then orFail (unhashable account)
  if account.asStr?.any (← get).settings.bypassRoles.contains then
    return { reason := .bypass, message := "Role '" ++ account.text ++ "' bypasses RBAC." }
  let held ← readAttribute principal "roles"
  if !held.truthy then
    let id ← readAttribute principal "id"
    return { reason := .noRoles, message := "Principal '" ++ id.text ++ "' holds no roles." }
  let granting ← (← rolesOf held).filterM (letsPass principal resource action)
  if !granting.isEmpty then return { reason := .granted, grantedBy := granting.map Role.id }
  let id ← readAttribute principal "id"
  return { reason := .missing
           message := "Principal '" ++ id.text ++ "' is missing permission '" ++
             (← orFail (keyOf resource action)) ++ "'." }

end Service

end Authorization

/-!
## Gate and chain

A decision goes through the gate of permissions first. Without a resource at hand the gate decides; with
one, the chain that governs the key in the principal's organization does. What stops the gate from
working, or a key without a chain, denies.
-/

namespace Authorization

/-- What settled a decision. -/
inductive DecisionReason where
  | gateError | gateDenied | gateOnly | noPolicy | policyAllowed | policyDenied
deriving DecidableEq, Repr

/-- The name of a reason. -/
def DecisionReason.label : DecisionReason → String
  | .gateError => "RBAC_ERROR"
  | .gateDenied => "RBAC_DENIED"
  | .gateOnly => "RBAC_ONLY"
  | .noPolicy => "NO_POLICY"
  | .policyAllowed => "POLICY_ALLOWED"
  | .policyDenied => "POLICY_DENIED"

/-- A decision and what settled it. -/
structure Decision where
  allowed : Bool
  reason : DecisionReason
  key : String
  source : Option ChainSource := none
deriving DecidableEq, Repr

namespace Service

/-- The text of the identifier of a principal. -/
def idText (principal : Value) : Service String := do
  return (← readAttribute principal "id").text

/-- The chain that governs a key in an organization, both of any kind. -/
def chainFor (key organization : Value) : Service (Option PolicyChain) := do
  if !organization.hashable then orFail (unhashable organization)
  if !key.hashable then orFail (unhashable key)
  let snapshot := (← get).registry.snapshot
  return key.asStr?.bind fun key => snapshot.chainFor key organization.asStr?

/-- The chain of a policy. -/
def chainForPolicy (policyId : Value) : Service (Option PolicyChain) := do
  if !policyId.hashable then orFail (unhashable policyId)
  return policyId.asStr?.bind (← get).registry.snapshot.chainForPolicy

/-- A context of a decision: an empty one in place of any that counts as false. -/
def contextOr (context : Value) : Value :=
  if context.truthy then context else .dict []

/-- What a chain decides. -/
def decideByChain [Host] (chain : PolicyChain) (key : String)
    (principal action instance? context : Value) : Service Decision := do
  let attributes ← orFail <| DecisionAttributes.ofBindings
    [("principal", principal), ("resource", instance?), ("action", action),
     ("context", contextOr context)]
  let allowed ← judged (chain.evaluate attributes)
  note .debug .access ("Policy '" ++ key ++ "' (" ++ chain.source.label ++ ") " ++
    (if allowed then "allowed" else "denied") ++ " principal '" ++ (← idText principal) ++ "'")
  return ⟨allowed, if allowed then .policyAllowed else .policyDenied, key, some chain.source⟩

/-- What comes after the gate has been passed. -/
def decideByPolicy [Host] (key : String) (principal action instance? context : Value) :
    Service Decision := do
  match instance? with
  | .null => return ⟨true, .gateOnly, key, none⟩
  | _ =>
    let organization ← readAttribute principal "organization_id"
    match ← chainFor (.str key) organization with
    | none =>
      note .debug .access ("No policy for '" ++ key ++ "'. Denied.")
      return ⟨false, .noPolicy, key, none⟩
    | some chain => decideByChain chain key principal action instance? context

/-- The decision whether a principal may do something. -/
def explain [Host] (principal resource action instance? context : Value) : Service Decision := do
  let key ← orFail (keyOf resource action)
  match ← outcome (evaluatePermissions principal resource action) with
  | .error error =>
    note .error .access ("Role lookup failed for principal '" ++ (← idText principal) ++ "' on '" ++
      key ++ "': " ++ (← orFail error.toLogged) ++ ". Denied.")
    return ⟨false, .gateError, key, none⟩
  | .ok gate =>
    if gate.allowed then decideByPolicy key principal action instance? context
    else
      note .debug .access ("RBAC denied '" ++ key ++ "' for principal '" ++ (← idText principal) ++
        "': " ++ gate.reason.label)
      return ⟨false, .gateDenied, key, none⟩

/-- The answer whether a principal may do something. -/
def allows [Host] (principal resource action instance? context : Value) : Service Bool := do
  return (← explain principal resource action instance? context).allowed

end Service

end Authorization
