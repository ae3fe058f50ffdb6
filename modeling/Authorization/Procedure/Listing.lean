import Authorization.Procedure.Administration
import Authorization.Procedure.Basic

/-!
# Procedures of the stores

The operations of the two stores, for callers who keep records themselves. Records are taken as they are
and no change is noted in the log.
-/

namespace Authorization.Procedure

open Service

/-- An operation on the identifier, or whatever else a store is asked for. -/
def asking (operation : StoreOperation) (name : String) (action : Value → Service Reply) :
    String × Procedure :=
  (operation.label, ofStore operation [.needed name] fun given => action (given.value name))

/-- An operation on two things. -/
def askingTwo (operation : StoreOperation) (first second : String)
    (action : Value → Value → Service Reply) : String × Procedure :=
  (operation.label, ofStore operation [.needed first, .needed second] fun given =>
    action (given.value first) (given.value second))

/-- An operation on what a store is asked for, or on everything. -/
def askingAny (operation : StoreOperation) (name : String)
    (action : Value → Service Reply) : String × Procedure :=
  (operation.label, ofStore operation [.optional name .null] fun given => action (given.value name))

/-- The procedures of the role store. -/
def ofRoleStore : List (String × Procedure) :=
  [(StoreOperation.countPermissions.label,
     ofStore .countPermissions [] fun _ => .value <$> countPermissions),
   asking .addPermissions "permissions" fun permissions => do
     .value <$> addPermissionValues permissions,
   (StoreOperation.listPermissions.label,
     ofStore .listPermissions [] fun _ => .records Permission.toValue <$> listPermissions),
   asking .getRole "role_id" fun id => .recordIfAny Role.toValue <$> role? id,
   asking .getRoles "role_ids" fun ids => .records Role.toValue <$> rolesOf ids,
   asking .listRoles "organization_id" fun organization =>
     .records Role.toValue <$> rolesIn organization,
   askingTwo .findRoleBySlug "slug" "organization_id" fun slug organization =>
     .recordIfAny Role.toValue <$> roleBySlug? slug organization,
   asking .saveRole "role" fun role => do
     .value <$> saveRole (← orFail (RoleStore.roleOf role)),
   asking .deleteRole "role_id" fun id => .value <$> deleteRole id,
   asking .countRoleAssignments "role_id" fun id => .value <$> countHolders id,
   askingTwo .addAssignment "user_id" "role_id" fun user id => .value <$> assign user id,
   askingTwo .removeAssignment "user_id" "role_id" fun user id => .value <$> revoke user id,
   asking .getUserRoleIds "user_id" fun user => .value <$> rolesHeldBy user]

/-- The procedures of the policy store. -/
def ofPolicyStore [Host] : List (String × Procedure) :=
  [askingAny .listPolicies "organization_id" fun organization =>
     .records Policy.toValue <$> policiesIn organization,
   asking .getPolicy "policy_id" fun id => .recordIfAny Policy.toValue <$> policy? id,
   askingTwo .findPolicyByKey "key" "organization_id" fun key organization =>
     .recordIfAny Policy.toValue <$> policyByKey? key organization,
   asking .savePolicy "policy" fun policy => do
     .value <$> savePolicy (← orFail (PolicyStore.policyOf policy)),
   asking .deletePolicy "policy_id" fun id => .value <$> deletePolicy id,
   askingAny .listRules "policy_id" fun policyId =>
     .records PolicyRule.toValue <$> rulesOfPolicy policyId,
   asking .getRule "rule_id" fun id => .recordIfAny PolicyRule.toValue <$> rule? id,
   asking .countRules "policy_id" fun policyId => .value <$> countRules policyId,
   asking .saveRules "rules" fun rules => .value <$> saveRuleValues rules,
   asking .deleteRule "rule_id" fun id => .value <$> deleteRule id,
   asking .subscribe "listener" fun listener => .value <$> subscribe listener]

end Authorization.Procedure

/-!
## All procedures

Every procedure of the system under its name, and how a call finds it.
-/

namespace Authorization

namespace Procedure

/-- All procedures with their names. -/
def all [Host] : List (String × Procedure) :=
  Administration.ofRoles ++ Administration.ofPolicies ++ ofRoleStore ++ ofPolicyStore ++
    ofPermissions ++ ofRegistry ++ ofDecisions ++ ofSurroundings

end Procedure

namespace Service

/-- Calls the procedure of a name. -/
def call [Host] (name : String) (arguments : Arguments) : Service Reply :=
  match Procedure.all.lookup name with
  | some procedure => procedure arguments
  | none => orFail (fault .attribute ("there is no procedure '" ++ name ++ "'"))

end Service

end Authorization
