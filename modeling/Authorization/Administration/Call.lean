import Authorization.Administration.Policies
import Authorization.Administration.Roles
import Authorization.Procedure.Basic

/-!
# Calls of administrators

Everything that an administrator can ask for in the name of an organization: its roles and who holds
them, its policies and their rules. A call holds what is given with it, apart from the organization. Some
questions concern no organization: which permissions and which types of rules there are, and what a user
holds.
-/

namespace Authorization

/-- A call of an administrator. -/
inductive AdminCall where
  | createRole (name slug permissions description isDefault actor : Value)
  | listRoles
  | getRole (id : Value)
  | updateRole (id actor : Value) (changes : Bindings)
  | deleteRole (id actor : Value)
  | assignRole (user id actor : Value)
  | revokeRole (user id actor : Value)
  | createPolicy (name key description active actor : Value)
  | listPolicies
  | getPolicy (id : Value)
  | getPolicyByKey (key : Value)
  | updatePolicy (id actor : Value) (changes : Bindings)
  | deletePolicy (id actor : Value)
  | clonePolicy (source name key description actor : Value)
  | testPolicy (policyId principal instance? context : Value)
  | listRules (policyId : Value)
  | addRule (policyId name type config order active description actor : Value)
  | getRule (policyId id : Value)
  | updateRule (policyId id actor : Value) (changes : Bindings)
  | deleteRule (policyId id actor : Value)
  | reorderRules (policyId orders actor : Value)

namespace AdminCall

/-- Carries a call out for an organization. -/
def perform [Host] (organization : Value) : AdminCall → Service Reply
  | .createRole name slug permissions description isDefault actor =>
    .record Role.toValue <$>
      RoleAdministration.create organization name slug permissions description isDefault actor
  | .listRoles => .records Role.toValue <$> RoleAdministration.list organization
  | .getRole id => .record Role.toValue <$> RoleAdministration.find organization id
  | .updateRole id actor changes =>
    .record Role.toValue <$> RoleAdministration.update organization id actor changes
  | .deleteRole id actor =>
    (fun _ => .nothing) <$> RoleAdministration.delete organization id actor
  | .assignRole user id actor => .value <$> RoleAdministration.assign organization user id actor
  | .revokeRole user id actor => .value <$> RoleAdministration.revoke organization user id actor
  | .createPolicy name key description active actor =>
    .record Policy.toValue <$>
      PolicyAdministration.create organization name key description active actor
  | .listPolicies => .records Policy.toValue <$> PolicyAdministration.list organization
  | .getPolicy id => .record Policy.toValue <$> PolicyAdministration.find organization id
  | .getPolicyByKey key => .record Policy.toValue <$> PolicyAdministration.findByKey organization key
  | .updatePolicy id actor changes =>
    .record Policy.toValue <$> PolicyAdministration.update organization id actor changes
  | .deletePolicy id actor =>
    (fun _ => .nothing) <$> PolicyAdministration.delete organization id actor
  | .clonePolicy source name key description actor =>
    .record Policy.toValue <$>
      PolicyAdministration.clone organization source name key description actor
  | .testPolicy policyId principal instance? context =>
    .report <$> PolicyAdministration.test organization policyId principal instance? context
  | .listRules policyId =>
    .records PolicyRule.toValue <$> PolicyAdministration.listRules organization policyId
  | .addRule policyId name type config order active description actor =>
    .record PolicyRule.toValue <$>
      PolicyAdministration.addRule organization policyId name type config order active description
        actor
  | .getRule policyId id =>
    .record PolicyRule.toValue <$> PolicyAdministration.findRule organization policyId id
  | .updateRule policyId id actor changes =>
    .record PolicyRule.toValue <$>
      PolicyAdministration.updateRule organization policyId id actor changes
  | .deleteRule policyId id actor =>
    (fun _ => .nothing) <$> PolicyAdministration.deleteRule organization policyId id actor
  | .reorderRules policyId orders actor =>
    .records PolicyRule.toValue <$>
      PolicyAdministration.reorder organization policyId orders actor

end AdminCall

/-- What an administrator asks for: a call for an organization, or something that concerns none. -/
inductive AdminRequest where
  | call (organization : Value) (made : AdminCall)
  | listPermissions
  | rolesHeldBy (user : Value)
  | ruleTypes

/-- Carries a request out. -/
def AdminRequest.perform [Host] : AdminRequest → Service Reply
  | .call organization made => made.perform organization
  | .listPermissions => .records Permission.toValue <$> Service.listPermissions
  | .rolesHeldBy user => .value <$> Service.rolesHeldBy user
  | .ruleTypes => do return .ruleTypes (← get).registry.catalog.sorted

end Authorization
