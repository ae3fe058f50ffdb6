import Authorization.Administration.Call
import Authorization.Procedure.Basic

/-!
# Procedures of administrators

Roles, who holds them, policies and their rules. Every change may name the actor who makes it.
-/

namespace Authorization.Procedure.Administration

open Service

def organization : Parameter := .needed "organization_id"

def actor : Parameter := .optional "actor_id" .null

/-- A call for an organization, which is the first parameter. -/
def forOrganization [Host] (parameters : List Parameter) (call : Bindings → AdminCall) : Procedure :=
  of (organization :: parameters) fun given =>
    (AdminRequest.call (given.value "organization_id") (call given)).perform

/-! ## Roles -/

def createRole [Host] : Procedure :=
  forOrganization [.needed "name", .needed "slug", .optional "permissions" (.tuple []),
      .optional "description" .null, .optional "is_default" (.bool false), actor] fun given =>
    .createRole (given.value "name") (given.value "slug") (given.value "permissions")
      (given.value "description") (given.value "is_default") (given.value "actor_id")

def listRoles [Host] : Procedure :=
  forOrganization [] fun _ => .listRoles

def getRole [Host] : Procedure :=
  forOrganization [.needed "role_id"] fun given => .getRole (given.value "role_id")

def updateRole [Host] : Procedure :=
  ofChange 2 fun identifiers actor changes =>
    match identifiers with
    | [organization, id] => (AdminRequest.call organization (.updateRole id actor changes)).perform
    | _ => return .nothing

def deleteRole [Host] : Procedure :=
  forOrganization [.needed "role_id", actor] fun given =>
    .deleteRole (given.value "role_id") (given.value "actor_id")

/-- Procedures on who holds a role. -/
def onHolder [Host] (call : Value → Value → Value → AdminCall) : Procedure :=
  forOrganization [.needed "user_id", .needed "role_id", actor] fun given =>
    call (given.value "user_id") (given.value "role_id") (given.value "actor_id")

/-- The procedures on roles. -/
def ofRoles [Host] : List (String × Procedure) :=
  [("role_admin.list_permissions", plain AdminRequest.listPermissions.perform),
   ("role_admin.create_role", createRole),
   ("role_admin.list_roles", listRoles),
   ("role_admin.get_role", getRole),
   ("role_admin.update_role", updateRole),
   ("role_admin.delete_role", deleteRole),
   ("role_admin.assign_role", onHolder .assignRole),
   ("role_admin.revoke_role", onHolder .revokeRole),
   ("role_admin.user_role_ids", of [.needed "user_id"] fun given =>
     (AdminRequest.rolesHeldBy (given.value "user_id")).perform)]

/-! ## Policies -/

def policyId : Parameter := .needed "policy_id"

def createPolicy [Host] : Procedure :=
  forOrganization [.needed "name", .needed "key", .optional "description" .null,
      .optional "active" (.bool true), actor] fun given =>
    .createPolicy (given.value "name") (given.value "key") (given.value "description")
      (given.value "active") (given.value "actor_id")

def listPolicies [Host] : Procedure :=
  forOrganization [] fun _ => .listPolicies

def getPolicy [Host] : Procedure :=
  forOrganization [policyId] fun given => .getPolicy (given.value "policy_id")

def getPolicyByKey [Host] : Procedure :=
  forOrganization [.needed "key"] fun given => .getPolicyByKey (given.value "key")

def updatePolicy [Host] : Procedure :=
  ofChange 2 fun identifiers actor changes =>
    match identifiers with
    | [organization, id] => (AdminRequest.call organization (.updatePolicy id actor changes)).perform
    | _ => return .nothing

def deletePolicy [Host] : Procedure :=
  forOrganization [policyId, actor] fun given =>
    .deletePolicy (given.value "policy_id") (given.value "actor_id")

def clonePolicy [Host] : Procedure :=
  forOrganization [.needed "source_policy_id", .needed "name", .needed "key",
      .optional "description" .null, actor] fun given =>
    .clonePolicy (given.value "source_policy_id") (given.value "name") (given.value "key")
      (given.value "description") (given.value "actor_id")

def testPolicy [Host] : Procedure :=
  forOrganization [policyId, .needed "principal", .needed "instance",
      .optional "context" .null] fun given =>
    .testPolicy (given.value "policy_id") (given.value "principal") (given.value "instance")
      (given.value "context")

/-! ## Rules -/

def listRules [Host] : Procedure :=
  forOrganization [policyId] fun given => .listRules (given.value "policy_id")

def addRule [Host] : Procedure :=
  forOrganization [policyId, .needed "name", .needed "type", .optional "config" .null,
      .optional "order" .null, .optional "active" (.bool true), .optional "description" .null,
      actor] fun given =>
    .addRule (given.value "policy_id") (given.value "name") (given.value "type")
      (given.value "config") (given.value "order") (given.value "active")
      (given.value "description") (given.value "actor_id")

def getRule [Host] : Procedure :=
  forOrganization [policyId, .needed "rule_id"] fun given =>
    .getRule (given.value "policy_id") (given.value "rule_id")

def updateRule [Host] : Procedure :=
  ofChange 3 fun identifiers actor changes =>
    match identifiers with
    | [organization, policyId, id] =>
      (AdminRequest.call organization (.updateRule policyId id actor changes)).perform
    | _ => return .nothing

def deleteRule [Host] : Procedure :=
  forOrganization [policyId, .needed "rule_id", actor] fun given =>
    .deleteRule (given.value "policy_id") (given.value "rule_id") (given.value "actor_id")

def reorderRules [Host] : Procedure :=
  forOrganization [policyId, .needed "orders", actor] fun given =>
    .reorderRules (given.value "policy_id") (given.value "orders") (given.value "actor_id")

def ruleTypes [Host] : Procedure :=
  plain AdminRequest.ruleTypes.perform

/-- The procedures on policies and their rules. -/
def ofPolicies [Host] : List (String × Procedure) :=
  [("policy_admin.create_policy", createPolicy),
   ("policy_admin.list_policies", listPolicies),
   ("policy_admin.get_policy", getPolicy),
   ("policy_admin.get_policy_by_key", getPolicyByKey),
   ("policy_admin.update_policy", updatePolicy),
   ("policy_admin.delete_policy", deletePolicy),
   ("policy_admin.clone_policy", clonePolicy),
   ("policy_admin.test_policy", testPolicy),
   ("policy_admin.list_rules", listRules),
   ("policy_admin.add_rule", addRule),
   ("policy_admin.get_rule", getRule),
   ("policy_admin.update_rule", updateRule),
   ("policy_admin.delete_rule", deleteRule),
   ("policy_admin.reorder_rules", reorderRules),
   ("policy_admin.rule_types", ruleTypes)]

end Authorization.Procedure.Administration
