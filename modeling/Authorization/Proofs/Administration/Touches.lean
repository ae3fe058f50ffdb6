import Authorization.Proofs.Administration.PolicyEffects
import Authorization.Proofs.Administration.RoleEffects

/-!
# Calls touch only what they name

With both stores in memory and fresh identifiers, every call of an administrator that succeeds changes what
it names and nothing else that is stored: it exchanges one role, one policy or one rule, settles whether one
user holds one role, adds the copy of a policy with its rules, or changes the numbers of rules of one
policy. A record that is returned is the one that is stored then. Calls that only look change nothing.
-/

namespace Authorization

open Service

variable {catalog : RuleCatalog} {fixed : Keyed String PolicyChain} {system after : System}

namespace AdminCall

/-- A call that looks at the stores only. -/
def isReading : AdminCall → Bool
  | .listRoles | .getRole _ | .listPolicies | .getPolicy _ | .getPolicyByKey _
  | .testPolicy _ _ _ _ | .listRules _ | .getRule _ _ => true
  | _ => false

/-- What a call for an organization that succeeds changes, and what it replies. -/
inductive Touches (organization : Value) (system after : System) : AdminCall → Reply → Prop
  | createRole {name slug permissions description isDefault actor : Value} {role : Role}
      (isCreated : RoleAdministration.IsCreated system organization name slug permissions description
        isDefault role)
      (added : system.ExchangesRole after role.id none (some role)) :
      Touches organization system after
        (.createRole name slug permissions description isDefault actor) (.record Role.toValue role)
  | updateRole {id actor : Value} {changes : Bindings} {role updated : Role}
      (finds : RoleAdministration.Finds system organization id role)
      (isUpdated : RoleAdministration.IsUpdated system changes role updated)
      (exchanged : system.ExchangesRole after updated.id (some role) (some updated)) :
      Touches organization system after (.updateRole id actor changes) (.record Role.toValue updated)
  | deleteRole {id actor : Value} {role : Role}
      (finds : RoleAdministration.Finds system organization id role)
      (removed : system.ExchangesRole after role.id (some role) none) :
      Touches organization system after (.deleteRole id actor) .nothing
  | assignRole {user id actor : Value} {role : Role} {holder : String} {isNew : Bool}
      (settles : RoleAdministration.Settles system after organization user id role holder true)
      (tells : isNew = true ↔
        (Value.str holder, Value.str role.id) ∉ system.roles.assignments) :
      Touches organization system after (.assignRole user id actor) (.flag isNew)
  | revokeRole {user id actor : Value} {role : Role} {holder : String} {wasHeld : Bool}
      (settles : RoleAdministration.Settles system after organization user id role holder false)
      (tells : wasHeld = true ↔
        (Value.str holder, Value.str role.id) ∈ system.roles.assignments) :
      Touches organization system after (.revokeRole user id actor) (.flag wasHeld)
  | createPolicy {name key description active actor : Value} {policy : Policy}
      (isCreated : PolicyAdministration.IsCreated organization name key description active policy)
      (added : system.ExchangesPolicy after policy.id none (some policy)) :
      Touches organization system after (.createPolicy name key description active actor)
        (.record Policy.toValue policy)
  | updatePolicy {id actor : Value} {changes : Bindings} {policy updated : Policy}
      (finds : PolicyAdministration.Finds system organization id policy)
      (isUpdated : PolicyAdministration.IsUpdated changes policy updated)
      (exchanged : system.ExchangesPolicy after updated.id (some policy) (some updated)) :
      Touches organization system after (.updatePolicy id actor changes)
        (.record Policy.toValue updated)
  | deletePolicy {id actor : Value} {policy : Policy}
      (finds : PolicyAdministration.Finds system organization id policy)
      (removed : system.ExchangesPolicy after policy.id (some policy) none) :
      Touches organization system after (.deletePolicy id actor) .nothing
  | clonePolicy {sourceId name key description actor : Value} {source copy : Policy}
      {made : List PolicyRule}
      (finds : PolicyAdministration.Finds system organization sourceId source)
      (isCreated : PolicyAdministration.IsCreated organization name key
        (PolicyAdministration.copyDescription source description) (.bool true) copy)
      (added : system.AddsCopy after source copy made) :
      Touches organization system after (.clonePolicy sourceId name key description actor)
        (.record Policy.toValue copy)
  | addRule {policyId name type config order active description actor : Value} {policy : Policy}
      {rule : PolicyRule}
      (finds : PolicyAdministration.Finds system organization policyId policy)
      (isAdded : PolicyAdministration.IsAdded system.policies policy name type config order active
        description rule)
      (added : system.ExchangesRule after rule.id none (some rule)) :
      Touches organization system after
        (.addRule policyId name type config order active description actor)
        (.record PolicyRule.toValue rule)
  | updateRule {policyId id actor : Value} {changes : Bindings} {policy : Policy}
      {rule updated : PolicyRule}
      (finds : PolicyAdministration.FindsRule system organization policyId id policy rule)
      (isUpdated : PolicyAdministration.IsUpdatedRule changes rule updated)
      (exchanged : system.ExchangesRule after updated.id (some rule) (some updated)) :
      Touches organization system after (.updateRule policyId id actor changes)
        (.record PolicyRule.toValue updated)
  | deleteRule {policyId id actor : Value} {policy : Policy} {rule : PolicyRule}
      (finds : PolicyAdministration.FindsRule system organization policyId id policy rule)
      (removed : system.ExchangesRule after rule.id (some rule) none) :
      Touches organization system after (.deleteRule policyId id actor) .nothing
  | reorderRules {policyId orders actor : Value} {policy : Policy} {entries : List (Value × Value)}
      {listed : List PolicyRule}
      (finds : PolicyAdministration.Finds system organization policyId policy)
      (isMapping : orders.entries? = some entries)
      (renumbers : system.Renumbers after policy entries)
      (isListed : ∀ rule, rule ∈ listed ↔
        after.policies.rules.get? rule.id = some rule ∧ rule.policyId = policy.id) :
      Touches organization system after (.reorderRules policyId orders actor)
        (.records PolicyRule.toValue listed)
  | reading {call : AdminCall} {reply : Reply} (isReading : call.isReading = true)
      (same : system.SameStores after) : Touches organization system after call reply

/-! ## Looking -/

theorem sameStores_of_reading [Host] (orderly : system.Orderly catalog fixed) {call : AdminCall}
    (isReading : call.isReading = true) {organization : Value} {result : Except Error Reply}
    (performed : exec (call.perform organization) system = (result, after)) :
    system.SameStores after := by
  have ofStores := @System.ofStores_standing catalog fixed system
  have keeps : Keeps (System.Standing catalog fixed system) (call.perform organization) := by
    cases call with
    | listRoles => exact (RoleAdministration.keeps_list ofStores.toOfUnplanned _).map _
    | getRole => exact (RoleAdministration.keeps_find ofStores.toOfUnplanned _ _).map _
    | listPolicies => exact (PolicyAdministration.keeps_list ofStores _).map _
    | getPolicy => exact (PolicyAdministration.keeps_find ofStores _ _).map _
    | getPolicyByKey => exact (PolicyAdministration.keeps_findByKey ofStores _ _).map _
    | testPolicy => exact (PolicyAdministration.keeps_test ofStores _ _ _ _ _).map _
    | listRules => exact (PolicyAdministration.keeps_listRules ofStores _ _).map _
    | getRule => exact (PolicyAdministration.keeps_findRule ofStores _ _ _).map _
    | _ => cases isReading
  have standing := keeps system ⟨orderly, rfl, rfl, rfl, rfl⟩
  rw [performed] at standing
  exact ⟨standing.intact.policies, standing.intact.roles⟩

/-! ## Changing -/

/-- In a system in use that was put together with stores in memory and draws fresh identifiers, a call that
succeeds touches only what it names. A role, a policy or a rule that is created is added under a new
identifier; one that is changed keeps its identifier and where it belongs and has the given fields, cleaned;
one that is deleted is taken away. To assign or to revoke a role concerns one pair of a user and a role. All
other roles, policies, rules and assignments and the catalog of permissions are as before, and a record that
is returned is stored under its identifier. -/
theorem touches_of_perform [Host] {parts : Parts} {start : System} (roles : parts.roles.Accepted)
    (policies : parts.policies.Accepted) (rolesInMemory : parts.roles.backend = .memory)
    (policiesInMemory : parts.policies.backend = .memory) (assembled : assemble parts = .ok start)
    (ids : IdSource) (reaches : System.Reaches { start with ids } system) (fresh : system.FreshIds)
    {organization : Value} {call : AdminCall} {reply : Reply}
    (succeeds : exec (call.perform organization) system = (.ok reply, after)) :
    call.Touches organization system after reply := by
  have ofRoles := reaches.rolesInMemory roles rolesInMemory assembled ids
  obtain ⟨catalog, fixed, inMemory⟩ :=
    reaches.exists_inMemory roles policies policiesInMemory assembled ids
  by_cases isReading : call.isReading = true
  · exact .reading isReading (sameStores_of_reading inMemory.toOrderly isReading succeeds)
  cases call with
  | createRole =>
      obtain ⟨role, executed, rfl⟩ := exec_map_eq_ok succeeds
      obtain ⟨isCreated, added⟩ := RoleAdministration.effect_of_create ofRoles fresh executed
      exact .createRole isCreated added
  | updateRole =>
      obtain ⟨updated, executed, rfl⟩ := exec_map_eq_ok succeeds
      obtain ⟨role, finds, isUpdated, exchanged⟩ :=
        RoleAdministration.effect_of_update ofRoles executed
      exact .updateRole finds isUpdated (isUpdated.id ▸ exchanged)
  | deleteRole =>
      obtain ⟨⟨⟩, executed, rfl⟩ := exec_map_eq_ok succeeds
      obtain ⟨role, finds, removed⟩ := RoleAdministration.effect_of_delete ofRoles executed
      exact .deleteRole finds removed
  | assignRole =>
      obtain ⟨answer, executed, rfl⟩ := exec_map_eq_ok succeeds
      obtain ⟨role, holder, isNew, settles, rfl, tells⟩ :=
        RoleAdministration.effect_of_assign ofRoles executed
      exact .assignRole settles tells
  | revokeRole =>
      obtain ⟨answer, executed, rfl⟩ := exec_map_eq_ok succeeds
      obtain ⟨role, holder, wasHeld, settles, rfl, tells⟩ :=
        RoleAdministration.effect_of_revoke ofRoles executed
      exact .revokeRole settles tells
  | createPolicy =>
      obtain ⟨policy, executed, rfl⟩ := exec_map_eq_ok succeeds
      obtain ⟨isCreated, added⟩ := PolicyAdministration.effect_of_create inMemory fresh executed
      exact .createPolicy isCreated added
  | updatePolicy =>
      obtain ⟨updated, executed, rfl⟩ := exec_map_eq_ok succeeds
      obtain ⟨policy, finds, isUpdated, exchanged⟩ :=
        PolicyAdministration.effect_of_update inMemory executed
      exact .updatePolicy finds isUpdated (isUpdated.id ▸ exchanged)
  | deletePolicy =>
      obtain ⟨⟨⟩, executed, rfl⟩ := exec_map_eq_ok succeeds
      obtain ⟨policy, finds, removed⟩ := PolicyAdministration.effect_of_delete inMemory executed
      exact .deletePolicy finds removed
  | clonePolicy =>
      obtain ⟨copy, executed, rfl⟩ := exec_map_eq_ok succeeds
      have isSealed := reaches.sealed policies policiesInMemory assembled ids
      obtain ⟨source, made, finds, isCreated, added⟩ :=
        PolicyAdministration.effect_of_clone inMemory fresh isSealed executed
      exact .clonePolicy finds isCreated added
  | addRule =>
      obtain ⟨rule, executed, rfl⟩ := exec_map_eq_ok succeeds
      obtain ⟨policy, finds, isAdded, added⟩ :=
        PolicyAdministration.effect_of_addRule inMemory fresh executed
      exact .addRule finds isAdded added
  | updateRule =>
      obtain ⟨updated, executed, rfl⟩ := exec_map_eq_ok succeeds
      obtain ⟨policy, rule, finds, isUpdated, exchanged⟩ :=
        PolicyAdministration.effect_of_updateRule inMemory executed
      exact .updateRule finds isUpdated (isUpdated.id ▸ exchanged)
  | deleteRule =>
      obtain ⟨⟨⟩, executed, rfl⟩ := exec_map_eq_ok succeeds
      obtain ⟨policy, rule, finds, removed⟩ :=
        PolicyAdministration.effect_of_deleteRule inMemory executed
      exact .deleteRule finds removed
  | reorderRules =>
      obtain ⟨listed, executed, rfl⟩ := exec_map_eq_ok succeeds
      obtain ⟨policy, entries, finds, isMapping, renumbers, isListed⟩ :=
        PolicyAdministration.effect_of_reorder inMemory executed
      exact .reorderRules finds isMapping renumbers isListed
  | _ => exact absurd rfl isReading

open scoped Host in
/-- A policy with two rules is copied, and nothing else is touched. -/
theorem touches_of_perform_clone : ∃ start, assemble PolicyAdministration.partsOfTies = .ok start ∧
    ∃ copy after, exec ((clonePolicy (.str "p1") (.str "Reads") (.str "customer:read") .null
        .null).perform (.str "acme")) { start with ids := {} } =
          (.ok (.record Policy.toValue copy), after) ∧
      Touches (.str "acme") { start with ids := {} } after
        (.clonePolicy (.str "p1") (.str "Reads") (.str "customer:read") .null .null)
        (.record Policy.toValue copy) := by
  obtain ⟨roles, policies⟩ := PolicyAdministration.accepted_partsOfTies
  obtain ⟨start, assembled, fresh, ⟨catalog, fixed, inMemory⟩, ofTies⟩ :=
    PolicyAdministration.exists_systemOfTies 0
  obtain ⟨copy, after, executed⟩ :=
    PolicyAdministration.exists_exec_clone_partsOfTies inMemory ofTies (.head _) rfl
  have succeeds : exec ((clonePolicy (.str "p1") (.str "Reads") (.str "customer:read") .null
      .null).perform (.str "acme")) { start with ids := {} } =
        (.ok (.record Policy.toValue copy), after) :=
    exec_map_of_ok executed
  exact ⟨start, assembled, copy, after, succeeds,
    touches_of_perform roles policies rfl rfl assembled {} .refl fresh succeeds⟩

end AdminCall

end Authorization
