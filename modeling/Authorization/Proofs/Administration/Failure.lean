import Authorization.Proofs.Administration.Copies
import Authorization.Proofs.Store.Plain
import Authorization.Proofs.System.Session
import Authorization.Proofs.Tenancy.PolicyAdministration

/-!
# Requests that fail

A request of an administrator that fails leaves what is stored as it was, whatever was given with it.
-/

namespace Authorization

open Service

variable {catalog : RuleCatalog} {fixed : Keyed String PolicyChain} {system after : System}

/-! ## All requests -/

namespace AdminCall

/-- Who is logged as the actor of a call; nobody where nothing is logged. -/
def actor : AdminCall → Value
  | .createRole _ _ _ _ _ actor
  | .updateRole _ actor _
  | .deleteRole _ actor
  | .assignRole _ _ actor
  | .revokeRole _ _ actor
  | .createPolicy _ _ _ _ actor
  | .updatePolicy _ actor _
  | .deletePolicy _ actor
  | .clonePolicy _ _ _ _ actor
  | .addRule _ _ _ _ _ _ _ actor
  | .updateRule _ _ actor _
  | .deleteRule _ _ actor
  | .reorderRules _ _ actor => actor
  | _ => .null

/-- Every call but copying a policy fails without a trace. -/
theorem undone_perform [Host] {base : System} {call : AdminCall} {written : String}
    (isWritten : call.actor.toText = .ok written)
    (isOther : ∀ source name key description actor,
      call ≠ .clonePolicy source name key description actor) (organization : Value) :
    Undone catalog fixed base (call.perform organization) := by
  have ofStores := @System.ofStores_standing catalog fixed base
  cases call with
  | createRole => exact (RoleAdministration.undone_create isWritten _ _ _ _ _ _).map _
  | listRoles => exact ((RoleAdministration.keeps_list ofStores.toOfUnplanned _).map _).undone
  | getRole => exact ((RoleAdministration.keeps_find ofStores.toOfUnplanned _ _).map _).undone
  | updateRole => exact (RoleAdministration.undone_update isWritten _ _ _).map _
  | deleteRole => exact (RoleAdministration.undone_delete isWritten _ _).map _
  | assignRole => exact (RoleAdministration.undone_assign isWritten _ _ _).map _
  | revokeRole => exact (RoleAdministration.undone_revoke isWritten _ _ _).map _
  | createPolicy => exact (PolicyAdministration.undone_create isWritten _ _ _ _ _).map _
  | listPolicies => exact ((PolicyAdministration.keeps_list ofStores _).map _).undone
  | getPolicy => exact ((PolicyAdministration.keeps_find ofStores _ _).map _).undone
  | getPolicyByKey => exact ((PolicyAdministration.keeps_findByKey ofStores _ _).map _).undone
  | updatePolicy => exact (PolicyAdministration.undone_update isWritten _ _ _).map _
  | deletePolicy => exact (PolicyAdministration.undone_delete isWritten _ _).map _
  | clonePolicy => exact absurd rfl (isOther _ _ _ _ _)
  | testPolicy => exact ((PolicyAdministration.keeps_test ofStores _ _ _ _ _).map _).undone
  | listRules => exact ((PolicyAdministration.keeps_listRules ofStores _ _).map _).undone
  | addRule => exact (PolicyAdministration.undone_addRule isWritten _ _ _ _ _ _ _ _).map _
  | getRule => exact ((PolicyAdministration.keeps_findRule ofStores _ _ _).map _).undone
  | updateRule => exact (PolicyAdministration.undone_updateRule isWritten _ _ _ _).map _
  | deleteRule => exact (PolicyAdministration.undone_deleteRule isWritten _ _ _).map _
  | reorderRules => exact (PolicyAdministration.undone_reorder isWritten _ _ _).map _

end AdminCall

namespace AdminRequest

/-- Who is logged as the actor of a request; nobody where nothing is logged. -/
def actor : AdminRequest → Value
  | .call _ made => made.actor
  | _ => .null

/-- The request is to copy a policy, the policy is there, and the copy can be created. -/
def CanCopy [Host] (system : System) : AdminRequest → Prop
  | .call organization (.clonePolicy sourceId name key description actor) =>
    PolicyAdministration.CanCopy system organization sourceId name key description actor
  | _ => False

theorem intact_or_rebuilt_of_perform [Host] (orderly : system.Orderly catalog fixed)
    (fresh : system.FreshIds) {request : AdminRequest} {written : String}
    (isWritten : request.actor.toText = .ok written) {error : Error}
    (fails : exec request.perform system = (.error error, after)) :
    system.Intact after ∨ request.CanCopy system ∧
      after.roles = system.roles ∧ after.policies = system.policies ∧
      after.registry = system.registry.advanced (2 * system.listeners.count .registry) := by
  have ofStores := @System.ofStores_standing catalog fixed system
  have standing : System.Standing catalog fixed system system := ⟨orderly, rfl, rfl, rfl, rfl⟩
  have intact (undone : Undone catalog fixed system request.perform) : system.Intact after := by
    have failed := undone system standing error
    rw [fails] at failed
    exact (failed rfl).intact
  cases request with
  | listPermissions => exact .inl (intact (ofStores.listPermissions.map _).undone)
  | rolesHeldBy user => exact .inl (intact ((ofStores.rolesHeldBy user).map _).undone)
  | ruleTypes => exact .inl (intact (keeps_get.bind fun _ => keeps_pure _).undone)
  | call organization made =>
      by_cases isCopy : ∃ source name key description actor,
          made = .clonePolicy source name key description actor
      · obtain ⟨source, name, key, description, actor, rfl⟩ := isCopy
        have cloned : exec (PolicyAdministration.clone organization source name key description actor)
            system = (.error error, after) := by
          rw [perform, AdminCall.perform, exec_map] at fails
          revert fails
          rcases exec (PolicyAdministration.clone organization source name key description actor)
            system with ⟨failure | copy, later⟩ <;> intro fails <;> cases fails
          rfl
        by_cases canCopy : PolicyAdministration.CanCopy system organization source name key description
            actor
        · exact .inr ⟨canCopy,
            PolicyAdministration.rebuilt_of_clone orderly fresh isWritten canCopy cloned⟩
        · exact .inl (PolicyAdministration.intact_of_clone orderly isWritten canCopy cloned)
      · refine .inl (intact (made.undone_perform isWritten ?_ organization))
        rintro source name key description actor rfl
        exact isCopy ⟨source, name, key, description, actor, rfl⟩

/-- In a system in use, a request that fails leaves all that is stored as it was. It leaves the snapshot of
the registry as it was, too, except that the copy of a policy may be created and taken away again: then
the snapshot differs by its version, which two rebuildings have raised. -/
theorem failure_changes_nothing [Host] {parts : Parts} {start : System} (roles : parts.roles.Accepted)
    (policies : parts.policies.Accepted) (assembled : assemble parts = .ok start) (ids : IdSource)
    (reaches : System.Reaches { start with ids } system) (fresh : system.FreshIds)
    (request : AdminRequest) {written : String} (isWritten : request.actor.toText = .ok written)
    {error : Error} (fails : exec request.perform system = (.error error, after)) :
    after.roles = system.roles ∧ after.policies = system.policies ∧
      (after.registry = system.registry ∨
        request.CanCopy system ∧ after.registry = system.registry.advanced 2) := by
  obtain ⟨catalog, fixed, orderly⟩ := reaches.exists_orderly roles policies assembled ids
  have heard : system.Heard Listener.HearOnce := by
    refine reaches.keeps System.Heard.lasting ?_
    exact System.Heard.ofContents.others start _ _ _ _ _ _ (hearOnce_of_assemble assembled)
  have once : system.listeners.count .registry = 1 := heard.listeners
  rcases intact_or_rebuilt_of_perform orderly fresh isWritten fails with
    intact | ⟨canCopy, sameRoles, samePolicies, rebuilt⟩
  · exact ⟨intact.roles, intact.policies, .inl intact.registry⟩
  · rw [once] at rebuilt
    exact ⟨sameRoles, samePolicies, .inr ⟨canCopy, rebuilt⟩⟩

/-! ### A copy that cannot be completed -/

/-- A policy on changes of customers, and its rule. -/
def updatesOfCustomers : Policy :=
  ⟨"11111111-1111-1111-1111-111111111111", "customer:update", "Updates", "acme",
    .str "Policy for customer:update", .bool true⟩

def ruleOfUpdates : PolicyRule :=
  ⟨"22222222-2222-2222-2222-222222222222", updatesOfCustomers.id, "Owners", "ownership", .proxy [], 1,
    .bool true, .null⟩

/-- The parts of a system on tables that hold the policy with one rule. -/
def partsOfUpdates : Parts :=
  { roles := { backend := .tables }
    policies :=
      { backend := .tables
        policies := [(updatesOfCustomers.id, updatesOfCustomers)]
        rules := [(ruleOfUpdates.id, ruleOfUpdates)] }
    clock := ⟨0, some 0⟩
    isSeeded := false }

/-- New identifiers of which only the first is a UUID. -/
def mixedIds : IdSource :=
  { spell := fun number => if number = 1 then "33333333-3333-3333-3333-333333333333" else "copy" }

theorem sound_partsOfUpdates : partsOfUpdates.policies.Sound where
  policies := ⟨by decide, by decide⟩
  rules := ⟨by decide, by decide⟩
  keptPolicies := List.forall_mem_singleton.2 rfl
  keptRules := List.forall_mem_singleton.2 rfl
  unique := List.forall_mem_singleton.2 (List.forall_mem_singleton.2 fun _ _ => rfl)
  owned := List.forall_mem_singleton.2 ⟨_, .head _, rfl⟩

theorem accepted_partsOfUpdates :
    partsOfUpdates.roles.Accepted ∧ partsOfUpdates.policies.Accepted := by
  refine ⟨.tables rfl ⟨.nil, .nil, List.forall_mem_nil _, fun _ => List.forall_mem_nil _⟩, ?_⟩
  exact .tables rfl sound_partsOfUpdates

/-- The system of these parts. -/
def systemOfUpdates (registry : Registry) (counted : Nat) (journal : Journal) : System :=
  { roles := partsOfUpdates.roles, policies := partsOfUpdates.policies, registry
    ids := mixedIds, clock := partsOfUpdates.clock, listeners := [.registry], counted, journal }

theorem exists_systemOfUpdates [Host] : ∃ start registry counted journal,
    assemble partsOfUpdates = .ok start ∧
      { start with ids := mixedIds } = systemOfUpdates registry counted journal := by
  have isAccepted := accepted_partsOfUpdates
  obtain ⟨registry, counted, journal, assembled⟩ :=
    @exists_assemble _ partsOfUpdates rfl isAccepted.1.sound isAccepted.2.sound
  exact ⟨_, registry, counted, journal, assembled, rfl⟩

variable (registry : Registry) (counted : Nat) (journal : Journal)

/-- No UUID comes after the first identifier, and nothing is stored under that. -/
theorem freshIds_systemOfUpdates : (systemOfUpdates registry counted journal).FreshIds := by
  have named {number : Nat} {id : String}
      (names : Backend.tables.identifier (.str (mixedIds.spell number)) = .ok (some id)) :
      number = 1 ∧ id = "33333333-3333-3333-3333-333333333333" := by
    rw [Backend.identifier_str, mixedIds] at names
    dsimp only at names
    split at names
    · next isFirst => exact ⟨isFirst, (Option.some.inj (Except.ok.inj names)).symm⟩
    · cases names
  have distinct (number another : Nat) (id : String)
      (names : Backend.tables.identifier (.str (mixedIds.spell number)) = .ok (some id))
      (others : Backend.tables.identifier (.str (mixedIds.spell another)) = .ok (some id)) :
      number = another :=
    (named names).1.trans (named others).1.symm
  constructor
  · refine ⟨fun number id _ names isUsed => ?_, fun number another id _ _ => distinct number another id⟩
    obtain ⟨_, rfl⟩ := named names
    rcases isUsed with ⟨policy, member, same⟩ | ⟨rule, member, same⟩
    · obtain rfl := List.mem_singleton.1 member
      exact absurd same (by decide)
    · obtain rfl := List.mem_singleton.1 member
      exact absurd same (by decide)
  · refine ⟨fun number id _ _ isUsed => ?_, fun number another id _ _ => distinct number another id⟩
    rcases isUsed with ⟨role, member, _⟩ | ⟨assignment, member, _⟩
    · cases member
    · cases member

theorem exec_find_systemOfUpdates :
    exec (PolicyAdministration.find (.str "acme") (.str updatesOfCustomers.id))
      (systemOfUpdates registry counted journal) =
        (.ok updatesOfCustomers, systemOfUpdates registry counted journal) := by
  rw [PolicyAdministration.exec_find rfl]
  rfl

open scoped Host in
/-- The policy is not deleted, for it has a rule. -/
theorem failed_delete_changes_nothing : ∃ start after, assemble partsOfUpdates = .ok start ∧
    System.FreshIds { start with ids := mixedIds } ∧
    exec (perform (.call (.str "acme") (.deletePolicy (.str updatesOfCustomers.id) .null)))
      { start with ids := mixedIds } =
        (.error (.referenced .policy updatesOfCustomers.id (.rules "1")), after) ∧
    after.roles = start.roles ∧ after.policies = start.policies ∧ after.registry = start.registry := by
  obtain ⟨start, registry, counted, journal, assembled, isStart⟩ := exists_systemOfUpdates
  have fresh := freshIds_systemOfUpdates registry counted journal
  have isPositive : PolicyAdministration.isPositive (.int (1 : Nat)) = .ok true := by
    simp only [PolicyAdministration.isPositive, Value.related?]
    rfl
  have fails : exec (perform (.call (.str "acme") (.deletePolicy (.str updatesOfCustomers.id) .null)))
      (systemOfUpdates registry counted journal) =
        (.error (.referenced .policy updatesOfCustomers.id (.rules "1")),
          systemOfUpdates registry counted journal) := by
    rw [perform, AdminCall.perform, exec_map]
    unfold PolicyAdministration.delete
    have count : (systemOfUpdates registry counted journal).policies.countRules
        (.str updatesOfCustomers.id) = 1 := rfl
    rw [exec_bind_of_ok (exec_find_systemOfUpdates registry counted journal),
      exec_bind_of_ok (exec_countRules rfl _), count, isPositive, exec_orFail_ok]
    rfl
  rw [← isStart] at fresh fails
  obtain ⟨sameRoles, samePolicies, sameRegistry⟩ := failure_changes_nothing accepted_partsOfUpdates.1
    accepted_partsOfUpdates.2 assembled mixedIds .refl fresh _ rfl fails
  refine ⟨start, _, assembled, fresh, fails, sameRoles, samePolicies, ?_⟩
  rcases sameRegistry with same | ⟨canCopy, _⟩
  · exact same
  · cases canCopy

/-- A request to copy the policy, under another key. -/
def copyOfUpdates : AdminRequest :=
  .call (.str "acme") (.clonePolicy (.str updatesOfCustomers.id) (.str "Deletions")
    (.str "customer:delete") .null .null)

/-- The copy as it would be. -/
def deletionsOfCustomers : Policy :=
  ⟨"33333333-3333-3333-3333-333333333333", "customer:delete", "Deletions", "acme",
    .str "Cloned from Updates", .bool true⟩

theorem exists_saved_deletionsOfCustomers :
    ∃ next, partsOfUpdates.policies.savePolicy deletionsOfCustomers = .ok next := by
  have identified : partsOfUpdates.policies.policyIdentifier deletionsOfCustomers.id =
      .ok deletionsOfCustomers.id := rfl
  have noClash : partsOfUpdates.policies.hasClash deletionsOfCustomers = false := rfl
  have isWhole : Column.encoded [.str deletionsOfCustomers.organization,
      .str deletionsOfCustomers.key, .str deletionsOfCustomers.name,
      deletionsOfCustomers.description] = .ok () := rfl
  have isKept : partsOfUpdates.policies.kept deletionsOfCustomers = .ok deletionsOfCustomers :=
    PolicyStore.kept_eq_self _ (Column.text_str _) isWhole rfl
  unfold PolicyStore.savePolicy
  rw [identified, Except.ok_bind]
  dsimp only
  exact ⟨_, by rw [noClash, if_neg Bool.false_ne_true, isKept]; rfl⟩

theorem exec_create_systemOfUpdates [Host]
    (orderly : System.Orderly catalog fixed (systemOfUpdates registry counted journal)) :
    (exec (PolicyAdministration.create (.str "acme") (.str "Deletions") (.str "customer:delete")
      (PolicyAdministration.copyDescription updatesOfCustomers .null) (.bool true) .null)
      (systemOfUpdates registry counted journal)).1 = .ok deletionsOfCustomers := by
  have isOwner : Cleaning.text "organization_id" (.str "acme") = .ok "acme" := rfl
  have isNamed : Cleaning.text "name" (.str "Deletions") = .ok "Deletions" := rfl
  have isKeyed : Cleaning.key (.str "customer:delete") = .ok "customer:delete" := rfl
  have isDescribed : Cleaning.optionalText "description"
      (PolicyAdministration.copyDescription updatesOfCustomers .null) =
        .ok (some "Cloned from Updates") := rfl
  have asked : (systemOfUpdates registry counted journal).policies.backend.asks
      [.str "customer:delete", .str "acme"] = .ok () := rfl
  have free : ((systemOfUpdates registry counted journal).policies.policyByKey?
      (.str "customer:delete") (.str "acme")).isSome = false := rfl
  obtain ⟨next, saved⟩ := exists_saved_deletionsOfCustomers
  exact PolicyAdministration.exec_create_of_free orderly rfl isOwner isNamed isKeyed isDescribed true
    asked free saved

open scoped Host in
/-- The policy cannot be copied, for the rule of the copy would have an identifier that is no UUID. The
registry has been rebuilt with the copy, and without it. -/
theorem failed_copy_raises_version : ∃ start after,
    partsOfUpdates.roles.Accepted ∧ partsOfUpdates.policies.Accepted ∧
    assemble partsOfUpdates = .ok start ∧ System.FreshIds { start with ids := mixedIds } ∧
    exec copyOfUpdates.perform { start with ids := mixedIds } =
      (.error (.inadmissible (.ruleNotUuid "copy")), after) ∧
    after.registry.snapshot.version ≠ start.registry.snapshot.version := by
  obtain ⟨start, registry, counted, journal, assembled, isStart⟩ := exists_systemOfUpdates
  have isAccepted := accepted_partsOfUpdates
  have fresh := freshIds_systemOfUpdates registry counted journal
  obtain ⟨catalog, fixed, orderly⟩ := System.Reaches.exists_orderly isAccepted.1 isAccepted.2
    assembled mixedIds .refl
  rw [isStart] at orderly
  have found := exec_find_systemOfUpdates registry counted journal
  have created := exec_create_systemOfUpdates registry counted journal orderly
  have keeps : partsOfUpdates.policies.backend.Keeps updatesOfCustomers.id := rfl
  have listed : (systemOfUpdates registry counted journal).policies.rulesOf
      (.str updatesOfCustomers.id) = .ok [ruleOfUpdates] :=
    (PolicyStore.rulesOf_str keeps).trans (congrArg Except.ok (List.mergeSort_singleton _))
  have notUuid : Text.Uuid.canonical? (mixedIds.spell 2) = none := rfl
  have failed := PolicyAdministration.exec_clone_of_notUuid orderly fresh rfl found listed created
    notUuid
  obtain ⟨after, fails⟩ : ∃ after, exec (PolicyAdministration.clone (.str "acme")
      (.str updatesOfCustomers.id) (.str "Deletions") (.str "customer:delete") .null .null)
      (systemOfUpdates registry counted journal) =
        (.error (.inadmissible (.ruleNotUuid "copy")), after) := ⟨_, Prod.ext failed rfl⟩
  have canCopy : PolicyAdministration.CanCopy (systemOfUpdates registry counted journal) (.str "acme")
      (.str updatesOfCustomers.id) (.str "Deletions") (.str "customer:delete") .null .null :=
    ⟨_, _, congrArg Prod.fst found, created⟩
  obtain ⟨_, _, rebuilt⟩ := PolicyAdministration.rebuilt_of_clone orderly fresh rfl canCopy fails
  refine ⟨start, after, isAccepted.1, isAccepted.2, assembled, ?_, ?_, ?_⟩
  · rw [isStart]
    exact fresh
  · rw [isStart, copyOfUpdates, perform, AdminCall.perform, exec_map, fails]
    rfl
  · have sameRegistry : start.registry = registry := congrArg System.registry isStart
    have later : after.registry.snapshot.version = start.registry.snapshot.version + 2 := by
      rw [rebuilt, sameRegistry]
      rfl
    omega

end AdminRequest

end Authorization
