import Authorization.Administration.Call
import Authorization.Proofs.Service.Heedless

/-!
# Administrators do not look at what is recorded

What administrators ask for neither reads nor writes what decisions are recorded to: every request is
answered alike, and changes the system alike, whatever that is and whatever it holds.
-/

namespace Authorization

open Service

theorem heedless_noteChange (message : String) (organization actor : Value) :
    Heedless (noteChange message organization actor) :=
  (heedless_orFail _).bind fun _ => heedless_note _ _ _

/-! ## Roles -/

namespace RoleAdministration

theorem heedless_permissionsOf (slugs : Value) : Heedless (permissionsOf slugs) := by
  unfold permissionsOf
  split
  · exact heedless_throw _
  · exact heedless_resolvePermissions _

theorem heedless_list (organization : Value) : Heedless (list organization) :=
  (heedless_orFail _).bind fun _ => (heedless_rolesIn _).bind fun _ => heedless_pure _

theorem heedless_find (organization id : Value) : Heedless (find organization id) := by
  refine (heedless_role? id).bind fun found => ?_
  split
  · exact .ite (heedless_pure _) (heedless_throw _)
  · exact heedless_throw _

theorem heedless_newSlug (organization : Value) (role : Role) (changes : Bindings) :
    Heedless (newSlug organization role changes) := by
  unfold newSlug
  split
  · exact heedless_pure _
  · refine (heedless_orFail _).bind fun slug => .ite ?_ (heedless_pure _)
    refine (heedless_roleBySlug? _ _).bind fun other => ?_
    split
    · exact .guarded (heedless_throw _) fun _ => heedless_pure _
    · exact heedless_pure _

theorem heedless_save (role : Role) : Heedless (save role) := by
  refine (heedless_saveRole role).outcome.bind fun saved => ?_
  split
  · exact heedless_pure _
  · exact .ite (heedless_throw _) (heedless_throw _)

theorem heedless_create (organization name slug permissions description isDefault actor : Value) :
    Heedless (create organization name slug permissions description isDefault actor) := by
  refine (heedless_orFail _).bind fun organization => (heedless_orFail _).bind fun name =>
    (heedless_orFail _).bind fun slug => (heedless_orFail _).bind fun description =>
      (heedless_orFail _).bind fun isDefault => (heedless_permissionsOf _).bind fun permissions =>
        (heedless_roleBySlug? _ _).bind fun other => .guarded (heedless_throw _) fun _ => ?_
  exact heedless_newId.bind fun id => (heedless_save _).bind fun _ =>
    (heedless_noteChange _ _ _).bind fun _ => heedless_pure _

theorem heedless_update (organization id actor : Value) (changes : Bindings) :
    Heedless (update organization id actor changes) := by
  refine (heedless_orFail _).bind fun _ => (heedless_find _ _).bind fun role =>
    (heedless_orFail _).bind fun name => (heedless_orFail _).bind fun description =>
      (heedless_orFail _).bind fun isDefault => ?_
  have saving (permissions : Option (List String)) : Heedless (do
      let slug ← newSlug organization role changes
      let updated : Role :=
        { role with
          name := name.getD role.name
          slug := slug.getD role.slug
          permissions := permissions.getD role.permissions
          isDefault := (isDefault.map Value.bool).getD role.isDefault
          description := (description.map Value.ofOption).getD role.description }
      save updated
      noteChange ("Role updated: " ++ id.text ++ " fields=" ++
        Cleaning.changedNames
          (changeable.map fun field => (field, (changes.lookup field).isSome)))
        organization actor
      return updated : Service Role) :=
    (heedless_newSlug _ _ _).bind fun slug => (heedless_save _).bind fun _ =>
      (heedless_noteChange _ _ _).bind fun _ => heedless_pure _
  dsimp only
  split
  · exact (heedless_pure _).bind saving
  · exact ((heedless_permissionsOf _).map some).bind saving

theorem heedless_delete (organization id actor : Value) :
    Heedless (delete organization id actor) := by
  refine (heedless_find _ _).bind fun role => (heedless_countHolders _).bind fun holders => ?_
  split
  · exact heedless_orFail _
  · exact heedless_throw _
  · exact (heedless_deleteRole _).bind fun _ => heedless_noteChange _ _ _

theorem heedless_assign (organization user id actor : Value) :
    Heedless (assign organization user id actor) :=
  (heedless_orFail _).bind fun _ => (heedless_find _ _).bind fun _ =>
    (Service.heedless_assign _ _).bind fun _ =>
      .guarded (heedless_noteChange _ _ _) fun _ => heedless_pure _

theorem heedless_revoke (organization user id actor : Value) :
    Heedless (revoke organization user id actor) :=
  (heedless_orFail _).bind fun _ => (heedless_find _ _).bind fun _ =>
    (Service.heedless_revoke _ _).bind fun _ =>
      .guarded (heedless_noteChange _ _ _) fun _ => heedless_pure _

end RoleAdministration

/-! ## Policies -/

namespace PolicyAdministration

theorem heedless_list (organization : Value) : Heedless (list organization) :=
  (heedless_orFail _).bind fun _ => (heedless_policiesIn _).bind fun _ => heedless_pure _

theorem heedless_find (organization id : Value) : Heedless (find organization id) := by
  refine (heedless_policy? id).bind fun found => ?_
  split
  · exact .ite (heedless_pure _) (heedless_throw _)
  · exact heedless_throw _

theorem heedless_findByKey (organization key : Value) : Heedless (findByKey organization key) := by
  refine (heedless_policyByKey? key organization).bind fun found => ?_
  split
  · exact heedless_pure _
  · exact heedless_throw _

theorem heedless_newKey (organization : Value) (policy : Policy) (changes : Bindings) :
    Heedless (newKey organization policy changes) := by
  unfold newKey
  split
  · exact heedless_pure _
  · refine (heedless_orFail _).bind fun key => .ite ?_ (heedless_pure _)
    refine (heedless_policyByKey? _ _).bind fun other => ?_
    split
    · exact .guarded (heedless_throw _) fun _ => heedless_pure _
    · exact heedless_pure _

theorem heedless_save [Host] (policy : Policy) : Heedless (save policy) := by
  refine (heedless_savePolicy policy).outcome.bind fun saved => ?_
  split
  · exact heedless_pure _
  · exact .ite (heedless_throw _) (heedless_throw _)

theorem heedless_create [Host] (organization name key description active actor : Value) :
    Heedless (create organization name key description active actor) := by
  refine (heedless_orFail _).bind fun organization => (heedless_orFail _).bind fun name =>
    (heedless_orFail _).bind fun key => (heedless_orFail _).bind fun description =>
      (heedless_orFail _).bind fun active => (heedless_policyByKey? _ _).bind fun other =>
        .guarded (heedless_throw _) fun _ => ?_
  exact heedless_newId.bind fun id => (heedless_save _).bind fun _ =>
    (heedless_noteChange _ _ _).bind fun _ => heedless_pure _

theorem heedless_update [Host] (organization id actor : Value) (changes : Bindings) :
    Heedless (update organization id actor changes) :=
  (heedless_orFail _).bind fun _ => (heedless_find _ _).bind fun _ =>
    (heedless_orFail _).bind fun _ => (heedless_orFail _).bind fun _ =>
      (heedless_orFail _).bind fun _ => (heedless_newKey _ _ _).bind fun _ =>
        (heedless_save _).bind fun _ => (heedless_noteChange _ _ _).bind fun _ => heedless_pure _

theorem heedless_delete [Host] (organization id actor : Value) :
    Heedless (delete organization id actor) := by
  refine (heedless_find _ _).bind fun policy => (heedless_countRules _).bind fun count =>
    (heedless_orFail _).bind fun positive => .guarded (heedless_throw _) fun _ =>
      (heedless_deletePolicy _).outcome.bind fun deleted => ?_
  split
  · exact heedless_noteChange _ _ _
  · exact .ite (heedless_throw _) (heedless_throw _)

theorem heedless_copyRules [Host] (organization : Value) (source copy : Policy) (rules : List PolicyRule) :
    Heedless (copyRules organization source copy rules) := by
  have copying : Heedless (rules.mapM (copyRule copy.id)) :=
    heedless_mapM (fun _ => heedless_newId.bind fun _ => heedless_pure _) rules
  refine copying.saveRules.outcome.bind fun saved => ?_
  split
  · exact heedless_pure _
  · exact (heedless_countRules _).bind fun count =>
      .ite ((heedless_deletePolicy _).bind fun _ => (heedless_note _ _ _).bind fun _ =>
        heedless_throw _) ((heedless_note _ _ _).bind fun _ => heedless_throw _)

theorem heedless_clone [Host] (organization sourceId name key description actor : Value) :
    Heedless (clone organization sourceId name key description actor) := by
  refine (heedless_find _ _).bind fun source => (heedless_rulesOfPolicy _).bind fun rules => ?_
  exact (heedless_create _ _ _ _ _ _).bind fun copy => (heedless_copyRules _ _ _ _).bind fun _ =>
    (heedless_noteChange _ _ _).bind fun _ => heedless_pure _

theorem heedless_test [Host] (organization policyId principal instance? context : Value) :
    Heedless (test organization policyId principal instance? context) := by
  refine (heedless_find _ _).bind fun policy => (heedless_chainForPolicy _).bind fun found => ?_
  split
  · exact heedless_pure _
  · rename_i chain
    exact (heedless_orFail _).bind fun attributes => heedless_judged (chain.blind_explain attributes)

/-! ## Rules of policies -/

theorem heedless_listRules (organization policyId : Value) :
    Heedless (listRules organization policyId) :=
  (heedless_find _ _).bind fun _ => heedless_rulesOfPolicy _

theorem heedless_tryRule [Host] (type : String) (config : Value) : Heedless (tryRule type config) :=
  heedless_get (fun _ _ _ => rfl) fun _ => (heedless_orFail _).bind fun _ => heedless_pure _

theorem heedless_findRule (organization policyId id : Value) :
    Heedless (findRule organization policyId id) := by
  refine (heedless_find _ _).bind fun policy => (heedless_rule? id).bind fun found => ?_
  split
  · exact .ite (heedless_pure _) (heedless_throw _)
  · exact heedless_throw _

/-- Rules that are saved and then noted. -/
theorem heedless_saving [Host] {β : Type} (rules : List PolicyRule) (message : String)
    (organization actor : Value) {next : Service β} (rest : Heedless next) :
    Heedless (do
      let _ ← saveRules (pure rules)
      noteChange message organization actor
      next) :=
  (heedless_pure rules).saveRules.bind fun _ => (heedless_noteChange _ _ _).bind fun _ => rest

theorem heedless_addRule [Host]
    (organization policyId name type config order active description actor : Value) :
    Heedless (addRule organization policyId name type config order active description actor) := by
  refine (heedless_find _ _).bind fun policy => (heedless_orFail _).bind fun name =>
    (heedless_orFail _).bind fun type => (heedless_orFail _).bind fun config =>
      (heedless_orFail _).bind fun active => (heedless_orFail _).bind fun description =>
        (heedless_tryRule _ _).bind fun _ => ?_
  have adding (order : Int) : Heedless (do
      let rule : PolicyRule :=
        { id := ← newId, policyId := policy.id, name, type, order
          config := PolicyRule.sealedConfig config
          active := .bool active, description := Value.ofOption description }
      let _ ← saveRules (pure [rule])
      noteChange ("Rule added: " ++ rule.id ++ " type=" ++ type ++ " policy=" ++ policy.id)
        organization actor
      return rule : Service PolicyRule) :=
    heedless_newId.bind fun _ => heedless_saving _ _ _ _ (heedless_pure _)
  dsimp only
  split
  · exact ((heedless_rulesOfPolicy _).map nextOrder).bind adding
  · exact (heedless_orFail _).bind adding

theorem heedless_updateRule [Host] (organization policyId id actor : Value) (changes : Bindings) :
    Heedless (updateRule organization policyId id actor changes) := by
  refine (heedless_orFail _).bind fun _ => (heedless_findRule _ _ _).bind fun rule =>
    (heedless_orFail _).bind fun name => (heedless_orFail _).bind fun type =>
      (heedless_orFail _).bind fun config => (heedless_orFail _).bind fun order =>
        (heedless_orFail _).bind fun active => (heedless_orFail _).bind fun description => ?_
  exact .guarded (heedless_tryRule _ _) fun _ => heedless_saving _ _ _ _ (heedless_pure _)

theorem heedless_deleteRule [Host] (organization policyId id actor : Value) :
    Heedless (deleteRule organization policyId id actor) :=
  (heedless_findRule _ _ _).bind fun _ => (Service.heedless_deleteRule _).bind fun _ =>
    heedless_noteChange _ _ _

theorem heedless_reorder [Host] (organization policyId orders actor : Value) :
    Heedless (reorder organization policyId orders actor) := by
  refine (heedless_find _ _).bind fun policy => ?_
  split
  · exact heedless_throw _
  · exact (heedless_rulesOfPolicy _).bind fun rules => (heedless_orFail _).bind fun updated =>
      heedless_saving _ _ _ _ (heedless_rulesOfPolicy _)

end PolicyAdministration

/-! ## Requests -/

theorem AdminCall.heedless_perform [Host] (organization : Value) (call : AdminCall) :
    Heedless (call.perform organization) := by
  cases call with
  | createRole => exact (RoleAdministration.heedless_create _ _ _ _ _ _ _).map _
  | listRoles => exact (RoleAdministration.heedless_list _).map _
  | getRole => exact (RoleAdministration.heedless_find _ _).map _
  | updateRole => exact (RoleAdministration.heedless_update _ _ _ _).map _
  | deleteRole => exact (RoleAdministration.heedless_delete _ _ _).map _
  | assignRole => exact (RoleAdministration.heedless_assign _ _ _ _).map _
  | revokeRole => exact (RoleAdministration.heedless_revoke _ _ _ _).map _
  | createPolicy => exact (PolicyAdministration.heedless_create _ _ _ _ _ _).map _
  | listPolicies => exact (PolicyAdministration.heedless_list _).map _
  | getPolicy => exact (PolicyAdministration.heedless_find _ _).map _
  | getPolicyByKey => exact (PolicyAdministration.heedless_findByKey _ _).map _
  | updatePolicy => exact (PolicyAdministration.heedless_update _ _ _ _).map _
  | deletePolicy => exact (PolicyAdministration.heedless_delete _ _ _).map _
  | clonePolicy => exact (PolicyAdministration.heedless_clone _ _ _ _ _ _).map _
  | testPolicy => exact (PolicyAdministration.heedless_test _ _ _ _ _).map _
  | listRules => exact (PolicyAdministration.heedless_listRules _ _).map _
  | addRule => exact (PolicyAdministration.heedless_addRule _ _ _ _ _ _ _ _ _).map _
  | getRule => exact (PolicyAdministration.heedless_findRule _ _ _).map _
  | updateRule => exact (PolicyAdministration.heedless_updateRule _ _ _ _ _).map _
  | deleteRule => exact (PolicyAdministration.heedless_deleteRule _ _ _ _).map _
  | reorderRules => exact (PolicyAdministration.heedless_reorder _ _ _ _).map _

/-- Whatever an administrator asks for, what decisions are recorded to plays no part in it. -/
theorem AdminRequest.heedless_perform [Host] (request : AdminRequest) : Heedless request.perform := by
  cases request with
  | call organization made => exact made.heedless_perform organization
  | listPermissions => exact heedless_listPermissions.map _
  | rolesHeldBy user => exact (heedless_rolesHeldBy user).map _
  | ruleTypes => exact heedless_get (fun _ _ _ => rfl) fun _ => heedless_pure _

end Authorization
