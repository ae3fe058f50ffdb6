import Authorization.Administration.Call
import Authorization.Proofs.Rule.Making
import Authorization.Proofs.System.Upkeep

/-!
# Administrators keep lasting invariants

Every call of an administrator keeps a lasting invariant of the stores, also when it fails halfway. What
only looks at the stores keeps every invariant of them. An invariant may mind which rules are saved, since
administrators save only rules that have been tried or come of stored ones.
-/

namespace Authorization

open Service

/-! ## Rules that administrators save -/

/-- A rule that an administrator may save, where it is known which rules can be made and what holds of the
stored ones: it has been tried with a new configuration or under another type, or it has the type and the
configuration of a stored rule, or a copy of that configuration. -/
inductive PolicyRule.Vetted (accepts : String → Value → Prop) (isStored : PolicyRule → Prop) :
    PolicyRule → Prop
  | tried {rule : PolicyRule} {given config : Value} (isClean : Cleaning.config given = .ok config)
      (accepted : accepts rule.type config) (isSealed : rule.config = sealedConfig config) :
      Vetted accepts isStored rule
  | retyped {old rule : PolicyRule} (stored : isStored old) (sameConfig : rule.config = old.config)
      (accepted : accepts rule.type old.configCopy) : Vetted accepts isStored rule
  | kept {old rule : PolicyRule} (stored : isStored old) (sameType : rule.type = old.type)
      (sameConfig : rule.config = old.config) : Vetted accepts isStored rule
  | copied {old rule : PolicyRule} (stored : isStored old) (sameType : rule.type = old.type)
      (isCopy : rule.config = sealedConfig old.configCopy) : Vetted accepts isStored rule

/-- An invariant of the stores that their changes keep as long as the rules that are saved are vetted. -/
structure Vetting [Host] (invariant : System → Prop) (accepts : String → Value → Prop)
    (isStored : PolicyRule → Prop) : Prop extends Enduring invariant where
  tried : ∀ system, invariant system → ∀ type config,
    system.registry.catalog.Accepts type config → accepts type config
  stored : ∀ system, invariant system → ∀ rule ∈ system.policies.rules.values, isStored rule
  saveRules : ∀ make, Keeps invariant make →
    (Yields invariant make fun rules => ∀ rule ∈ rules, rule.Vetted accepts isStored) →
    Keeps invariant (saveRules make)

variable {invariant : System → Prop} {accepts : String → Value → Prop}
  {isStored : PolicyRule → Prop}

/-- A lasting invariant does not mind which rules are saved. -/
theorem Service.Lasting.vetting [Host] (lasting : Lasting invariant) :
    Vetting invariant (fun _ _ => True) (fun _ => True) where
  toEnduring := lasting.toEnduring
  tried _ _ _ _ _ := trivial
  stored _ _ _ _ := trivial
  saveRules make keeps _ := lasting.saveRules make keeps

theorem keeps_noteChange (ofUnplanned : OfUnplanned invariant) (message : String)
    (organization actor : Value) : Keeps invariant (noteChange message organization actor) :=
  (keeps_orFail _).bind fun _ => ofUnplanned.note _ _ _

/-! ## Looking at roles -/

namespace RoleAdministration

section

variable (ofUnplanned : OfUnplanned invariant)

include ofUnplanned

theorem keeps_permissionsOf (slugs : Value) : Keeps invariant (permissionsOf slugs) := by
  unfold permissionsOf
  split
  · exact keeps_throw _
  · exact ofUnplanned.resolvePermissions _

theorem keeps_list (organization : Value) : Keeps invariant (list organization) :=
  (keeps_orFail _).bind fun _ => (ofUnplanned.rolesIn _).bind fun _ => keeps_pure _

theorem keeps_find (organization id : Value) : Keeps invariant (find organization id) := by
  refine (ofUnplanned.role? id).bind fun found => ?_
  split
  · exact .ite (keeps_pure _) (keeps_throw _)
  · exact keeps_throw _

theorem keeps_newSlug (organization : Value) (role : Role) (changes : Bindings) :
    Keeps invariant (newSlug organization role changes) := by
  unfold newSlug
  split
  · exact keeps_pure _
  · refine (keeps_orFail _).bind fun slug => .ite ?_ (keeps_pure _)
    refine (ofUnplanned.roleBySlug? _ _).bind fun other => ?_
    split
    · exact .guarded (keeps_throw _) fun _ => keeps_pure _
    · exact keeps_pure _

end

/-! ## Changing roles -/

theorem keeps_save {role : Role} (keeps : Keeps invariant (saveRole role)) :
    Keeps invariant (save role) := by
  refine keeps.outcome.bind fun saved => ?_
  split
  · exact keeps_pure _
  · exact .ite (keeps_throw _) (keeps_throw _)

theorem keeps_create (ofStores : OfStores invariant) (saves : ∀ role, Keeps invariant (saveRole role))
    (organization name slug permissions description isDefault actor : Value) :
    Keeps invariant
      (create organization name slug permissions description isDefault actor) := by
  have ofUnplanned := ofStores.toOfUnplanned
  refine (keeps_orFail _).bind fun organization => (keeps_orFail _).bind fun name =>
    (keeps_orFail _).bind fun slug => (keeps_orFail _).bind fun description =>
      (keeps_orFail _).bind fun isDefault => (keeps_permissionsOf ofUnplanned _).bind fun permissions =>
        (ofUnplanned.roleBySlug? _ _).bind fun other =>
          .guarded (keeps_throw _) fun _ => ofStores.newId.bind fun id => ?_
  exact (keeps_save (saves _)).bind fun _ => (keeps_noteChange ofUnplanned _ _ _).bind fun _ =>
    keeps_pure _

theorem keeps_delete (ofUnplanned : OfUnplanned invariant)
    (deletes : ∀ id, Keeps invariant (deleteRole id)) (organization id actor : Value) :
    Keeps invariant (delete organization id actor) := by
  refine (keeps_find ofUnplanned _ _).bind fun role =>
    (ofUnplanned.countHolders _).bind fun holders => ?_
  split
  · exact keeps_orFail _
  · exact keeps_throw _
  · exact (deletes _).bind fun _ => keeps_noteChange ofUnplanned _ _ _

section

variable [Host] (enduring : Enduring invariant)

include enduring

theorem keeps_update (organization id actor : Value) (changes : Bindings) :
    Keeps invariant (update organization id actor changes) := by
  have ofUnplanned := enduring.toOfUnplanned
  refine (keeps_orFail _).bind fun _ => (keeps_find ofUnplanned _ _).bind fun role =>
    (keeps_orFail _).bind fun name => (keeps_orFail _).bind fun description =>
      (keeps_orFail _).bind fun isDefault => ?_
  have saving (permissions : Option (List String)) : Keeps invariant (do
      let slug ← newSlug organization role changes
      let updated : Role :=
        { role with
          name := name.getD role.name
          slug := slug.getD role.slug
          permissions := permissions.getD role.permissions
          isDefault := (isDefault.map Value.bool).getD role.isDefault
          description := (description.map Value.ofOption).getD role.description }
      save updated
      noteChange ("Role updated: " ++ id.text ++ " fields=" ++
        Cleaning.changedNames
          (changeable.map fun field => (field, (changes.lookup field).isSome)))
        organization actor
      return updated : Service Role) :=
    (keeps_newSlug ofUnplanned _ _ _).bind fun slug => (keeps_save (enduring.saveRole _)).bind fun _ =>
      (keeps_noteChange ofUnplanned _ _ _).bind fun _ => keeps_pure _
  dsimp only
  split
  · exact (keeps_pure _).bind saving
  · exact ((keeps_permissionsOf ofUnplanned _).map some).bind saving

theorem keeps_assign (organization user id actor : Value) :
    Keeps invariant (assign organization user id actor) :=
  (keeps_orFail _).bind fun _ => (keeps_find enduring.toOfUnplanned _ _).bind fun _ =>
    (enduring.assign _ _).bind fun _ =>
      .guarded (keeps_noteChange enduring.toOfUnplanned _ _ _) fun _ => keeps_pure _

theorem keeps_revoke (organization user id actor : Value) :
    Keeps invariant (revoke organization user id actor) :=
  (keeps_orFail _).bind fun _ => (keeps_find enduring.toOfUnplanned _ _).bind fun _ =>
    (enduring.revoke _ _).bind fun _ =>
      .guarded (keeps_noteChange enduring.toOfUnplanned _ _ _) fun _ => keeps_pure _

end

end RoleAdministration

/-! ## Looking at policies -/

namespace PolicyAdministration

section

variable (ofStores : OfStores invariant)

include ofStores

theorem keeps_list (organization : Value) : Keeps invariant (list organization) :=
  (keeps_orFail _).bind fun _ => (ofStores.policiesIn _).bind fun _ => keeps_pure _

theorem keeps_find (organization id : Value) : Keeps invariant (find organization id) := by
  refine (ofStores.policy? id).bind fun found => ?_
  split
  · exact .ite (keeps_pure _) (keeps_throw _)
  · exact keeps_throw _

theorem keeps_findByKey (organization key : Value) :
    Keeps invariant (findByKey organization key) := by
  refine (ofStores.policyByKey? key organization).bind fun found => ?_
  split
  · exact keeps_pure _
  · exact keeps_throw _

theorem keeps_newKey (organization : Value) (policy : Policy) (changes : Bindings) :
    Keeps invariant (newKey organization policy changes) := by
  unfold newKey
  split
  · exact keeps_pure _
  · refine (keeps_orFail _).bind fun key => .ite ?_ (keeps_pure _)
    refine (ofStores.policyByKey? _ _).bind fun other => ?_
    split
    · exact .guarded (keeps_throw _) fun _ => keeps_pure _
    · exact keeps_pure _

theorem keeps_copyRule (policyId : String) (rule : PolicyRule) :
    Keeps invariant (copyRule policyId rule) :=
  ofStores.newId.bind fun _ => keeps_pure _

theorem keeps_listRules (organization policyId : Value) :
    Keeps invariant (listRules organization policyId) :=
  (keeps_find ofStores _ _).bind fun _ => ofStores.rulesOfPolicy _

omit ofStores in
theorem keeps_tryRule [Host] (type : String) (config : Value) : Keeps invariant (tryRule type config) :=
  keeps_get.bind fun _ => (keeps_orFail _).bind fun _ => keeps_pure _

theorem keeps_findRule (organization policyId id : Value) :
    Keeps invariant (findRule organization policyId id) := by
  refine (keeps_find ofStores _ _).bind fun policy => (ofStores.rule? id).bind fun found => ?_
  split
  · exact .ite (keeps_pure _) (keeps_throw _)
  · exact keeps_throw _

theorem keeps_test [Host] (organization policyId principal instance? context : Value) :
    Keeps invariant (test organization policyId principal instance? context) := by
  refine (keeps_find ofStores _ _).bind fun policy =>
    (keeps_chainForPolicy _).bind fun found => ?_
  split
  · exact keeps_pure _
  · exact (keeps_orFail _).bind fun _ => ofStores.judged _

end

/-! ## What is known of keys before they are saved -/

theorem isPolicyKey_of_clean {value : Value} {key : String} (isClean : Cleaning.key value = .ok key) :
    Key.isPolicyKey key = true := by
  obtain ⟨given, _, isClean⟩ := Except.bind_eq_ok_iff.1 isClean
  split at isClean
  · rename_i isKey
    cases isClean
    exact isKey
  · cases isClean

section

variable (ofStores : OfStores invariant)

include ofStores

theorem yields_find (organization id : Value) :
    Yields invariant (find organization id) fun policy =>
      ∃ system, invariant system ∧ policy ∈ system.policies.policies.values := by
  have found : Yields invariant (policy? id) fun found => ∀ policy, found = some policy →
      ∃ system, invariant system ∧ policy ∈ system.policies.policies.values := by
    rintro system holds _ succeeds policy rfl
    rw [exec_policy? (ofStores.unplanned system holds)] at succeeds
    exact ⟨system, holds, PolicyStore.mem_of_policy? succeeds⟩
  refine found.bind (ofStores.policy? id) fun read areStored => ?_
  split
  · rename_i policy
    split
    · exact yields_pure (areStored policy rfl)
    · exact yields_throw _
  · exact yields_throw _

theorem yields_newKey (organization : Value) (policy : Policy) (changes : Bindings) :
    Yields invariant (newKey organization policy changes) fun changed =>
      ∀ key, changed = some key → Key.isPolicyKey key = true := by
  unfold newKey
  split
  · exact yields_pure nofun
  · refine Yields.bind (yields_orFail _) (keeps_orFail _) fun key isClean => ?_
    have isGood : Yields invariant (pure (some key) : Service (Option String)) fun changed =>
        ∀ key, changed = some key → Key.isPolicyKey key = true := by
      refine yields_pure ?_
      rintro _ ⟨⟩
      exact isPolicyKey_of_clean isClean
    split
    · refine Yields.bind (fun _ _ _ _ => trivial) (ofStores.policyByKey? _ _)
        fun other (_ : True) => ?_
      split
      · split
        · exact Yields.bind (yields_throw _) (keeps_throw _) fun _ (_ : True) => isGood
        · exact isGood
      · exact isGood
    · exact isGood

end

/-! ## Changing policies -/

theorem keeps_save [Host] {policy : Policy} (keeps : Keeps invariant (savePolicy policy)) :
    Keeps invariant (save policy) := by
  refine keeps.outcome.bind fun saved => ?_
  split
  · exact keeps_pure _
  · exact .ite (keeps_throw _) (keeps_throw _)

section

variable [Host] (enduring : Enduring invariant)

include enduring

theorem keeps_create (organization name key description active actor : Value) :
    Keeps invariant (create organization name key description active actor) := by
  have ofStores := enduring.toOfStores
  refine (keeps_orFail _).bind fun organization => (keeps_orFail _).bind fun name =>
    (keeps_orFail _).followed (yields_orFail _) fun key isClean => (keeps_orFail _).bind
      fun description => (keeps_orFail _).bind fun active => (ofStores.policyByKey? _ _).bind
        fun other => .guarded (keeps_throw _) fun _ => ofStores.newId.bind fun id => ?_
  exact (keeps_save (enduring.savePolicy _ (.checked (isPolicyKey_of_clean isClean)))).bind
    fun _ => (keeps_noteChange ofStores.toOfUnplanned _ _ _).bind fun _ => keeps_pure _

theorem keeps_update (organization id actor : Value) (changes : Bindings) :
    Keeps invariant (update organization id actor changes) := by
  have ofStores := enduring.toOfStores
  refine (keeps_orFail _).bind fun _ => (keeps_find ofStores _ _).followed (yields_find ofStores _ _)
    fun policy isStored => (keeps_orFail _).bind fun name => (keeps_orFail _).bind
      fun description => (keeps_orFail _).bind fun active => (keeps_newKey ofStores _ _ _).followed
        (yields_newKey ofStores _ _ _) fun changed isKey => ?_
  refine (keeps_save (enduring.savePolicy _ ?_)).bind fun _ =>
    (keeps_noteChange ofStores.toOfUnplanned _ _ _).bind fun _ => keeps_pure _
  cases changed with
  | some key => exact .checked (isKey key rfl)
  | none =>
      obtain ⟨system, holds, member⟩ := isStored
      exact .kept holds member rfl

theorem keeps_delete (organization id actor : Value) :
    Keeps invariant (delete organization id actor) := by
  refine (keeps_find enduring.toOfStores _ _).bind fun policy =>
    (enduring.countRules _).bind fun count => (keeps_orFail _).bind fun positive =>
      .guarded (keeps_throw _) fun _ => (enduring.deletePolicy _).outcome.bind fun deleted => ?_
  split
  · exact keeps_noteChange enduring.toOfUnplanned _ _ _
  · exact .ite (keeps_throw _) (keeps_throw _)

theorem keeps_deleteRule (organization policyId id actor : Value) :
    Keeps invariant (deleteRule organization policyId id actor) :=
  (keeps_findRule enduring.toOfStores _ _ _).bind fun _ => (enduring.deleteRule _).bind fun _ =>
    keeps_noteChange enduring.toOfUnplanned _ _ _

end

/-! ## What is known of rules before they are saved -/

/-- A configuration that is changed is a clean one. -/
theorem isClean_of_change {changes : Bindings} {config : Value}
    (isChanged : Cleaning.change changes "config" Cleaning.config = .ok (some config)) :
    ∃ given, Cleaning.config given = .ok config := by
  unfold Cleaning.change at isChanged
  split at isChanged
  · cases isChanged
  · rename_i given _
    obtain ⟨found, isClean, same⟩ := Except.map_eq_ok_iff.1 isChanged
    exact ⟨given, Option.some.inj same ▸ isClean⟩

/-- Rules with new numbers are rules of the policy, apart from their numbers. -/
theorem mem_renumbered {policyId : Value} {rules updated : List PolicyRule}
    {orders : List (Value × Value)} (isNumbered : renumbered policyId rules orders = .ok updated)
    {rule : PolicyRule} (member : rule ∈ updated) :
    ∃ old ∈ rules, ∃ order, rule = { old with order } := by
  obtain ⟨foreign, _, isNumbered⟩ := Except.bind_eq_ok_iff.1 isNumbered
  dsimp only at isNumbered
  split at isNumbered
  · cases isNumbered
  · obtain ⟨⟨old, order⟩, isPair, changed⟩ := (Except.mem_of_mapM_eq_ok isNumbered rule).1 member
    obtain ⟨number, _, changed⟩ := Except.bind_eq_ok_iff.1 changed
    cases changed
    obtain ⟨entry, _, isPair⟩ := List.mem_filterMap.1 isPair
    obtain ⟨found, isFound, same⟩ := Option.map_eq_some_iff.1 isPair
    cases same
    exact ⟨old, List.mem_of_find?_eq_some isFound, number, rfl⟩

/-- To try a rule changes nothing. -/
theorem exec_tryRule [Host] (type : String) (config : Value) (system : System) :
    exec (tryRule type config) system =
      ((system.registry.catalog.create (.str type) config).map fun _ => (), system) := by
  unfold tryRule
  rw [exec_get_bind, exec_bind, exec_orFail]
  cases system.registry.catalog.create (.str type) config <;> rfl

section

variable [Host] (vetting : Vetting invariant accepts isStored)

include vetting

theorem yields_tryRule (type : String) (config : Value) :
    Yields invariant (tryRule type config) fun _ => accepts type config := by
  intro system holds value succeeds
  refine vetting.tried system holds type config ?_
  rw [exec_tryRule] at succeeds
  obtain ⟨rule, made, _⟩ := Except.map_eq_ok_iff.1 succeeds
  exact ⟨rule, made⟩

theorem yields_rulesOfPolicy (policyId : Value) :
    Yields invariant (rulesOfPolicy policyId) fun rules => ∀ rule ∈ rules, isStored rule := by
  intro system holds rules succeeds rule member
  rw [exec_rulesOfPolicy (vetting.unplanned system holds)] at succeeds
  exact vetting.stored system holds rule (PolicyStore.mem_of_rulesOf succeeds member)

theorem yields_findRule (organization policyId id : Value) :
    Yields invariant (findRule organization policyId id) isStored := by
  have found : Yields invariant (rule? id) fun found => ∀ rule, found = some rule → isStored rule := by
    rintro system holds _ succeeds rule rfl
    rw [exec_rule? (vetting.unplanned system holds)] at succeeds
    exact vetting.stored system holds rule (PolicyStore.mem_of_rule? succeeds)
  refine Yields.bind (fun _ _ _ _ => trivial) (keeps_find vetting.toOfStores _ _)
    fun policy (_ : True) => found.bind (vetting.rule? id) fun read areStored => ?_
  split
  · rename_i rule
    split
    · exact yields_pure (areStored rule rfl)
    · exact yields_throw _
  · exact yields_throw _

theorem yields_copyRules (policyId : String) {rules : List PolicyRule}
    (areStored : ∀ rule ∈ rules, isStored rule) :
    Yields invariant (rules.mapM (copyRule policyId)) fun copies =>
      ∀ copy ∈ copies, copy.Vetted accepts isStored := by
  refine yields_mapM (keeps_copyRule vetting.toOfStores policyId) fun rule member => ?_
  refine Yields.bind (fun _ _ _ _ => trivial) vetting.newId fun id (_ : True) => ?_
  exact yields_pure (.copied (areStored rule member) rfl rfl)

/-! ## Changing rules -/

theorem keeps_copyRules (organization : Value) (source copy : Policy) {rules : List PolicyRule}
    (areStored : ∀ rule ∈ rules, isStored rule) :
    Keeps invariant (copyRules organization source copy rules) := by
  have copying := keeps_mapM (keeps_copyRule vetting.toOfStores copy.id) rules
  have saving := vetting.saveRules _ copying (yields_copyRules vetting copy.id areStored)
  refine saving.outcome.bind fun saved => ?_
  split
  · exact keeps_pure _
  · exact (vetting.countRules _).bind fun count =>
      .ite ((vetting.deletePolicy _).bind fun _ =>
        (vetting.note _ _ _).bind fun _ => keeps_throw _)
        ((vetting.note _ _ _).bind fun _ => keeps_throw _)

theorem keeps_clone (organization sourceId name key description actor : Value) :
    Keeps invariant (clone organization sourceId name key description actor) := by
  refine (keeps_find vetting.toOfStores _ _).bind fun source =>
    (vetting.rulesOfPolicy _).followed (yields_rulesOfPolicy vetting _) fun rules areStored => ?_
  exact (keeps_create vetting.toEnduring _ _ _ _ _ _).bind fun copy =>
    (keeps_copyRules vetting _ _ _ areStored).bind fun _ =>
      (keeps_noteChange vetting.toOfUnplanned _ _ _).bind fun _ => keeps_pure _

theorem keeps_addRule
    (organization policyId name type config order active description actor : Value) :
    Keeps invariant
      (addRule organization policyId name type config order active description actor) := by
  have ofStores := vetting.toOfStores
  refine (keeps_find ofStores _ _).bind fun policy => (keeps_orFail _).bind fun name =>
    (keeps_orFail _).bind fun type => (keeps_orFail _).followed (yields_orFail _)
      fun config isClean => (keeps_orFail _).bind fun active => (keeps_orFail _).bind
        fun description => (keeps_tryRule _ _).followed (yields_tryRule vetting _ _)
          fun _ accepted => ?_
  have saving (order : Int) : Keeps invariant (do
      let rule : PolicyRule :=
        { id := ← newId, policyId := policy.id, name, type, order
          config := PolicyRule.sealedConfig config
          active := .bool active, description := Value.ofOption description }
      let _ ← saveRules (pure [rule])
      noteChange ("Rule added: " ++ rule.id ++ " type=" ++ type ++ " policy=" ++ policy.id)
        organization actor
      return rule : Service PolicyRule) := by
    refine ofStores.newId.bind fun id => Keeps.bind (vetting.saveRules _ (keeps_pure _) ?_) fun _ =>
      (keeps_noteChange ofStores.toOfUnplanned _ _ _).bind fun _ => keeps_pure _
    exact yields_pure (List.forall_mem_singleton.2 (.tried isClean accepted rfl))
  dsimp only
  split
  · exact ((ofStores.rulesOfPolicy _).map nextOrder).bind saving
  · exact (keeps_orFail _).bind saving

theorem keeps_updateRule (organization policyId id actor : Value) (changes : Bindings) :
    Keeps invariant (updateRule organization policyId id actor changes) := by
  have ofStores := vetting.toOfStores
  refine (keeps_orFail _).bind fun _ => (keeps_findRule ofStores _ _ _).followed
    (yields_findRule vetting _ _ _) fun rule stored => (keeps_orFail _).bind fun name =>
      (keeps_orFail _).bind fun type => (keeps_orFail _).followed (yields_orFail _)
        fun config isChanged => (keeps_orFail _).bind fun order => (keeps_orFail _).bind
          fun active => (keeps_orFail _).bind fun description => ?_
  have saving {updated : PolicyRule} (vetted : updated.Vetted accepts isStored) (message : String) :
      Keeps invariant (do
        let _ ← saveRules (pure [updated])
        noteChange message organization actor
        return updated : Service PolicyRule) :=
    (vetting.saveRules _ (keeps_pure _) (yields_pure (List.forall_mem_singleton.2 vetted))).bind
      fun _ => (keeps_noteChange ofStores.toOfUnplanned _ _ _).bind fun _ => keeps_pure _
  dsimp only
  split
  · refine (keeps_tryRule _ _).followed (yields_tryRule vetting _ _) fun _ accepted => saving ?_ _
    cases config with
    | none => exact .retyped stored rfl accepted
    | some config =>
        obtain ⟨given, isClean⟩ := isClean_of_change isChanged
        exact .tried isClean accepted rfl
  · rename_i unchanged
    refine saving ?_ _
    cases type with
    | some type => exact absurd rfl unchanged
    | none =>
        cases config with
        | some config => exact absurd rfl unchanged
        | none => exact .kept stored rfl rfl

theorem keeps_reorder (organization policyId orders actor : Value) :
    Keeps invariant (reorder organization policyId orders actor) := by
  refine (keeps_find vetting.toOfStores _ _).bind fun policy => ?_
  split
  · exact keeps_throw _
  · refine (vetting.rulesOfPolicy _).followed (yields_rulesOfPolicy vetting _) fun rules areStored =>
      (keeps_orFail _).followed (yields_orFail _) fun updated isNumbered =>
        Keeps.bind (vetting.saveRules _ (keeps_pure _) (yields_pure fun rule member => ?_)) fun _ =>
          (keeps_noteChange vetting.toOfUnplanned _ _ _).bind fun _ => vetting.rulesOfPolicy _
    obtain ⟨old, oldMember, order, rfl⟩ := mem_renumbered isNumbered member
    exact .kept (areStored old oldMember) rfl rfl

end

end PolicyAdministration

/-! ## Calls -/

theorem AdminCall.keeps_perform [Host] (vetting : Vetting invariant accepts isStored)
    (organization : Value) (call : AdminCall) : Keeps invariant (call.perform organization) := by
  have ofStores := vetting.toOfStores
  have enduring := vetting.toEnduring
  cases call with
  | createRole =>
      exact (RoleAdministration.keeps_create ofStores enduring.saveRole _ _ _ _ _ _ _).map _
  | listRoles => exact (RoleAdministration.keeps_list ofStores.toOfUnplanned _).map _
  | getRole => exact (RoleAdministration.keeps_find ofStores.toOfUnplanned _ _).map _
  | updateRole => exact (RoleAdministration.keeps_update enduring _ _ _ _).map _
  | deleteRole =>
      exact (RoleAdministration.keeps_delete ofStores.toOfUnplanned enduring.deleteRole _ _ _).map _
  | assignRole => exact (RoleAdministration.keeps_assign enduring _ _ _ _).map _
  | revokeRole => exact (RoleAdministration.keeps_revoke enduring _ _ _ _).map _
  | createPolicy => exact (PolicyAdministration.keeps_create enduring _ _ _ _ _ _).map _
  | listPolicies => exact (PolicyAdministration.keeps_list ofStores _).map _
  | getPolicy => exact (PolicyAdministration.keeps_find ofStores _ _).map _
  | getPolicyByKey => exact (PolicyAdministration.keeps_findByKey ofStores _ _).map _
  | updatePolicy => exact (PolicyAdministration.keeps_update enduring _ _ _ _).map _
  | deletePolicy => exact (PolicyAdministration.keeps_delete enduring _ _ _).map _
  | clonePolicy => exact (PolicyAdministration.keeps_clone vetting _ _ _ _ _ _).map _
  | testPolicy => exact (PolicyAdministration.keeps_test ofStores _ _ _ _ _).map _
  | listRules => exact (PolicyAdministration.keeps_listRules ofStores _ _).map _
  | addRule => exact (PolicyAdministration.keeps_addRule vetting _ _ _ _ _ _ _ _ _).map _
  | getRule => exact (PolicyAdministration.keeps_findRule ofStores _ _ _).map _
  | updateRule => exact (PolicyAdministration.keeps_updateRule vetting _ _ _ _ _).map _
  | deleteRule => exact (PolicyAdministration.keeps_deleteRule enduring _ _ _ _).map _
  | reorderRules => exact (PolicyAdministration.keeps_reorder vetting _ _ _ _).map _

/-- Whatever an administrator asks for, an invariant is kept that only vetted rules may be saved
under. -/
theorem AdminRequest.keeps_perform [Host] (vetting : Vetting invariant accepts isStored)
    (request : AdminRequest) : Keeps invariant request.perform := by
  cases request with
  | call organization made => exact made.keeps_perform vetting organization
  | listPermissions => exact vetting.listPermissions.map _
  | rolesHeldBy user => exact (vetting.rolesHeldBy user).map _
  | ruleTypes => exact keeps_get.bind fun _ => keeps_pure _

end Authorization
