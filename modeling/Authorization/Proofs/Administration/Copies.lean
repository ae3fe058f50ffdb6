import Authorization.Proofs.Administration.Atomicity

/-!
# Copies of policies that fail

To copy a policy is to create another one and then to save its rules. A copy whose rules cannot be saved
is deleted again, which takes exactly what had been added: the identifier of the copy is a new one, under
which nothing was stored.
-/

namespace Authorization

open Service

variable {catalog : RuleCatalog} {fixed : Keyed String PolicyChain} {system after : System}

/-! ## The registry under a later version -/

/-- The registry after it has been rebuilt some times from the same records. -/
def Registry.advanced (registry : Registry) (rebuilds : Nat) : Registry :=
  { registry with
    snapshot := { registry.snapshot with version := registry.snapshot.version + rebuilds } }

theorem Registry.advanced_ofStore [Host] (version rebuilds : Nat) (store : PolicyStore) :
    (Registry.ofStore catalog fixed version store).advanced rebuilds =
      Registry.ofStore catalog fixed (version + rebuilds) store := by
  have advanced : (Registry.ofStore catalog fixed version store).advanced rebuilds =
      ⟨catalog, { (Registry.ofStore catalog fixed version store).snapshot with
        version := (Registry.ofStore catalog fixed version store).snapshot.version + rebuilds }⟩ :=
    rfl
  have later : Registry.ofStore catalog fixed (version + rebuilds) store =
      ⟨catalog, (Registry.ofStore catalog fixed (version + rebuilds) store).snapshot⟩ :=
    rfl
  rw [advanced, later, Registry.snapshot_ofStore, Registry.snapshot_ofStore]

/-- Two orderly systems with the same policy store have the same registry, up to its version. -/
theorem System.Orderly.registry_eq [Host] (orderly : system.Orderly catalog fixed)
    (other : after.Orderly catalog fixed) (samePolicies : after.policies = system.policies)
    {rebuilds : Nat} (version : after.registry.snapshot.version =
      system.registry.snapshot.version + rebuilds) :
    after.registry = system.registry.advanced rebuilds := by
  obtain ⟨first, inForce⟩ := orderly.inForce
  obtain ⟨second, otherInForce⟩ := other.inForce
  rw [inForce, otherInForce, version_ofStore, version_ofStore] at version
  rw [otherInForce, inForce, Registry.advanced_ofStore, samePolicies, version]

/-! ## A policy that is added and taken away -/

/-- A system has gained a policy, and nothing else that is stored. -/
structure System.Gains [Host] (catalog : RuleCatalog) (fixed : Keyed String PolicyChain) (policy : Policy)
    (system after : System) : Prop extends System.Orderly catalog fixed after where
  saved : system.policies.savePolicy policy = .ok after.policies
  sameRoles : after.roles = system.roles
  listeners : after.listeners = system.listeners
  version : after.registry.snapshot.version =
    system.registry.snapshot.version + system.listeners.count .registry

/-- Nothing is stored under the identifier that is due. -/
theorem System.FreshIds.unused_of_drawn (fresh : system.FreshIds) {text : String}
    (isDrawn : text = system.ids.spell (system.ids.drawn + 1)) (id : String)
    (identified : system.policies.backend.identifier (.str text) = .ok (some id)) :
    ¬system.policies.Uses id := by
  rw [isDrawn] at identified
  exact fresh.policies.unused _ id (Nat.lt_succ_self _) identified

namespace PolicyStore

variable {store next : PolicyStore}

/-- A policy under a new identifier has no rules, and deleting it takes it away again. -/
theorem deletePolicy_of_savePolicy (sound : store.Sound) {policy : Policy}
    (unused : ∀ id, store.backend.identifier (.str policy.id) = .ok (some id) → ¬store.Uses id)
    (saved : store.savePolicy policy = .ok next) :
    next.countRules (.str policy.id) = 0 ∧ next.deletePolicy (.str policy.id) = .ok (store, true) := by
  obtain ⟨kept, identified, _, _, _, _, _, rfl⟩ := savePolicy_eq_ok saved
  have isNew := unused kept.id identified
  have noRules : store.rulesWithin kept.id = [] := by
    rw [List.eq_nil_iff_forall_not_mem]
    intro rule member
    obtain ⟨isRule, isOwned⟩ := mem_rulesWithin.1 member
    obtain ⟨owner, isPolicy, isOwner⟩ := sound.owned rule isRule
    exact isNew (.inl ⟨owner, isPolicy, isOwner.trans isOwned⟩)
  have absent : store.policies.has kept.id = false := by
    rw [Bool.eq_false_iff]
    intro isThere
    exact isNew (.inl (sound.policies.has_iff.1 isThere))
  have stillNone : rulesWithin { store with policies := Keyed.put kept.id kept store.policies }
      kept.id = [] := noRules
  constructor
  · rw [countRules_str, identified]
    dsimp only
    rw [stillNone, List.length_nil]
  · have isThere : (Keyed.put kept.id kept store.policies).has kept.id = true := by
      rw [Keyed.has, Keyed.get?_put, if_pos rfl]
      rfl
    unfold PolicyStore.deletePolicy
    rw [identified, Except.ok_bind]
    dsimp only
    rw [stillNone, Keyed.erase_put absent, isThere]
    rfl

/-- Tables save no rules the first of which has an identifier that is no UUID. -/
theorem saveRules_of_notUuid {store : PolicyStore} (isTables : store.backend = .tables)
    (rule : PolicyRule) (notUuid : Text.Uuid.canonical? rule.id = none) (rest : List PolicyRule) :
    store.saveRules (rule :: rest) = .error (.inadmissible (.ruleNotUuid rule.id)) := by
  have unnamed : store.backend.identifier (.str rule.id) = .ok none := by
    rw [isTables, Backend.identifier_str]
    exact congrArg Except.ok notUuid
  have failed : store.saveRule rule = .error (.inadmissible (.ruleNotUuid rule.id)) := by
    unfold saveRule identified
    rw [unnamed, isTables]
    rfl
  rw [saveRules_eq_foldlM, List.foldlM_cons, failed]
  rfl

end PolicyStore

namespace PolicyAdministration

theorem gains_of_save [Host] (orderly : system.Orderly catalog fixed) {policy : Policy}
    (succeeds : exec (save policy) system = (.ok (), after)) :
    after.ids = system.ids ∧ system.Gains catalog fixed policy after := by
  obtain ⟨middle, executed, changed⟩ := exec_savePolicy orderly policy
  unfold save at succeeds
  rw [exec_bind_of_ok (exec_outcome _ system), executed] at succeeds
  cases saved : system.policies.savePolicy policy with
  | error error =>
      rw [saved] at succeeds
      dsimp only [Except.map] at succeeds
      split at succeeds <;> cases succeeds
  | ok next =>
      rw [saved] at succeeds
      cases succeeds
      have version := version_savePolicy orderly saved
      rw [executed] at version
      rw [saved] at changed
      cases changed with
      | made told upToDate =>
          refine ⟨?_, upToDate, told.policies ▸ saved, ?_, ?_, version⟩
          · rw [told.others]
          · rw [told.others]
          · rw [told.others]

/-- The fields of a policy that is created are what is given for them, cleaned. -/
structure IsCreated (organization name key description active : Value) (policy : Policy) : Prop where
  organization : Cleaning.text "organization_id" organization = .ok policy.organization
  name : Cleaning.text "name" name = .ok policy.name
  key : Cleaning.key key = .ok policy.key
  description : (Cleaning.optionalText "description" description).map (fun described =>
    .str (described.getD (Policy.defaultDescription policy.key))) = .ok policy.description
  active : (Cleaning.flag "active" active).map Value.bool = .ok policy.active

/-- A policy that has been created has the identifier that was due. -/
theorem gains_of_create [Host] (orderly : system.Orderly catalog fixed)
    {organization name key description active actor : Value} {policy : Policy}
    (succeeds : exec (create organization name key description active actor) system =
      (.ok policy, after)) :
    IsCreated organization name key description active policy ∧
      policy.id = system.ids.spell (system.ids.drawn + 1) ∧
      after.ids = { system.ids with drawn := system.ids.drawn + 1 } ∧
      system.Gains catalog fixed policy after := by
  unfold create at succeeds
  obtain ⟨owner, isOwner, succeeds⟩ := exec_checked succeeds
  obtain ⟨named, isNamed, succeeds⟩ := exec_checked succeeds
  obtain ⟨keyed, isKeyed, succeeds⟩ := exec_checked succeeds
  obtain ⟨described, isDescribed, succeeds⟩ := exec_checked succeeds
  obtain ⟨flag, isFlag, succeeds⟩ := exec_checked succeeds
  obtain ⟨found, _, step, succeeds⟩ := exec_bind_eq_ok succeeds
  rw [exec_policyByKey? orderly.unplanned] at step
  obtain rfl := congrArg Prod.snd step
  dsimp only at succeeds
  split at succeeds
  · obtain ⟨_, _, step, _⟩ := exec_bind_eq_ok succeeds
    cases step
  · rw [exec_bind_of_ok (exec_newId _)] at succeeds
    obtain ⟨_, saved, step, succeeds⟩ := exec_bind_eq_ok succeeds
    have drawn := System.ofStores_orderly.newId _ orderly
    obtain ⟨sameIds, gains⟩ := gains_of_save drawn step
    obtain ⟨⟨⟩, last, noting, succeeds⟩ := exec_bind_eq_ok succeeds
    cases succeeds
    obtain ⟨line, rfl⟩ := logged_of_noteChange noting
    refine ⟨⟨isOwner, isNamed, isKeyed, ?_, ?_⟩, rfl, sameIds, ?_, gains.saved, gains.sameRoles,
      gains.listeners, gains.version⟩
    · rw [isDescribed]
      rfl
    · rw [isFlag]
      rfl
    exact System.ofStores_orderly.others saved _ _ _ _ _ _ gains.toOrderly

/-- When the rules of a copy cannot be saved, the copy is taken away again. -/
theorem exec_copyRules_of_error [Host] (orderly : system.Orderly catalog fixed) {copy : Policy}
    (unused : ∀ id, system.policies.backend.identifier (.str copy.id) = .ok (some id) →
      ¬system.policies.Uses id) {middle later : System}
    (gains : system.Gains catalog fixed copy middle) {rules : List PolicyRule} {error : Error}
    (failed : exec (saveRules (rules.mapM (copyRule copy.id))) middle = (.error error, later))
    (organization : Value) (source : Policy) :
    ∃ after, exec (copyRules organization source copy rules) middle = (.error error, after) ∧
      after.roles = system.roles ∧ after.policies = system.policies ∧
      after.registry = system.registry.advanced (2 * system.listeners.count .registry) := by
  obtain ⟨isEmpty, deletes⟩ :=
    PolicyStore.deletePolicy_of_savePolicy orderly.policies unused gains.saved
  have undone : Undone catalog fixed middle (saveRules (rules.mapM (copyRule copy.id))) :=
    undone_saveRules (keeps_mapM (keeps_copyRule System.ofStores_standing copy.id) rules)
  have standing : System.Standing catalog fixed middle later := by
    have isUndone := undone middle ⟨gains.toOrderly, rfl, rfl, rfl, rfl⟩ error
    rw [failed] at isUndone
    exact isUndone rfl
  rw [← standing.intact.policies] at isEmpty deletes
  obtain ⟨final, deleted, changed⟩ := exec_deletePolicy standing.toOrderly (.str copy.id)
  have version := version_deletePolicy standing.toOrderly deletes
  rw [deleted] at version
  rw [deletes] at deleted changed
  have noRules : (Value.int (0 : Nat)).equal (.int 0) = true := by
    simp [Value.equal, Value.equal?]
  unfold copyRules
  rw [exec_bind_of_ok (exec_outcome _ middle), failed]
  dsimp only
  rw [exec_bind_of_ok (exec_countRules standing.unplanned _), isEmpty, if_pos noRules,
    exec_bind_of_ok deleted, exec_bind_of_ok (exec_note _ _ _ final), exec_throw]
  cases changed with
  | made told upToDate =>
      have samePolicies : final.policies = system.policies := told.policies
      refine ⟨_, rfl, ?_, samePolicies, orderly.registry_eq upToDate samePolicies ?_⟩
      · rw [told.others]
        exact standing.intact.roles.trans gains.sameRoles
      · rw [version, standing.intact.registry, gains.version, standing.intact.listeners,
          gains.listeners]
        omega

/-- When the rules of a copy can be saved, the copy stays. -/
theorem exec_copyRules_of_ok [Host] {copy : Policy} {rules : List PolicyRule} {value : Value}
    {middle later : System}
    (saving : exec (saveRules (rules.mapM (copyRule copy.id))) middle = (.ok value, later))
    (organization : Value) (source : Policy) :
    exec (copyRules organization source copy rules) middle = (.ok (), later) := by
  unfold copyRules
  rw [exec_bind_of_ok (exec_outcome _ middle), saving]
  rfl

/-- To look for a policy changes nothing. -/
theorem exists_exec_find (unplanned : system.plans = []) (organization id : Value) :
    ∃ found, exec (find organization id) system = (found, system) := by
  unfold find
  rw [exec_bind, exec_policy? unplanned]
  rcases system.policies.policy? id with error | _ | policy
  · exact ⟨_, rfl⟩
  · exact ⟨_, rfl⟩
  · dsimp only
    split
    · exact ⟨_, rfl⟩
    · exact ⟨_, rfl⟩

/-- To copy a policy that is there is to create the copy, and then to copy the rules. -/
theorem exec_clone_of_found [Host] (unplanned : system.plans = []) {organization sourceId : Value}
    {source : Policy} (found : exec (find organization sourceId) system = (.ok source, system))
    {rules : List PolicyRule} (listed : system.policies.rulesOf (.str source.id) = .ok rules)
    (name key description actor : Value) :
    exec (clone organization sourceId name key description actor) system =
      exec (do
        let copy ← create organization name key (copyDescription source description) (.bool true) actor
        copyRules organization source copy rules
        noteChange ("Policy cloned: " ++ source.id ++ " -> " ++ copy.id ++ " rules=" ++
          Number.intText rules.length) organization actor
        return copy) system := by
  have reading := exec_rulesOfPolicy unplanned (.str source.id)
  rw [listed] at reading
  unfold clone
  rw [exec_bind_of_ok found, exec_bind_of_ok reading]

/-- The policy to be copied is there, and the copy can be created. -/
def CanCopy [Host] (system : System) (organization sourceId name key description actor : Value) : Prop :=
  ∃ source copy, (exec (find organization sourceId) system).1 = .ok source ∧
    (exec (create organization name key (copyDescription source description) (.bool true) actor)
      system).1 = .ok copy

/-- When a policy cannot be copied after all, its copy is taken away again. -/
theorem rebuilt_of_clone [Host] (orderly : system.Orderly catalog fixed) (fresh : system.FreshIds)
    {actor : Value} {written : String} (isWritten : actor.toText = .ok written)
    {organization sourceId name key description : Value} {error : Error}
    (canCopy : CanCopy system organization sourceId name key description actor)
    (fails : exec (clone organization sourceId name key description actor) system =
      (.error error, after)) :
    after.roles = system.roles ∧ after.policies = system.policies ∧
      after.registry = system.registry.advanced (2 * system.listeners.count .registry) := by
  obtain ⟨source, copy, isFound, isCreated⟩ := canCopy
  obtain ⟨result, found⟩ := exists_exec_find orderly.unplanned organization sourceId
  obtain rfl : result = .ok source := by rw [← isFound, found]
  obtain ⟨rules, listed⟩ := exists_rulesOf system.policies source.id
  rw [exec_clone_of_found orderly.unplanned found listed] at fails
  obtain ⟨middle, created⟩ : ∃ middle, exec (create organization name key
      (copyDescription source description) (.bool true) actor) system = (.ok copy, middle) :=
    ⟨_, Prod.ext isCreated rfl⟩
  obtain ⟨_, isDrawn, _, gains⟩ := gains_of_create orderly created
  have unused := fresh.unused_of_drawn isDrawn
  rw [exec_bind_of_ok created] at fails
  rcases saving : exec (saveRules (rules.mapM (copyRule copy.id))) middle with ⟨failure | saved, later⟩
  · obtain ⟨final, copying, rebuilt⟩ :=
      exec_copyRules_of_error orderly unused gains saving organization source
    rw [exec_bind_of_error copying] at fails
    cases fails
    exact rebuilt
  · rw [exec_bind_of_ok (exec_copyRules_of_ok saving organization source),
      exec_bind_of_ok (exec_noteChange isWritten _ _ later)] at fails
    cases fails

/-- When a policy is not there or its copy cannot be created, nothing changes. -/
theorem intact_of_clone [Host] (orderly : system.Orderly catalog fixed) {actor : Value} {written : String}
    (isWritten : actor.toText = .ok written)
    {organization sourceId name key description : Value} {error : Error}
    (cannotCopy : ¬CanCopy system organization sourceId name key description actor)
    (fails : exec (clone organization sourceId name key description actor) system =
      (.error error, after)) :
    system.Intact after := by
  obtain ⟨result, found⟩ := exists_exec_find orderly.unplanned organization sourceId
  cases result with
  | error failure =>
      unfold clone at fails
      rw [exec_bind_of_error found] at fails
      cases fails
      exact ⟨rfl, rfl, rfl, rfl⟩
  | ok source =>
      obtain ⟨rules, listed⟩ := exists_rulesOf system.policies source.id
      rw [exec_clone_of_found orderly.unplanned found listed] at fails
      have undone : Undone catalog fixed system
          (create organization name key (copyDescription source description) (.bool true) actor) :=
        undone_create isWritten _ _ _ _ _
      have failed := undone system ⟨orderly, rfl, rfl, rfl, rfl⟩
      rcases created : exec (create organization name key (copyDescription source description)
          (.bool true) actor) system with ⟨failure | copy, middle⟩
      · rw [exec_bind_of_error created] at fails
        rw [created] at failed
        cases fails
        exact (failed error rfl).intact
      · refine absurd ⟨source, copy, ?_, ?_⟩ cannotCopy
        · rw [found]
        · rw [created]

/-- The copies of rules for a policy, under the identifiers that are due. -/
def copiesOf (policyId : String) (ids : IdSource) : List PolicyRule → List PolicyRule
  | [] => []
  | rule :: rest =>
    { rule with
      id := ids.spell (ids.drawn + 1), policyId, config := PolicyRule.sealedConfig rule.configCopy } ::
    copiesOf policyId { ids with drawn := ids.drawn + 1 } rest

theorem exec_mapM_copyRule (policyId : String) (rules : List PolicyRule) (system : System) :
    exec (rules.mapM (copyRule policyId)) system =
      (.ok (copiesOf policyId system.ids rules),
        { system with ids := { system.ids with drawn := system.ids.drawn + rules.length } }) := by
  rw [← List.mapM'_eq_mapM]
  induction rules generalizing system with
  | nil => rfl
  | cons rule rest inductionHypothesis =>
      have copied : exec (copyRule policyId rule) system =
          (.ok { rule with
            id := system.ids.spell (system.ids.drawn + 1), policyId
            config := PolicyRule.sealedConfig rule.configCopy },
            { system with ids := { system.ids with drawn := system.ids.drawn + 1 } }) := by
        unfold copyRule
        rw [exec_bind_of_ok (exec_newId system), exec_pure]
      rw [List.mapM'_cons, exec_bind_of_ok copied, exec_bind_of_ok (inductionHypothesis _), exec_pure,
        List.length_cons, Nat.add_right_comm, Nat.add_assoc, copiesOf]

/-- A policy is created when what is given for it is right, its key is free, and the store takes it. -/
theorem exec_create_of_free [Host] (orderly : system.Orderly catalog fixed) {actor : Value}
    {written : String} (isWritten : actor.toText = .ok written)
    {organization name key description : Value} {owner named keyed : String}
    {described : Option String} (isOwner : Cleaning.text "organization_id" organization = .ok owner)
    (isNamed : Cleaning.text "name" name = .ok named) (isKeyed : Cleaning.key key = .ok keyed)
    (isDescribed : Cleaning.optionalText "description" description = .ok described)
    (active : Bool)
    (asked : system.policies.backend.asks [.str keyed, .str owner] = .ok ())
    (free : (system.policies.policyByKey? (.str keyed) (.str owner)).isSome = false)
    {next : PolicyStore} (saved : system.policies.savePolicy
      ⟨system.ids.spell (system.ids.drawn + 1), keyed, named, owner,
        .str (described.getD (Policy.defaultDescription keyed)), .bool active⟩ = .ok next) :
    (exec (create organization name key description (.bool active) actor) system).1 =
      .ok ⟨system.ids.spell (system.ids.drawn + 1), keyed, named, owner,
        .str (described.getD (Policy.defaultDescription keyed)), .bool active⟩ := by
  have drawn := System.ofStores_orderly.newId _ orderly
  rw [exec_newId] at drawn
  obtain ⟨middle, executed, _⟩ := exec_savePolicy drawn
    ⟨system.ids.spell (system.ids.drawn + 1), keyed, named, owner,
      .str (described.getD (Policy.defaultDescription keyed)), .bool active⟩
  have isActive : Cleaning.flag "active" (.bool active) = .ok active := rfl
  rw [saved] at executed
  unfold create
  rw [isOwner, exec_orFail_ok, isNamed, exec_orFail_ok, isKeyed, exec_orFail_ok, isDescribed,
    exec_orFail_ok, isActive, exec_orFail_ok, exec_bind, exec_policyByKey? orderly.unplanned, asked]
  dsimp only [Except.map]
  rw [free, if_neg Bool.false_ne_true, exec_bind_of_ok (exec_newId system), exec_bind]
  unfold save
  rw [exec_bind_of_ok (exec_outcome _ _), executed]
  dsimp only [Except.map]
  rw [exec_pure]
  dsimp only
  rw [exec_bind_of_ok (exec_noteChange isWritten _ _ _), exec_pure]

/-- A policy with rules cannot be copied into tables when the first rule would have an identifier that is
no UUID. -/
theorem exec_clone_of_notUuid [Host] (orderly : system.Orderly catalog fixed) (fresh : system.FreshIds)
    {organization sourceId name key description actor : Value}
    (isTables : system.policies.backend = .tables) {source copy : Policy}
    (found : exec (find organization sourceId) system = (.ok source, system))
    {rule : PolicyRule} {rest : List PolicyRule}
    (listed : system.policies.rulesOf (.str source.id) = .ok (rule :: rest))
    (created : (exec (create organization name key (copyDescription source description) (.bool true)
      actor) system).1 = .ok copy)
    (notUuid : Text.Uuid.canonical? (system.ids.spell (system.ids.drawn + 2)) = none) :
    (exec (clone organization sourceId name key description actor) system).1 =
      .error (.inadmissible (.ruleNotUuid (system.ids.spell (system.ids.drawn + 2)))) := by
  obtain ⟨middle, creating⟩ : ∃ middle, exec (create organization name key
      (copyDescription source description) (.bool true) actor) system = (.ok copy, middle) :=
    ⟨_, Prod.ext created rfl⟩
  obtain ⟨_, isDrawn, sameIds, gains⟩ := gains_of_create orderly creating
  have unused := fresh.unused_of_drawn isDrawn
  obtain ⟨_, _, _, _, _, _, _, grown⟩ := PolicyStore.savePolicy_eq_ok gains.saved
  have stillTables : middle.policies.backend = .tables := by
    rw [← isTables, grown]
  obtain ⟨first, others, isNext, copies⟩ : ∃ first others,
      first.id = system.ids.spell (system.ids.drawn + 2) ∧
        copiesOf copy.id middle.ids (rule :: rest) = first :: others := by
    rw [sameIds]
    exact ⟨_, _, rfl, rfl⟩
  rw [← isNext] at notUuid ⊢
  have copied := exec_mapM_copyRule copy.id (rule :: rest) middle
  rw [copies] at copied
  obtain ⟨later, saving, _⟩ := exec_saveRules gains.unplanned copied
    (System.ofStores_orderly.others middle _ _ _ _ _ _ gains.toOrderly)
  have unsaved := PolicyStore.saveRules_of_notUuid stillTables first notUuid others
  rw [unsaved] at saving
  obtain ⟨final, copying, _⟩ :=
    exec_copyRules_of_error orderly unused gains saving organization source
  rw [exec_clone_of_found orderly.unplanned found listed, exec_bind_of_ok creating,
    exec_bind_of_error copying]

end PolicyAdministration

end Authorization
