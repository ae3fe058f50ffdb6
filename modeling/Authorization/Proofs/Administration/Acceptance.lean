import Authorization.Proofs.Administration.Failure
import Authorization.Proofs.Registry.Agreement
import Authorization.Proofs.Store.Plain
import Authorization.Proofs.Store.Workable
import Authorization.Proofs.System.Session

/-!
# Systems whose rules can be made

A system works when it is orderly and every stored rule can be made. Then no chain is rejected. The
operations of the stores keep a system working, as long as the rules that are saved can be made.
-/

namespace Authorization

open Service

variable {catalog : RuleCatalog} {fixed : Keyed String PolicyChain} {backend : Backend}
  {system after : System}

/-- Every stored rule can be made, there are no issues, and no chain is rejected. -/
structure System.RejectsNothing [Host] (catalog : RuleCatalog) (system : System) : Prop where
  sameCatalog : system.registry.catalog = catalog
  accepted : ∀ rule ∈ system.policies.rules.values, catalog.Accepts rule.type rule.config
  noIssues : system.registry.snapshot.errors = []
  noneRejected : ∀ chain ∈ system.registry.snapshot.chains, chain.isRejected = false

/-- An orderly system with a workable policy store. -/
structure System.Working [Host] (catalog : RuleCatalog) (fixed : Keyed String PolicyChain)
    (backend : Backend) (system : System) : Prop extends System.Orderly catalog fixed system where
  workable : system.policies.Workable catalog backend

namespace System

theorem Working.rejectsNothing [Host] (working : system.Working catalog fixed backend)
    (fixedAccepted : ∀ chain ∈ fixed.values, chain.isRejected = false) :
    system.RejectsNothing catalog := by
  obtain ⟨version, inForce⟩ := working.inForce
  have accepts : ∀ rule ∈ system.policies.rules.values, catalog.Accepts rule.type rule.config :=
    fun rule member => (working.workable.rules rule member).accepted
  refine ⟨working.sameCatalog, accepts, ?_, ?_⟩
  · rw [inForce]
    exact Registry.errors_ofStore accepts version
  · rw [inForce]
    exact Registry.isRejected_ofStore accepts fixedAccepted

/-- A change of the policy store keeps a system working when it leaves a workable store. -/
theorem Changed.working [Host] {result : Except Error PolicyStore}
    (changed : Changed catalog fixed system result after)
    (working : system.Working catalog fixed backend)
    (workable : ∀ {policies}, result = .ok policies → policies.Workable catalog backend) :
    after.Working catalog fixed backend := by
  cases changed with
  | failed => exact working
  | made told orderly =>
      refine ⟨orderly, ?_⟩
      rw [told.policies]
      exact workable rfl

theorem ofPolicies_working [Host] : OfPolicies (Working catalog fixed backend) where
  unplanned _ working := working.unplanned
  journal _ _ working :=
    ⟨ofStores_orderly.journal _ _ working.toOrderly, working.workable⟩
  others _ _ _ _ _ _ _ working :=
    ⟨ofStores_orderly.others _ _ _ _ _ _ _ working.toOrderly, working.workable⟩
  closed _ working := working.closed
  roles _ working := working.roles
  withRoles _ _ working sound := ⟨working.toOrderly.withRoles sound, working.workable⟩

end System

namespace Service

theorem working_savePolicy [Host] (policy : Policy) :
    Keeps (System.Working catalog fixed backend) (savePolicy policy) := by
  intro system working
  obtain ⟨after, executed, changed⟩ := exec_savePolicy working.toOrderly policy
  rw [executed]
  exact changed.working working working.workable.savePolicy

theorem working_deletePolicy [Host] (id : Value) :
    Keeps (System.Working catalog fixed backend) (deletePolicy id) := by
  intro system working
  obtain ⟨after, executed, changed⟩ := exec_deletePolicy working.toOrderly id
  rw [executed]
  refine changed.working working fun isDeleted => ?_
  obtain ⟨⟨next, answer⟩, deleted, rfl⟩ := Except.map_eq_ok_iff.1 isDeleted
  exact working.workable.deletePolicy deleted

theorem working_deleteRule [Host] (id : Value) :
    Keeps (System.Working catalog fixed backend) (deleteRule id) := by
  intro system working
  obtain ⟨after, executed, changed⟩ := exec_deleteRule working.toOrderly id
  rw [executed]
  refine changed.working working fun isDeleted => ?_
  obtain ⟨⟨next, answer⟩, deleted, rfl⟩ := Except.map_eq_ok_iff.1 isDeleted
  exact working.workable.deleteRule deleted

/-- Rules that can be made may be saved. -/
theorem working_saveRules [Host] {make : Service (List PolicyRule)}
    (keeps : Keeps (System.Working catalog fixed backend) make)
    (yields : Yields (System.Working catalog fixed backend) make fun rules =>
      ∀ rule ∈ rules, rule.Workable catalog backend) :
    Keeps (System.Working catalog fixed backend) (saveRules make) := by
  intro system working
  have stillWorking := keeps system working
  have areWorkable := yields system working
  rcases made : exec make system with ⟨error | rules, middle⟩
  · rw [exec_saveRules_of_error working.unplanned made]
    rwa [made] at stillWorking
  · rw [made] at stillWorking areWorkable
    obtain ⟨after, executed, changed⟩ :=
      exec_saveRules working.unplanned made stillWorking.toOrderly
    rw [executed]
    exact changed.working stillWorking (stillWorking.workable.saveRules (areWorkable rules rfl))

theorem policies_listen (listener : Listener) (system : System) :
    (exec (listen listener) system).2.policies = system.policies := by
  unfold listen
  rw [exec_modify]
  split
  · rfl
  · rfl

theorem working_listen [Host] (listener : Listener) :
    Keeps (System.Working catalog fixed backend) (listen listener) := by
  intro system working
  refine ⟨keeps_listen listener system working.toOrderly, ?_⟩
  rw [policies_listen]
  exact working.workable

theorem working_reload [Host] : Keeps (System.Working catalog fixed backend) reload := by
  intro system working
  have orderly := keeps_reload system working.toOrderly
  obtain ⟨snapshot, after, executed, told, _⟩ := exec_reload working.toIdle
  rw [executed] at orderly ⊢
  refine ⟨orderly, ?_⟩
  rw [told.policies]
  exact working.workable

theorem enduring_working [Host] : Enduring (System.Working catalog fixed backend) where
  toOfStores := System.ofPolicies_working.toOfStores
  addPermissionValues := System.ofPolicies_working.addPermissionValues
  saveRole := System.ofPolicies_working.saveRole
  deleteRole := System.ofPolicies_working.deleteRole
  assign := System.ofPolicies_working.assign
  revoke := System.ofPolicies_working.revoke
  savePolicy policy _ := working_savePolicy policy
  deletePolicy := working_deletePolicy
  deleteRule := working_deleteRule
  subscribe := System.ofPolicies_working.subscribe working_listen
  reload := working_reload

/-- A registry that is attached to a workable store puts a system to work. -/
theorem working_attach [Host] (idle : system.Idle catalog fixed)
    (workable : system.policies.Workable catalog backend) :
    (exec attach system).2.Working catalog fixed backend := by
  obtain ⟨ready, listened, isReady⟩ := exec_listen idle
  obtain ⟨snapshot, after, reloaded, told, inForce⟩ := exec_reload isReady.toIdle
  have samePolicies := policies_listen .registry system
  rw [listened] at samePolicies
  unfold attach
  rw [exec_bind_of_ok listened, reloaded]
  refine ⟨⟨told.ready isReady, _, told.policies ▸ inForce⟩, ?_⟩
  rw [told.policies, samePolicies]
  exact workable

end Service

end Authorization

/-!
## Administrators save rules that can be made

What an administrator saves has been tried, or comes of a stored rule. If every stored rule can be made,
that remains so, whatever administrators ask for and whatever comes of it: no policy is ever rejected.
-/

namespace Authorization

open Service

variable {catalog : RuleCatalog} {fixed : Keyed String PolicyChain} {backend : Backend}
  {system after : System}

/-- A configuration that has been cleaned has different texts as keys. -/
theorem Cleaning.keysApart_config {given config : Value} (isClean : Cleaning.config given = .ok config)
    {entries : List (Value × Value)} (isMapping : config.entries? = some entries) :
    Value.KeysApart entries := by
  unfold Cleaning.config at isClean
  split at isClean
  · cases isClean
    cases isMapping
    exact Value.keysApart_nil
  · split at isClean
    · cases isClean
      cases isMapping
      exact Value.keysApart_foldl_store _ Value.keysApart_nil
    · cases isClean

/-- A vetted rule can be made, where every stored one can. -/
theorem PolicyRule.Vetted.workable [Host] {rule : PolicyRule}
    (vetted : rule.Vetted catalog.Accepts fun old => old.Workable catalog backend) :
    rule.Workable catalog backend := by
  cases vetted with
  | tried isClean accepted isSealed =>
      exact workable_of_accepts isSealed accepted fun _ isMapping =>
        Cleaning.keysApart_config isClean isMapping
  | retyped stored sameConfig accepted =>
      refine ⟨accepted.congr fun typeTag => ?_, fun isTables => ?_⟩
      · rw [sameConfig, configOf_configCopy]
      · rw [sameConfig]
        exact stored.apart isTables
  | kept stored sameType sameConfig => exact stored.congr sameType sameConfig
  | copied stored sameType isCopy => exact stored.copied sameType isCopy

theorem vetting_working [Host] : Vetting (System.Working catalog fixed backend) catalog.Accepts
    fun rule => rule.Workable catalog backend where
  toEnduring := enduring_working
  tried _ working _ _ accepts := working.sameCatalog ▸ accepts
  stored _ working := working.workable.rules
  saveRules _ keeps yields := working_saveRules keeps fun system working rules made rule member =>
    (yields system working rules made rule member).workable

/-! ### Requests -/

/-- Systems that are reached from a system by requests of administrators, whatever comes of each. -/
inductive System.Administers [Host] (system : System) : System → Prop
  | refl : Administers system system
  | request {middle : System} (before : Administers system middle) (request : AdminRequest) :
      Administers system (exec request.perform middle).2

/-- Administrators keep a system working. -/
theorem System.Administers.working [Host] (administers : system.Administers after)
    (working : system.Working catalog fixed backend) : after.Working catalog fixed backend := by
  induction administers with
  | refl => exact working
  | request before request inductionHypothesis =>
      exact AdminRequest.keeps_perform vetting_working request _ inductionHypothesis

/-- Where a registry is made of a table and attached to a policy store in which every rule can be made,
nothing is rejected, and nothing is after any requests of administrators, successful or not. -/
theorem System.rejectsNothing_of_administers [Host] {table : PolicyTable} {record : LogRecord}
    (unplanned : system.plans = []) (closed : system.savepoints = [])
    (roles : system.roles.Accepted) (policies : system.policies.Accepted)
    (isMade : Registry.ofTable catalog table = .ok (system.registry, record))
    (accepts : ∀ rule ∈ system.policies.rules.values, catalog.Accepts rule.type rule.config)
    (areKept : system.policies.backend = .tables → ∀ rule ∈ system.policies.rules.values,
      ∃ given, system.policies.keptRule given = .ok rule)
    (administers : (exec attach system).2.Administers after) : after.RejectsNothing catalog := by
  obtain ⟨fixed, isFixed, made⟩ := Except.bind_eq_ok_iff.1 isMade
  have registry : system.registry = ⟨catalog, { version := 0, fixed }⟩ :=
    (congrArg Prod.fst (Except.ok.inj made)).symm
  have idle : system.Idle catalog fixed := by
    refine ⟨unplanned, closed, roles.sound, policies.sound, ?_, ?_⟩
    · rw [registry]
    · rw [registry]
  have working := working_attach idle (PolicyStore.workable_of_kept accepts areKept)
  exact (administers.working working).rejectsNothing (PolicyTable.isRejected_chains isFixed)

namespace AdminRequest

/-- A system on tables with one policy, before its registry is attached. -/
def tablesOfUpdates : System :=
  { roles := partsOfUpdates.roles, policies := partsOfUpdates.policies
    registry := ⟨.builtin {}, { version := 0 }⟩, clock := partsOfUpdates.clock }

/-- The system after the rule could not be given a type without roles, and the policy has been copied. -/
def tablesAfter [Host] : System :=
  (exec copyOfUpdates.perform
    (exec (AdminRequest.perform (.call (.str "acme") (.updateRule (.str updatesOfCustomers.id)
      (.str ruleOfUpdates.id) .null [("type", .str "role_based")])))
      (exec attach tablesOfUpdates).2).2).2

theorem plain_ruleOfUpdates : ruleOfUpdates.Plain := by
  have native : (Value.dict []).Native :=
    .dict (List.forall_mem_nil _) Value.keysApart_nil (List.forall_mem_nil _)
  have whole : Column.encoded [.str ruleOfUpdates.name, ruleOfUpdates.description,
      .str ruleOfUpdates.type] = .ok () := rfl
  exact ⟨⟨by rfl, by rfl, Column.encoded_eq_ok_iff.1 whole, ⟨none, rfl⟩, ⟨true, rfl⟩, by decide,
    ⟨[], rfl, native⟩⟩, rfl⟩

open scoped Host in
theorem tablesAfter_rejectsNothing :
    tablesOfUpdates.plans = [] ∧ tablesOfUpdates.savepoints = [] ∧
      tablesOfUpdates.roles.Accepted ∧ tablesOfUpdates.policies.Accepted ∧
      (∃ record, Registry.ofTable (.builtin {}) [] = .ok (tablesOfUpdates.registry, record)) ∧
      (∀ rule ∈ tablesOfUpdates.policies.rules.values,
        (RuleCatalog.builtin {}).Accepts rule.type rule.config) ∧
      (∀ rule ∈ tablesOfUpdates.policies.rules.values,
        ∃ given, tablesOfUpdates.policies.keptRule given = .ok rule) ∧
      (exec attach tablesOfUpdates).2.Administers tablesAfter ∧
      tablesAfter.RejectsNothing (.builtin {}) := by
  have accepts : ∀ rule ∈ tablesOfUpdates.policies.rules.values,
      (RuleCatalog.builtin {}).Accepts rule.type rule.config :=
    List.forall_mem_singleton.2 ⟨_, rfl⟩
  have areKept : ∀ rule ∈ tablesOfUpdates.policies.rules.values,
      ∃ given, tablesOfUpdates.policies.keptRule given = .ok rule :=
    List.forall_mem_singleton.2 ⟨_, PolicyStore.keptRule_of_plain _ plain_ruleOfUpdates⟩
  have administers : (exec attach tablesOfUpdates).2.Administers tablesAfter :=
    .request (.request .refl _) _
  obtain ⟨record, isMade⟩ : ∃ record,
      Registry.ofTable (.builtin {}) [] = .ok (tablesOfUpdates.registry, record) := ⟨_, rfl⟩
  obtain ⟨roles, policies⟩ := accepted_partsOfUpdates
  refine ⟨rfl, rfl, roles, policies, ⟨record, isMade⟩, accepts, areKept, administers, ?_⟩
  exact System.rejectsNothing_of_administers rfl rfl roles policies isMade accepts
    (fun _ => areKept) administers

end AdminRequest

end Authorization
