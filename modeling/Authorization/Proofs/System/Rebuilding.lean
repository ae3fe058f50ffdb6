import Authorization.Proofs.Store.Memory
import Authorization.Proofs.System.Storing

/-!
# How often the registry is rebuilt

An announcement rebuilds the registry as often as it stands among those who listen, and every rebuilding
gives the snapshot the next version. In a system that has been put together the registry stands there
once, whatever is called.
-/

namespace Authorization

open Service

/-! ## The version of the snapshot -/

namespace Service

variable {catalog : RuleCatalog} {fixed : Keyed String PolicyChain} {system : System}

theorem version_ofStore [Host] (version : Nat) (store : PolicyStore) :
    (Registry.ofStore catalog fixed version store).snapshot.version = version := by
  rw [Registry.snapshot_ofStore]

theorem version_tell [Host] (ready : system.Ready catalog fixed) (listener : Listener) :
    (exec (tell listener) system).2.registry.snapshot.version =
      system.registry.snapshot.version + [listener].count .registry := by
  cases listener with
  | registry =>
      obtain ⟨snapshot, after, reloaded, _, inForce⟩ := exec_reload ready.toIdle
      rw [tell, exec_bind_of_ok reloaded, exec_pure]
      dsimp only
      rw [inForce, version_ofStore]
      rfl
  | counter => rfl
  | function tag => rfl

theorem version_tellAll [Host] (listeners : List Listener) (ready : system.Ready catalog fixed) :
    (exec (listeners.forM tell) system).2.registry.snapshot.version =
      system.registry.snapshot.version + listeners.count .registry := by
  induction listeners generalizing system with
  | nil => rfl
  | cons listener rest inductionHypothesis =>
      obtain ⟨middle, toldOne, told, _⟩ := exec_tell ready listener
      have here := version_tell ready listener
      rw [toldOne] at here
      have counted : (listener :: rest).count .registry =
          [listener].count .registry + rest.count .registry :=
        @List.count_append _ _ _ [listener] rest
      rw [List.forM, exec_bind_of_ok toldOne, inductionHypothesis (told.ready ready), here, counted,
        Nat.add_assoc]

theorem version_announce [Host] (ready : system.Ready catalog fixed) :
    (exec announce system).2.registry.snapshot.version =
      system.registry.snapshot.version + system.listeners.count .registry := by
  have announced : exec announce system = exec (system.listeners.forM tell) system := by
    unfold announce notify
    rw [exec_get_bind, ready.closed, List.isEmpty_nil, if_pos rfl,
      exec_get_bind]
  rw [announced]
  exact version_tellAll system.listeners ready

/-- A change of the policy store that is announced. -/
theorem version_change [Host] {α : Type} (change : PolicyStore → Except Error (PolicyStore × α))
    (announces : α → Bool) {next : PolicyStore} {result : α} (orderly : system.Orderly catalog fixed)
    (sound : next.Sound) (made : change system.policies = .ok (next, result))
    (loud : announces result = true) :
    (exec (do
      let result ← changePolicies change
      if announces result then announce
      return result) system).2.registry.snapshot.version =
        system.registry.snapshot.version + system.listeners.count .registry := by
  have changed := exec_changePolicies change system
  rw [made] at changed
  have ready : System.Ready catalog fixed { system with policies := next } :=
    ⟨⟨orderly.unplanned, orderly.closed, orderly.roles, sound, orderly.sameCatalog,
      orderly.sameFixed⟩, orderly.listening⟩
  obtain ⟨after, announced, _, _⟩ := exec_announce ready
  have version := version_announce ready
  rw [announced] at version
  rw [exec_bind_of_ok changed, if_pos loud, exec_bind_of_ok announced, exec_pure]
  exact version

theorem version_savePolicy [Host] (orderly : system.Orderly catalog fixed) {policy : Policy}
    {next : PolicyStore} (saved : system.policies.savePolicy policy = .ok next) :
    (exec (savePolicy policy) system).2.registry.snapshot.version =
      system.registry.snapshot.version + system.listeners.count .registry := by
  unfold savePolicy
  rw [exec_performedValue orderly.unplanned]
  have made : (system.policies.savePolicy policy).map (·, policy) = .ok (next, policy) := by
    rw [saved]
    rfl
  exact version_change (fun policies => (policies.savePolicy policy).map (·, policy)) (fun _ => true)
    orderly (orderly.policies.savePolicy saved) made rfl

theorem version_deletePolicy [Host] (orderly : system.Orderly catalog fixed) {id : Value}
    {next : PolicyStore} (deleted : system.policies.deletePolicy id = .ok (next, true)) :
    (exec (deletePolicy id) system).2.registry.snapshot.version =
      system.registry.snapshot.version + system.listeners.count .registry := by
  unfold deletePolicy
  rw [exec_performedValue orderly.unplanned]
  exact version_change (fun policies => policies.deletePolicy id) (fun deleted => deleted) orderly
    (orderly.policies.deletePolicy deleted) deleted rfl

/-- Rules that are saved are announced, unless there are none. -/
theorem version_saveRules [Host] (orderly : system.Orderly catalog fixed) {rules : List PolicyRule}
    (nonEmpty : rules ≠ []) {next : PolicyStore} (saved : system.policies.saveRules rules = .ok next) :
    (exec (saveRules (pure rules)) system).2.registry.snapshot.version =
      system.registry.snapshot.version + system.listeners.count .registry := by
  have made : (system.policies.saveRules rules).map (·, rules) = .ok (next, rules) := by
    rw [saved]
    rfl
  have loud : (!rules.isEmpty) = true := by
    rwa [Bool.not_eq_true', List.isEmpty_eq_false_iff]
  unfold saveRules
  rw [exec_performedValue orderly.unplanned, exec_bind_of_ok (exec_pure rules system)]
  exact version_change (fun policies => (policies.saveRules rules).map (·, rules))
    (fun _ => !rules.isEmpty) orderly (orderly.policies.saveRules saved) made loud

end Service

/-! ## Who listens -/

/-- Nothing is planned, and those who listen are as they should be. -/
structure System.Heard (isRight : List Listener → Prop) (system : System) : Prop where
  unplanned : system.plans = []
  listeners : isRight system.listeners

/-- The registry stands once among those who listen. -/
def Listener.HearOnce (listeners : List Listener) : Prop :=
  listeners.count .registry = 1

namespace System.Heard

variable {isRight : List Listener → Prop}

theorem ofContents : OfContents (Heard isRight) where
  unplanned _ heard := heard.unplanned
  journal _ _ heard := ⟨heard.unplanned, heard.listeners⟩
  others _ _ _ _ _ _ _ heard := ⟨heard.unplanned, heard.listeners⟩
  announced _ _ _ heard := ⟨heard.unplanned, heard.listeners⟩

theorem keeps_changeRoles {α : Type} (change : RoleStore → Except Error (RoleStore × α)) :
    Keeps (Heard isRight) (changeRoles change) :=
  keeps_get.bind fun _ => (keeps_orFail _).bind fun made =>
    (keeps_modify fun _ heard => ⟨heard.unplanned, heard.listeners⟩).bind fun _ =>
      keeps_pure made.2

theorem keeps_changePolicies {α : Type} (change : PolicyStore → Except Error (PolicyStore × α)) :
    Keeps (Heard isRight) (changePolicies change) :=
  keeps_get.bind fun _ => (keeps_orFail _).bind fun made =>
    (keeps_modify fun _ heard => ⟨heard.unplanned, heard.listeners⟩).bind fun _ =>
      keeps_pure made.2

theorem keeps_addPermissions (permissions : List Value) :
    Keeps (Heard isRight) (addPermissions permissions) := by
  refine ofContents.performedValue (keeps_get.bind fun _ => ?_) _ _
  exact (keeps_modify fun _ heard => ⟨heard.unplanned, heard.listeners⟩).bind fun _ => keeps_orFail _

theorem keeps_seedPermissions : Keeps (Heard isRight) seedPermissions :=
  keeps_get.bind fun _ => .ite ((ofContents.note _ _ _).bind fun _ => keeps_pure _)
    ((keeps_addPermissions _).bind fun created =>
      (ofContents.note _ _ _).bind fun _ => keeps_pure created)

/-- Nobody who listens already is added. -/
theorem keeps_listen (listener : Listener) : Keeps (Heard Listener.HearOnce) (listen listener) := by
  refine keeps_modify fun system heard => ?_
  split
  · exact heard
  · rename_i isNew
    refine ⟨heard.unplanned, ?_⟩
    have once : system.listeners.count .registry = 1 := heard.listeners
    have isThere : Listener.registry ∈ system.listeners :=
      List.count_pos_iff.1 (once ▸ Nat.one_pos)
    have apart : Listener.registry ∉ [listener] := by
      intro same
      rw [← List.mem_singleton.1 same] at isNew
      exact isNew (List.contains_iff_mem.2 isThere)
    rw [Listener.HearOnce, List.count_append, List.count_eq_zero.2 apart]
    exact once

/-- Whatever is done to the stores, the registry stands once among those who listen. -/
theorem lasting [Host] : Lasting (Heard Listener.HearOnce) where
  toOfStores := ofContents.toOfStores
  addPermissionValues _ := (ofContents.ofDraw _).bind fun _ => keeps_addPermissions _
  saveRole _ := ofContents.performedValue (keeps_changeRoles _) _ _
  deleteRole _ := ofContents.performedValue (keeps_changeRoles _) _ _
  assign _ _ := ofContents.performedValue (keeps_get.bind fun _ => keeps_changeRoles _) _ _
  revoke _ _ := ofContents.performedValue (keeps_changeRoles _) _ _
  savePolicy _ _ := ofContents.performedValue
    (ofContents.changed (keeps_changePolicies _) fun _ => true) _ _
  deletePolicy _ := ofContents.performedValue
    (ofContents.changed (keeps_changePolicies _) fun deleted => deleted) _ _
  saveRules _ keeps := ofContents.performedValue (keeps.bind fun _ =>
    (keeps_changePolicies _).bind fun _ => .guarded ofContents.announce fun _ => keeps_pure _) _ _
  saveRuleValues _ := ofContents.performedValue ((ofContents.ofDraw _).bind fun _ =>
    (keeps_changePolicies _).bind fun _ => .guarded ofContents.announce fun _ => keeps_pure _) _ _
  deleteRule _ := ofContents.performedValue
    (ofContents.changed (keeps_changePolicies _) fun deleted => deleted) _ _
  subscribe := ofContents.subscribe keeps_listen
  reload := ofContents.reload

end System.Heard

namespace Service

variable {system : System}

theorem hearOnce_listen (silent : system.Heard (· = [])) :
    ∃ after, exec (listen .registry) system = (.ok (), after) ∧ after.Heard Listener.HearOnce := by
  have nobody : system.listeners = [] := silent.listeners
  unfold listen
  rw [exec_modify, if_neg (by simp [nobody])]
  refine ⟨_, rfl, silent.unplanned, ?_⟩
  dsimp only
  rw [nobody]
  rfl

/-- Where nobody listens when a system is started, the registry listens once from then on. -/
theorem hearOnce_start [Host] (silent : system.Heard (· = [])) (isSeeded : Bool) (record : LogRecord)
    (succeeds : (exec (start isSeeded record) system).1 = .ok ()) :
    (exec (start isSeeded record) system).2.Heard Listener.HearOnce := by
  have reading : Keeps (System.Heard Listener.HearOnce) (do
      let snapshot ← reload
      Service.noteAll (snapshot.errors.map warning)
      let system ← get
      Service.noteAll [readiness system.settings system.registry] : Service Unit) :=
    System.Heard.ofContents.reload.bind fun _ => (System.Heard.ofContents.noteAll _).bind fun _ =>
      keeps_get.bind fun _ => System.Heard.ofContents.noteAll _
  have attaching {system : System} (silent : system.Heard (· = [])) :
      (exec (do
        Service.noteAll (RuleCatalog.builtinRecords ++ [record])
        listen .registry
        let snapshot ← reload
        Service.noteAll (snapshot.errors.map warning)
        let system ← get
        Service.noteAll [readiness system.settings system.registry]) system).2.Heard
          Listener.HearOnce := by
    have noted := System.Heard.ofContents.noteAll (RuleCatalog.builtinRecords ++ [record]) system silent
    rw [exec_noteAll] at noted
    obtain ⟨after, listened, heard⟩ := hearOnce_listen noted
    rw [exec_bind_of_ok (exec_noteAll _ system), exec_bind_of_ok listened]
    exact reading after heard
  revert succeeds
  unfold start
  cases isSeeded with
  | false => exact fun _ => attaching silent
  | true =>
      have seeded := System.Heard.keeps_seedPermissions system silent
      rw [if_pos rfl, exec_bind]
      revert seeded
      rcases exec seedPermissions system with ⟨error | created, after⟩ <;> intro seeded succeeds
      · cases succeeds
      · exact attaching seeded

/-- In a system that has been put together the registry listens once. -/
theorem hearOnce_of_assemble [Host] {parts : Parts} (assembled : assemble parts = .ok system) :
    system.Heard Listener.HearOnce := by
  obtain ⟨⟨registry, record⟩, _, assembled⟩ := Except.bind_eq_ok_iff.1 assembled
  obtain ⟨⟨⟩, succeeds, rfl⟩ := Except.map_eq_ok_iff.1 assembled
  exact hearOnce_start ⟨rfl, rfl⟩ _ _ succeeds

end Service

end Authorization

/-!
## Systems with a policy store in memory

A system in use that was put together with a policy store in memory keeps it in memory, and its registry
hears of every change once. So each change of the policy store rebuilds the registry exactly once, from
the records that are stored then.
-/

namespace Authorization

open Service

variable {catalog : RuleCatalog} {fixed : Keyed String PolicyChain} {system after : System}

/-- An orderly system whose policy store is in memory and whose registry hears of every change once. -/
structure System.InMemory [Host] (catalog : RuleCatalog) (fixed : Keyed String PolicyChain)
    (system : System) : Prop extends System.Orderly catalog fixed system where
  backend : system.policies.backend = .memory
  hearOnce : Listener.HearOnce system.listeners

namespace System

/-- A system in use that was put together with a policy store in memory. -/
theorem Reaches.exists_inMemory [Host] {parts : Parts} {start : System} (roles : parts.roles.Accepted)
    (policies : parts.policies.Accepted) (inMemory : parts.policies.backend = .memory)
    (assembled : assemble parts = .ok start) (ids : IdSource)
    (reaches : System.Reaches { start with ids } system) :
    ∃ catalog fixed, system.InMemory catalog fixed := by
  obtain ⟨catalog, fixed, orderly⟩ := reaches.exists_orderly roles policies assembled ids
  have started : start.Storing (fun _ => True) fun store => store.backend = .memory :=
    .of_assemble (fun _ _ _ _ => trivial) trivial inMemory assembled
  have lasting := @System.Storing.lasting (fun _ => True) (fun store => store.backend = .memory) _
    (fun _ _ _ _ => trivial) fun _ _ same step => step.sameBackend.trans same
  have storing := reaches.keeps lasting
    ⟨started.unplanned, started.closed, trivial, started.policies⟩
  have listening := hearOnce_of_assemble assembled
  have heard := reaches.keeps System.Heard.lasting ⟨listening.unplanned, listening.listeners⟩
  exact ⟨catalog, fixed, orderly, storing.policies, heard.listeners⟩

/-- The registry of an orderly system is that of its policy store. -/
theorem Orderly.registry_eq_ofStore [Host] (orderly : system.Orderly catalog fixed) :
    system.registry =
      Registry.ofStore catalog fixed system.registry.snapshot.version system.policies := by
  obtain ⟨version, inForce⟩ := orderly.inForce
  rw [inForce, version_ofStore]

namespace InMemory

variable [Host] (inMemory : system.InMemory catalog fixed)

include inMemory

/-- Whatever is drawn, a system stays as it is otherwise. -/
theorem withIds (ids : IdSource) : System.InMemory catalog fixed { system with ids } :=
  ⟨System.ofStores_orderly.others system _ _ _ ids _ _ inMemory.toOrderly, inMemory.backend,
    inMemory.hearOnce⟩

/-- What is logged changes nothing else. -/
theorem noted {message : String} {organization actor : Value} {done : Unit}
    (succeeds : exec (noteChange message organization actor) system = (.ok done, after)) :
    System.InMemory catalog fixed after ∧ after = { system with journal := after.journal } := by
  obtain ⟨line, rfl⟩ := logged_of_noteChange succeeds
  exact ⟨⟨System.ofStores_orderly.journal system _ inMemory.toOrderly, inMemory.backend,
    inMemory.hearOnce⟩, rfl⟩

/-- Rules that are made and saved are stored. -/
theorem savedFrom {before : System} (unplanned : before.plans = []) {make : Service (List PolicyRule)}
    {rules : List PolicyRule} (makes : exec make before = (.ok rules, system)) {value : Value}
    (succeeds : exec (saveRules make) before = (.ok value, after)) :
    system.policies.saveRules rules = .ok after.policies ∧ System.InMemory catalog fixed after ∧
      after = { system with
        policies := after.policies, registry := after.registry, journal := after.journal
        counted := after.counted } := by
  obtain ⟨saved, executed, changed⟩ := exec_saveRules unplanned makes inMemory.toOrderly
  rw [executed] at succeeds
  cases made : system.policies.saveRules rules with
  | error error =>
      rw [made] at succeeds
      cases succeeds
  | ok next =>
      rw [made] at succeeds changed
      cases succeeds
      cases changed with
      | made told upToDate =>
          have samePolicies : after.policies = next := told.policies
          have backend : after.policies.backend = .memory := by
            rw [samePolicies]
            exact (PolicyStore.Step.saveRules made).sameBackend.trans inMemory.backend
          refine ⟨congrArg Except.ok samePolicies.symm, ⟨upToDate, backend, ?_⟩, ?_⟩
          · rw [told.others]
            exact inMemory.hearOnce
          · rw [told.others]

/-- Rules that are saved are stored, and the registry is rebuilt once. -/
theorem saved {rules : List PolicyRule} (nonEmpty : rules ≠ []) {value : Value}
    (succeeds : exec (saveRules (pure rules)) system = (.ok value, after)) :
    system.policies.saveRules rules = .ok after.policies ∧
      after.registry = Registry.ofStore catalog fixed (system.registry.snapshot.version + 1)
        after.policies ∧
      System.InMemory catalog fixed after ∧
      after = { system with
        policies := after.policies, registry := after.registry, journal := after.journal
        counted := after.counted } := by
  obtain ⟨made, inMemoryStill, others⟩ :=
    inMemory.savedFrom inMemory.unplanned (exec_pure rules system) succeeds
  have version := version_saveRules inMemory.toOrderly nonEmpty made
  have once : system.listeners.count .registry = 1 := inMemory.hearOnce
  rw [succeeds, once] at version
  refine ⟨made, ?_, inMemoryStill, others⟩
  rw [← version]
  exact inMemoryStill.registry_eq_ofStore

end InMemory

end System

end Authorization
