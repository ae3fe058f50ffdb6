import Authorization.Proofs.Procedure.Upkeep
import Authorization.System.Assembly

/-!
# Systems in use

A system is put to work by a registry that listens to the policy store and reads it, and is then used by
calls, one after the other. Whatever is called, and whether or not a call fails, the registry agrees with
the policy store after it: the chain in charge of every key, the chain of every policy and the issues are
those of the stored records, however they came to be stored.
-/

namespace Authorization

open Service

/-- What a policy store may hold from the start: the records that one in memory is made of, or tables
that hold what tables can hold. -/
inductive PolicyStore.Accepted : PolicyStore → Prop
  | made {store : PolicyStore} (arguments : Arguments)
      (isMade : PolicyStore.ofArguments arguments = .ok store) : Accepted store
  | tables {store : PolicyStore} (isTables : store.backend = .tables) (sound : store.Sound) :
      Accepted store

/-- What a role store may hold from the start. -/
inductive RoleStore.Accepted : RoleStore → Prop
  | made {store : RoleStore} (arguments : Arguments)
      (isMade : RoleStore.ofArguments arguments = .ok store) : Accepted store
  | tables {store : RoleStore} (isTables : store.backend = .tables) (sound : store.Sound) :
      Accepted store

theorem PolicyStore.Accepted.sound {store : PolicyStore} (accepted : store.Accepted) :
    store.Sound := by
  cases accepted with
  | made _ isMade => exact PolicyStore.sound_of_ofArguments isMade
  | tables _ sound => exact sound

theorem RoleStore.Accepted.sound {store : RoleStore} (accepted : store.Accepted) :
    store.Sound := by
  cases accepted with
  | made _ isMade => exact RoleStore.sound_of_ofArguments isMade
  | tables _ sound => exact sound

/-- A registry subscribes to the policy store and reads it for the first time. -/
def Service.attach [Host] : Service Snapshot := do
  listen .registry
  reload

/-- Systems that are reached from a system by calls. -/
inductive System.Reaches [Host] (system : System) : System → Prop
  | refl : Reaches system system
  | call {middle : System} (before : Reaches system middle) (name : String)
      (arguments : Arguments) : Reaches system (exec (Service.call name arguments) middle).2

variable {catalog : RuleCatalog} {fixed : Keyed String PolicyChain} {system after : System}

/-! ## Putting a system to work -/

namespace Service

theorem exec_listen (idle : system.Idle catalog fixed) :
    ∃ ready, exec (listen .registry) system = (.ok (), ready) ∧ ready.Ready catalog fixed := by
  unfold listen
  rw [exec_modify]
  refine ⟨_, rfl, ?_⟩
  by_cases listens : system.listeners.contains .registry = true
  · rw [if_pos listens]
    exact ⟨idle, List.contains_iff_mem.1 listens⟩
  · rw [if_neg listens]
    exact
      { idle with
        unplanned := idle.unplanned
        closed := idle.closed
        listening := List.mem_append_right _ (List.mem_singleton_self _) }

/-- A registry that has been attached is up to date. -/
theorem exec_attach [Host] (idle : system.Idle catalog fixed) :
    ∃ snapshot after, exec attach system = (.ok snapshot, after) ∧ after.Orderly catalog fixed := by
  obtain ⟨ready, listened, isReady⟩ := exec_listen idle
  obtain ⟨snapshot, after, reloaded, told, inForce⟩ := exec_reload isReady.toIdle
  refine ⟨snapshot, after, ?_, told.ready isReady, _, told.policies ▸ inForce⟩
  unfold attach
  rw [exec_bind_of_ok listened, reloaded]

theorem OfStores.noteAll {invariant : System → Prop} (ofStores : OfStores invariant)
    (records : List LogRecord) : Keeps invariant (noteAll records) := by
  intro system holds
  rw [exec_noteAll]
  exact ofStores.others system _ _ _ _ _ _ holds

/-- A system that has been started is orderly. -/
theorem orderly_start [Host] (idle : system.Idle catalog fixed) (isSeeded : Bool) (record : LogRecord)
    (succeeds : (exec (start isSeeded record) system).1 = .ok ()) :
    (exec (start isSeeded record) system).2.Orderly catalog fixed := by
  have attaching {system : System} (idle : system.Idle catalog fixed) :
      (exec (do
        Service.noteAll (RuleCatalog.builtinRecords ++ [record])
        listen .registry
        let snapshot ← reload
        Service.noteAll (snapshot.errors.map warning)
        let system ← get
        Service.noteAll [readiness system.settings system.registry]) system).2.Orderly
          catalog fixed := by
    have noted := System.ofStores_idle.noteAll (RuleCatalog.builtinRecords ++ [record]) system idle
    obtain ⟨ready, listened, isReady⟩ := exec_listen noted
    obtain ⟨snapshot, after, reloaded, told, inForce⟩ := exec_reload isReady.toIdle
    rw [exec_noteAll] at listened
    rw [exec_bind_of_ok (exec_noteAll _ system), exec_bind_of_ok listened,
      exec_bind_of_ok reloaded]
    exact ((System.ofStores_orderly.noteAll _).bind fun _ => keeps_get.bind fun _ =>
      System.ofStores_orderly.noteAll _) after ⟨told.ready isReady, _, told.policies ▸ inForce⟩
  revert succeeds
  unfold start
  cases isSeeded with
  | false => exact fun _ => attaching idle
  | true =>
      have seeded := ofPolicies_idle.seedPermissions system idle
      rw [if_pos rfl, exec_bind]
      revert seeded
      rcases exec seedPermissions system with ⟨error | created, after⟩ <;> intro seeded succeeds
      · cases succeeds
      · exact attaching seeded

/-- A system that is put together of sound stores is orderly, makes rules by the built-in catalog, and has
the fixed chains of the standard table. -/
theorem orderly_standard_of_assemble [Host] {parts : Parts} (roles : parts.roles.Sound)
    (policies : parts.policies.Sound) (assembled : assemble parts = .ok system) :
    ∃ fixed, PolicyTable.standard.chains (.builtin parts.settings.limits) = .ok fixed ∧
      system.Orderly (.builtin parts.settings.limits) fixed := by
  obtain ⟨⟨registry, record⟩, isMade, assembled⟩ := Except.bind_eq_ok_iff.1 assembled
  obtain ⟨⟨⟩, succeeds, rfl⟩ := Except.map_eq_ok_iff.1 assembled
  obtain ⟨fixed, isTaken, made⟩ := Except.bind_eq_ok_iff.1 isMade
  cases made
  exact ⟨fixed, isTaken, orderly_start ⟨rfl, rfl, roles, policies, rfl, rfl⟩ _ _ succeeds⟩

theorem orderly_builtin_of_assemble [Host] {parts : Parts} (roles : parts.roles.Sound)
    (policies : parts.policies.Sound) (assembled : assemble parts = .ok system) :
    ∃ fixed, system.Orderly (.builtin parts.settings.limits) fixed := by
  obtain ⟨fixed, _, orderly⟩ := orderly_standard_of_assemble roles policies assembled
  exact ⟨fixed, orderly⟩

theorem orderly_of_assemble [Host] {parts : Parts} (roles : parts.roles.Sound)
    (policies : parts.policies.Sound) (assembled : assemble parts = .ok system) :
    ∃ catalog fixed, system.Orderly catalog fixed :=
  ⟨_, orderly_builtin_of_assemble roles policies assembled⟩

end Service

/-! ## Calls -/

/-- Calls keep an invariant that everyone keeps by what they save. -/
theorem System.Reaches.tends [Host] {invariant : System → Prop} {accepts : String → Value → Prop}
    {isStored : PolicyRule → Prop} (reaches : system.Reaches after)
    (tending : Tending invariant accepts isStored) (holds : invariant system) : invariant after := by
  induction reaches with
  | refl => exact holds
  | call before name arguments inductionHypothesis =>
      exact keeps_call tending name arguments _ inductionHypothesis

/-- Calls keep a lasting invariant. -/
theorem System.Reaches.keeps [Host] {invariant : System → Prop} (reaches : system.Reaches after)
    (lasting : Lasting invariant) (holds : invariant system) : invariant after :=
  reaches.tends lasting.tending holds

/-- Calls keep a system orderly. -/
theorem System.Reaches.orderly [Host] (reaches : system.Reaches after)
    (orderly : system.Orderly catalog fixed) : after.Orderly catalog fixed :=
  reaches.keeps lasting_orderly orderly

/-- A system that has been put together and used is orderly, with the fixed chains of the standard table. -/
theorem System.Reaches.exists_orderly_standard [Host] {parts : Parts} {start : System}
    (roles : parts.roles.Accepted) (policies : parts.policies.Accepted)
    (assembled : assemble parts = .ok start) (ids : IdSource)
    (reaches : System.Reaches { start with ids } system) :
    ∃ fixed, PolicyTable.standard.chains (.builtin parts.settings.limits) = .ok fixed ∧
      system.Orderly (.builtin parts.settings.limits) fixed := by
  obtain ⟨fixed, made, started⟩ :=
    orderly_standard_of_assemble roles.sound policies.sound assembled
  exact ⟨fixed, made,
    reaches.orderly (System.ofStores_orderly.others start _ _ _ _ _ _ started)⟩

/-- A system that has been put together and used is orderly. -/
theorem System.Reaches.exists_orderly [Host] {parts : Parts} {start : System}
    (roles : parts.roles.Accepted) (policies : parts.policies.Accepted)
    (assembled : assemble parts = .ok start) (ids : IdSource)
    (reaches : System.Reaches { start with ids } system) :
    ∃ catalog fixed, system.Orderly catalog fixed := by
  obtain ⟨fixed, -, orderly⟩ := reaches.exists_orderly_standard roles policies assembled ids
  exact ⟨_, fixed, orderly⟩

/-- After any calls, successful or not, a registry that was attached to a policy store agrees with
it. -/
theorem System.registry_agrees_of_reaches [Host] (unplanned : system.plans = [])
    (closed : system.savepoints = []) (roles : system.roles.Accepted)
    (policies : system.policies.Accepted) (reaches : (exec attach system).2.Reaches after) :
    after.registry.Agrees system.registry.catalog system.registry.snapshot.fixed after.policies := by
  have idle : system.Idle system.registry.catalog system.registry.snapshot.fixed :=
    ⟨unplanned, closed, roles.sound, policies.sound, rfl, rfl⟩
  obtain ⟨snapshot, attached, executed, orderly⟩ := exec_attach idle
  rw [executed] at reaches
  exact (reaches.orderly orderly).agrees

namespace System

/-- A policy of the organization "acme" on changes of customers, and its rule. -/
def updatesPolicy : Policy :=
  ⟨"p1", "customer:update", "Updates", "acme", .str "Policy for customer:update", .bool true⟩

def updatesRule : PolicyRule :=
  ⟨"r1", "p1", "users", "role_based", .proxy [(.str "roles", .list [.str "user"])], 1, .bool true,
    .null⟩

/-- A system whose policy store is made of that policy and its rule. -/
def updatesSystem : System :=
  { roles := {}
    policies := { policies := [("p1", updatesPolicy)], rules := [("r1", updatesRule)] }
    registry := ⟨.builtin {}, { version := 0 }⟩
    clock := ⟨0, some 0⟩ }

/-- The system after its registry has been attached, the policy has been deactivated, and it could not be
deleted because of its rule. -/
def updatesAfter [Host] : System :=
  (exec (Service.call "policy_store.delete_policy" ⟨[.str "p1"], []⟩)
    (exec (Service.call "policy_admin.update_policy"
      ⟨[.str "acme", .str "p1"], [("active", .bool false)]⟩) (exec attach updatesSystem).2).2).2

open scoped Host in
theorem updatesSystem_registry_agrees :
    updatesSystem.plans = [] ∧ updatesSystem.savepoints = [] ∧ updatesSystem.roles.Accepted ∧
      updatesSystem.policies.Accepted ∧ (exec attach updatesSystem).2.Reaches updatesAfter ∧
      updatesAfter.registry.Agrees (.builtin {}) [] updatesAfter.policies := by
  have roles : updatesSystem.roles.Accepted := .made ⟨[], []⟩ rfl
  have policies : updatesSystem.policies.Accepted :=
    .made ⟨[.list [updatesPolicy.toValue], .list [updatesRule.toValue]], []⟩ rfl
  have reaches : (exec attach updatesSystem).2.Reaches updatesAfter := .call (.call .refl _ _) _ _
  exact ⟨rfl, rfl, roles, policies, reaches,
    registry_agrees_of_reaches rfl rfl roles policies reaches⟩

end System

end Authorization

/-!
## Systems that are put together

The standard table of fixed chains can always be made from the built-in rules, so that a system that is
not seeded is always put together. It then has the stores that it was given, and nothing has been drawn.
-/

namespace Authorization

/-! ### The standard table -/

theorem Check.roleNames?_map_str {roles : List String}
    (nonEmpty : ∀ role ∈ roles, role.isEmpty = false) :
    roleNames? (roles.map Value.str) = some roles := by
  induction roles with
  | nil => rfl
  | cons role rest inductionHypothesis =>
      obtain ⟨here, others⟩ := List.forall_mem_cons.1 nonEmpty
      have read : (Value.str role).nonEmptyText? = some role := if_neg (by simp [here])
      rw [List.map_cons, roleNames?, read, Option.bind_some, inductionHypothesis others]
      rfl

namespace PolicyTable

variable {limits : Limits} {catalog : RuleCatalog} {found : Keyed String PolicyChain}

/-- An entry of a table that a rule can be made from. -/
def CanMake [Host] (catalog : RuleCatalog) (entry : Value × Value) : Prop :=
  ∃ rule, catalog.create entry.1 entry.2 = .ok rule

theorem canMake_sameOrganization [Host] : CanMake (.builtin limits) sameOrganization :=
  ⟨_, rfl⟩

theorem canMake_ownership [Host] : CanMake (.builtin limits) ownership :=
  ⟨_, rfl⟩

theorem canMake_accountRoles [Host] {role : String} {rest : List String}
    (nonEmpty : ∀ name ∈ role :: rest, name.isEmpty = false) :
    CanMake (.builtin limits) (accountRoles (role :: rest)) := by
  have made : Check.accountRoleOf "role_based"
      [(.str "roles", .list ((role :: rest).map Value.str))] = .ok (.accountRole (role :: rest)) := by
    have isThere : Value.lookupText? [(.str "roles", .list ((role :: rest).map Value.str))] "roles" =
        some (.list ((role :: rest).map Value.str)) := by
      simp [Value.lookupText?, Value.lookup?]
    have areNames := Check.roleNames?_map_str nonEmpty
    rw [List.map_cons] at areNames isThere ⊢
    rw [Check.accountRoleOf, isThere]
    dsimp only [Option.bind_some, Check.membersOf?, Option.getD_some]
    rw [areNames]
    rfl
  have run : (RuleCatalog.builtin limits).create (.str "role_based")
      (.dict [(.str "roles", .list ((role :: rest).map Value.str))]) =
      (Check.accountRoleOf "role_based"
        [(.str "roles", .list ((role :: rest).map Value.str))] >>= fun check =>
          pure ⟨"RoleMembershipRule", "role_based", check⟩) := rfl
  rw [made] at run
  exact ⟨_, run⟩

/-- All rules of a table can be made. -/
def CanMakeAll [Host] (catalog : RuleCatalog) (table : PolicyTable) : Prop :=
  ∀ entry ∈ table, ∀ rule ∈ entry.2, CanMake catalog rule

theorem CanMakeAll.append [Host] {table other : PolicyTable} (canMake : CanMakeAll catalog table)
    (otherCanMake : CanMakeAll catalog other) : CanMakeAll catalog (table ++ other) :=
  List.forall_mem_append.2 ⟨canMake, otherCanMake⟩

theorem canMakeAll_entity [Host] (name : String) {creator : String} {rest : List String}
    (nonEmpty : ∀ role ∈ creator :: rest, role.isEmpty = false) :
    CanMakeAll (.builtin limits) (entity name (creator :: rest)) :=
  List.forall_mem_cons.2
    ⟨List.forall_mem_cons.2
      ⟨canMake_sameOrganization, List.forall_mem_singleton.2 (canMake_accountRoles (by decide))⟩,
    List.forall_mem_singleton.2 (List.forall_mem_singleton.2 (canMake_accountRoles nonEmpty))⟩

theorem canMakeAll_owned [Host] (name : String) : CanMakeAll (.builtin limits) (owned name) :=
  (canMakeAll_entity name (by decide)).append <| List.forall_mem_cons.2
    ⟨List.forall_mem_cons.2
      ⟨canMake_sameOrganization, List.forall_mem_singleton.2 canMake_ownership⟩,
    List.forall_mem_singleton.2 <| List.forall_mem_cons.2
      ⟨canMake_sameOrganization, List.forall_mem_singleton.2 (canMake_accountRoles (by decide))⟩⟩

theorem canMakeAll_map [Host] (key : String → String) (actions : List String) {rules : List (Value × Value)}
    (canMake : ∀ rule ∈ rules, CanMake catalog rule) :
    CanMakeAll catalog (actions.map fun action => (key action, rules)) := by
  intro entry member
  obtain ⟨action, _, rfl⟩ := List.mem_map.1 member
  exact canMake

theorem canMakeAll_standard [Host] : CanMakeAll (.builtin limits) standard := by
  have assign : CanMakeAll (.builtin limits)
      [("customer:assign", [sameOrganization, accountRoles ["admin", "manager"]])] :=
    List.forall_mem_singleton.2 <| List.forall_mem_cons.2
      ⟨canMake_sameOrganization, List.forall_mem_singleton.2 (canMake_accountRoles (by decide))⟩
  have administrators (name : String) : CanMakeAll (.builtin limits) (forAdministrators name) :=
    canMakeAll_map _ _ (List.forall_mem_singleton.2 (canMake_accountRoles (by decide)))
  have products : CanMakeAll (.builtin limits) (["update", "delete"].map fun action =>
      (Key.join "product" action, [sameOrganization, accountRoles ["admin"]])) :=
    canMakeAll_map _ _ <| List.forall_mem_cons.2
      ⟨canMake_sameOrganization, List.forall_mem_singleton.2 (canMake_accountRoles (by decide))⟩
  exact (((((((canMakeAll_owned "customer").append assign).append (canMakeAll_owned "deal")).append
    (canMakeAll_owned "task")).append (administrators "api_key")).append
      (administrators "webhook")).append (canMakeAll_entity "product" (by decide))).append products

theorem exists_chainOf [Host] (key : String) {rules : List (Value × Value)}
    (canMake : ∀ rule ∈ rules, CanMake catalog rule) :
    ∃ chain, chainOf catalog key rules = .ok chain := by
  obtain ⟨made, areMade⟩ := Except.exists_mapM_eq_ok canMake
  exact ⟨_, Except.bind_eq_ok_iff.2 ⟨made, areMade, rfl⟩⟩

/-- A table is taken when no key occurs twice and all rules can be made. -/
theorem exists_addTo [Host] {table : PolicyTable} (distinct : (table.map Prod.fst).Nodup)
    (apart : ∀ key ∈ table.map Prod.fst, key ∉ found.map Prod.fst)
    (canMake : CanMakeAll catalog table) : ∃ chains, addTo catalog found table = .ok chains := by
  induction table generalizing found with
  | nil => exact ⟨found, rfl⟩
  | cons entry rest inductionHypothesis =>
      obtain ⟨key, rules⟩ := entry
      obtain ⟨isNew, distinct⟩ := List.nodup_cons.1 distinct
      obtain ⟨isAbsent, apart⟩ := List.forall_mem_cons.1 apart
      obtain ⟨canMakeHere, canMake⟩ := List.forall_mem_cons.1 canMake
      obtain ⟨chain, made⟩ := exists_chainOf key canMakeHere
      have apart : ∀ other ∈ rest.map Prod.fst, other ∉ (found ++ [(key, chain)]).map Prod.fst := by
        intro other member
        rw [List.map_append, List.mem_append, not_or]
        refine ⟨apart other member, fun same => isNew ?_⟩
        exact List.mem_singleton.1 same ▸ member
      obtain ⟨chains, taken⟩ := inductionHypothesis distinct apart canMake
      refine ⟨chains, ?_⟩
      rw [addTo, if_neg (isAbsent ∘ Keyed.has_iff_mem_keys.1), made]
      exact taken

/-- The standard table is taken with any limits. -/
theorem exists_chains_standard [Host] (limits : Limits) :
    ∃ chains, PolicyTable.chains (.builtin limits) standard = .ok chains :=
  exists_addTo (by decide) (fun _ _ => List.not_mem_nil) canMakeAll_standard

end PolicyTable

/-! ### Systems -/

namespace Service

variable {catalog : RuleCatalog} {fixed : Keyed String PolicyChain} {system : System}

/-- Without seeding, a system to which nobody listens is brought to work with its stores as they are. -/
theorem exec_start_of_unseeded [Host] (idle : system.Idle catalog fixed) (silent : system.listeners = [])
    (record : LogRecord) : ∃ registry counted journal, exec (start false record) system =
      (.ok (), { system with registry, listeners := [.registry], counted, journal }) := by
  have noted := System.ofStores_idle.noteAll (RuleCatalog.builtinRecords ++ [record]) system idle
  rw [exec_noteAll] at noted
  obtain ⟨ready, listened, isReady⟩ := exec_listen noted
  obtain ⟨snapshot, after, reloaded, told, _⟩ := exec_reload isReady.toIdle
  have isListening : ready = { system with
      listeners := [.registry]
      journal := (RuleCatalog.builtinRecords ++ [record]).foldl
        (fun journal record => journal.add record.level record.source record.message)
        system.journal } := by
    have executed := congrArg Prod.snd listened
    unfold listen at executed
    rw [exec_modify] at executed
    simp only [silent] at executed
    exact executed.symm
  unfold start
  rw [if_neg Bool.false_ne_true, exec_bind_of_ok (exec_noteAll _ system), exec_bind_of_ok listened,
    exec_bind_of_ok reloaded, exec_bind_of_ok (exec_noteAll _ after), exec_get_bind,
    exec_noteAll, told.others, isListening]
  exact ⟨_, _, _, rfl⟩

/-- A system that is not seeded is always put together, and has the stores that it was given. -/
theorem exists_assemble [Host] {parts : Parts} (unseeded : parts.isSeeded = false)
    (roles : parts.roles.Sound) (policies : parts.policies.Sound) :
    ∃ registry counted journal, assemble parts = .ok
      { roles := parts.roles, policies := parts.policies, registry
        settings := parts.settings, loader := parts.loader, accessLog := parts.accessLog
        clock := parts.clock, ids := { spell := parts.ids.spell }
        listeners := [.registry], counted, journal } := by
  obtain ⟨fixed, taken⟩ := PolicyTable.exists_chains_standard parts.settings.limits
  have made : Registry.ofTable (.builtin parts.settings.limits) .standard =
      .ok (⟨.builtin parts.settings.limits, { version := 0, fixed }⟩,
        ⟨.debug, .policy, "Initialized " ++ Number.intText fixed.length ++ " static policies"⟩) := by
    rw [Registry.ofTable, taken]
    rfl
  unfold assemble
  rw [made, Except.ok_bind, unseeded]
  dsimp only
  obtain ⟨registry, counted, journal, started⟩ := exec_start_of_unseeded
    (⟨rfl, rfl, roles, policies, rfl, rfl⟩ : System.Idle (.builtin parts.settings.limits) fixed
      { roles := parts.roles, policies := parts.policies
        registry := ⟨.builtin parts.settings.limits, { version := 0, fixed }⟩
        settings := parts.settings, loader := parts.loader, accessLog := parts.accessLog
        clock := parts.clock, ids := { spell := parts.ids.spell } }) rfl
    ⟨.debug, .policy, "Initialized " ++ Number.intText fixed.length ++ " static policies"⟩
  rw [started]
  exact ⟨registry, counted, journal, rfl⟩

end Service

end Authorization
