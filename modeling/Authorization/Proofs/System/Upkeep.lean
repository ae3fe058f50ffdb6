import Authorization.Proofs.Service.Keeps
import Authorization.Proofs.System.Orderly

/-!
# Stores at work keep a system orderly

Whatever an operation of a store comes to, it leaves an orderly system orderly. An invariant that all
operations of the stores keep is a lasting one: what is put together of these operations keeps it, too.
-/

namespace Authorization

variable {catalog : RuleCatalog} {fixed : Keyed String PolicyChain} {system : System}

namespace System

theorem ofStores_idle : Service.OfStores (System.Idle catalog fixed) where
  unplanned _ idle := idle.unplanned
  journal _ _ idle :=
    { idle with
      unplanned := idle.unplanned
      closed := idle.closed }
  others _ _ _ _ _ _ _ idle :=
    { idle with
      unplanned := idle.unplanned
      closed := idle.closed }

theorem ofStores_orderly [Host] : Service.OfStores (System.Orderly catalog fixed) where
  unplanned _ orderly := orderly.unplanned
  journal _ _ orderly :=
    { orderly with
      unplanned := orderly.unplanned
      closed := orderly.closed }
  others _ _ _ _ _ _ _ orderly :=
    { orderly with
      unplanned := orderly.unplanned
      closed := orderly.closed }

/-- Another sound role store may take the place of the role store. -/
theorem Idle.withRoles (idle : system.Idle catalog fixed) {roles : RoleStore}
    (sound : roles.Sound) : System.Idle catalog fixed { system with roles } :=
  { idle with
    unplanned := idle.unplanned
    closed := idle.closed
    roles := sound }

theorem Orderly.withRoles [Host] (orderly : system.Orderly catalog fixed) {roles : RoleStore}
    (sound : roles.Sound) : System.Orderly catalog fixed { system with roles } :=
  { orderly with
    toIdle := orderly.toIdle.withRoles sound }

end System

namespace Service

/-! ## Roles -/

theorem exec_addPermissions (unplanned : system.plans = []) (permissions : List Value) :
    exec (addPermissions permissions) system =
      ((system.roles.addPermissions permissions).2.map fun count : Nat => .int count,
        { system with roles := (system.roles.addPermissions permissions).1 }) := by
  unfold addPermissions
  rw [exec_performedValue unplanned, exec_get_bind]
  dsimp only
  rw [exec_bind_of_ok (exec_modify _ system), exec_orFail]

/-- An invariant of systems outside transactions that holds with any sound role store. -/
structure OfPolicies (invariant : System → Prop) : Prop extends OfStores invariant where
  closed : ∀ system, invariant system → system.savepoints = []
  roles : ∀ system, invariant system → system.roles.Sound
  withRoles : ∀ system roles, invariant system → roles.Sound → invariant { system with roles }

theorem ofPolicies_idle : OfPolicies (System.Idle catalog fixed) where
  toOfStores := System.ofStores_idle
  closed _ idle := idle.closed
  roles _ idle := idle.roles
  withRoles _ _ idle sound := idle.withRoles sound

theorem ofPolicies_orderly [Host] : OfPolicies (System.Orderly catalog fixed) where
  toOfStores := System.ofStores_orderly
  closed _ orderly := orderly.closed
  roles _ orderly := orderly.roles
  withRoles _ _ orderly sound := orderly.withRoles sound

namespace OfPolicies

variable {invariant : System → Prop} (ofPolicies : OfPolicies invariant)

include ofPolicies

/-- A change of the role store keeps an invariant of the policies when it leaves a sound store. -/
theorem changeRoles {α : Type} {change : RoleStore → Except Error (RoleStore × α)}
    (sound : ∀ {store next : RoleStore} {result : α}, store.Sound →
      change store = .ok (next, result) → next.Sound) :
    Keeps invariant (changeRoles change) := by
  intro system holds
  unfold Service.changeRoles
  rw [exec_get_bind, exec_bind, exec_orFail]
  rcases made : change system.roles with error | ⟨next, result⟩
  · exact holds
  · exact ofPolicies.withRoles _ _ holds (sound (ofPolicies.roles _ holds) made)

theorem addPermissions (permissions : List Value) : Keeps invariant (addPermissions permissions) := by
  intro system holds
  rw [exec_addPermissions (ofPolicies.unplanned _ holds)]
  exact ofPolicies.withRoles _ _ holds ((ofPolicies.roles _ holds).addPermissions permissions).1

theorem addPermissionValues (permissions : Value) :
    Keeps invariant (addPermissionValues permissions) :=
  (ofPolicies.ofDraw _).bind fun _ => ofPolicies.addPermissions _

theorem seedPermissions : Keeps invariant seedPermissions :=
  keeps_get.bind fun _ => .ite ((ofPolicies.note _ _ _).bind fun _ => keeps_pure _)
    ((ofPolicies.addPermissions _).bind fun created =>
      (ofPolicies.note _ _ _).bind fun _ => keeps_pure created)

theorem saveRole (role : Role) : Keeps invariant (saveRole role) := by
  refine ofPolicies.performedValue (ofPolicies.changeRoles fun sound saved => ?_) _ _
  obtain ⟨_, savedOk, equality⟩ := Except.map_eq_ok_iff.1 saved
  cases equality
  exact sound.saveRole savedOk

theorem deleteRole (id : Value) : Keeps invariant (deleteRole id) :=
  ofPolicies.performedValue (ofPolicies.changeRoles fun sound deleted =>
    sound.deleteRole deleted) _ _

theorem revoke (user id : Value) : Keeps invariant (revoke user id) :=
  ofPolicies.performedValue (ofPolicies.changeRoles fun sound revoked => sound.revoke revoked) _ _

/-- Outside transactions an assignment that leaves the tables inconsistent is refused. -/
theorem assign (user id : Value) : Keeps invariant (assign user id) := by
  refine ofPolicies.performedValue (fun system holds => ?_) _ _
  rw [exec_get_bind, ofPolicies.closed _ holds]
  refine ofPolicies.changeRoles (fun {store next result} sound changed => ?_) system holds
  obtain ⟨⟨assigned, isNew⟩, made, checked⟩ := Except.bind_eq_ok_iff.1 changed
  dsimp only at checked
  cases consistent : assigned.isConsistent with
  | true =>
      rw [consistent] at checked
      cases checked
      exact sound.assign made consistent
  | false =>
      rw [consistent] at checked
      cases checked

end OfPolicies

/-! ## Policies -/

theorem keeps_savePolicy [Host] (policy : Policy) :
    Keeps (System.Orderly catalog fixed) (savePolicy policy) := by
  intro system orderly
  obtain ⟨after, executed, changed⟩ := exec_savePolicy orderly policy
  rw [executed]
  exact changed.orderly orderly

theorem keeps_deletePolicy [Host] (id : Value) :
    Keeps (System.Orderly catalog fixed) (deletePolicy id) := by
  intro system orderly
  obtain ⟨after, executed, changed⟩ := exec_deletePolicy orderly id
  rw [executed]
  exact changed.orderly orderly

theorem keeps_deleteRule [Host] (id : Value) : Keeps (System.Orderly catalog fixed) (deleteRule id) := by
  intro system orderly
  obtain ⟨after, executed, changed⟩ := exec_deleteRule orderly id
  rw [executed]
  exact changed.orderly orderly

theorem keeps_saveRules [Host] {make : Service (List PolicyRule)}
    (keeps : Keeps (System.Orderly catalog fixed) make) :
    Keeps (System.Orderly catalog fixed) (saveRules make) := by
  intro system orderly
  have stillOrderly := keeps system orderly
  rcases made : exec make system with ⟨error | rules, middle⟩
  · rw [exec_saveRules_of_error orderly.unplanned made]
    rwa [made] at stillOrderly
  · rw [made] at stillOrderly
    obtain ⟨after, executed, changed⟩ := exec_saveRules orderly.unplanned made stillOrderly
    rw [executed]
    exact changed.orderly stillOrderly

theorem keeps_saveRuleValues [Host] (values : Value) :
    Keeps (System.Orderly catalog fixed) (saveRuleValues values) := by
  refine System.ofStores_orderly.performedValue ?_ _ _
  refine (System.ofStores_orderly.ofDraw _).bind fun items system orderly => ?_
  obtain ⟨after, executed, changed⟩ := exec_change (fun policies => do
      let next ← items.foldlM (fun found item => PolicyStore.ruleOf item >>= found.saveRule) policies
      return (next, items)) (fun _ => !items.isEmpty) orderly
    (fun next result saved => by
      obtain ⟨_, savedOk, equality⟩ := Except.bind_eq_ok_iff.1 saved
      cases equality
      exact orderly.policies.saveRuleValues savedOk)
    (fun next result saved silent => by
      obtain ⟨_, savedOk, equality⟩ := Except.bind_eq_ok_iff.1 saved
      cases equality
      exact foldlM_isEmpty savedOk silent)
  refine (congrArg (fun run => run.2.Orderly catalog fixed) executed).mpr ?_
  exact changed.orderly orderly

/-! ## The registry and those who listen -/

theorem keeps_listen [Host] (listener : Listener) :
    Keeps (System.Orderly catalog fixed) (listen listener) := by
  refine keeps_modify fun system orderly => ?_
  split
  · exact orderly
  · exact { orderly with
      unplanned := orderly.unplanned
      closed := orderly.closed
      listening := List.mem_append_left _ orderly.listening }

/-- To subscribe keeps what it keeps to let a listener listen. -/
theorem OfStores.subscribe {invariant : System → Prop} (ofStores : OfStores invariant)
    (listens : ∀ listener, Keeps invariant (listen listener)) (listener : Value) :
    Keeps invariant (subscribe listener) := by
  refine ofStores.performedValue ?_ _ _
  split
  · exact listens _
  · exact .ite (keeps_pure _) (keeps_throw _)

theorem keeps_reload [Host] : Keeps (System.Orderly catalog fixed) reload := by
  intro system orderly
  obtain ⟨snapshot, after, executed, told, inForce⟩ := exec_reload orderly.toIdle
  rw [executed]
  exact { told.ready orderly.toReady with inForce := ⟨_, told.policies ▸ inForce⟩ }

end Service

/-! ## Lasting invariants -/

/-- Where the key of a policy that is saved comes from: it has been checked, or a stored policy of a
system with the invariant has it. -/
inductive Policy.Keyed (invariant : System → Prop) (policy : Policy) : Prop
  | checked (isKey : Key.isPolicyKey policy.key = true) : Keyed invariant policy
  | kept {system : System} {old : Policy} (holds : invariant system)
      (member : old ∈ system.policies.policies.values) (sameKey : policy.key = old.key) :
      Keyed invariant policy

namespace Service

/-- An invariant of the stores that their changes keep as well, apart from those that save rules. -/
structure Enduring [Host] (invariant : System → Prop) : Prop extends OfStores invariant where
  addPermissionValues : ∀ permissions, Keeps invariant (addPermissionValues permissions)
  saveRole : ∀ role, Keeps invariant (saveRole role)
  deleteRole : ∀ id, Keeps invariant (deleteRole id)
  assign : ∀ user id, Keeps invariant (assign user id)
  revoke : ∀ user id, Keeps invariant (revoke user id)
  savePolicy : ∀ policy, policy.Keyed invariant → Keeps invariant (savePolicy policy)
  deletePolicy : ∀ id, Keeps invariant (deletePolicy id)
  deleteRule : ∀ id, Keeps invariant (deleteRule id)
  subscribe : ∀ listener, Keeps invariant (subscribe listener)
  reload : Keeps invariant reload

/-- An invariant of the stores that all their changes keep. -/
structure Lasting [Host] (invariant : System → Prop) : Prop extends Enduring invariant where
  saveRules : ∀ make, Keeps invariant make → Keeps invariant (saveRules make)
  saveRuleValues : ∀ values, Keeps invariant (saveRuleValues values)

theorem lasting_orderly [Host] : Lasting (System.Orderly catalog fixed) where
  toOfStores := System.ofStores_orderly
  addPermissionValues := ofPolicies_orderly.addPermissionValues
  saveRole := ofPolicies_orderly.saveRole
  deleteRole := ofPolicies_orderly.deleteRole
  assign := ofPolicies_orderly.assign
  revoke := ofPolicies_orderly.revoke
  savePolicy policy _ := keeps_savePolicy policy
  deletePolicy := keeps_deletePolicy
  deleteRule := keeps_deleteRule
  subscribe := System.ofStores_orderly.subscribe keeps_listen
  reload := keeps_reload
  saveRules _ := keeps_saveRules
  saveRuleValues := keeps_saveRuleValues

end Service

end Authorization
