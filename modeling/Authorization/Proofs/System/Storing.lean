import Authorization.Proofs.System.Session

/-!
# What the stores hold

A property of a store that every step of the store keeps is kept by all that is called, whether it
succeeds or fails: calls change the stores by their own operations only, and to announce a change never
fails and leaves both stores alone.
-/

namespace Authorization

open Service

/-! ## Announcements -/

namespace Service

variable {system : System} {invariant : System → Prop}

theorem exec_reload_of_unplanned [Host] (unplanned : system.plans = []) :
    ∃ snapshot registry journal,
      exec reload system = (.ok snapshot, { system with registry, journal }) := by
  have isRead := exec_stored unplanned
  unfold reload
  rw [exec_bind, exec_outcome, isRead]
  dsimp only [readOr]
  rw [exec_bind_of_ok (exec_pure _ system), exec_bind_of_ok (exec_pure _ system),
    exec_get_bind, exec_bind_of_ok (exec_modify _ system),
    exec_bind_of_ok (exec_noteAll _ _), exec_pure]
  exact ⟨_, _, _, rfl⟩

theorem exec_tell_of_unplanned [Host] (unplanned : system.plans = []) (listener : Listener) :
    ∃ registry journal counted,
      exec (tell listener) system = (.ok (), { system with registry, journal, counted }) := by
  cases listener with
  | registry =>
      obtain ⟨snapshot, registry, journal, reloaded⟩ := exec_reload_of_unplanned unplanned
      refine ⟨registry, journal, system.counted, ?_⟩
      rw [tell, exec_bind_of_ok reloaded, exec_pure]
  | counter => exact ⟨_, _, _, rfl⟩
  | function tag => exact ⟨_, _, _, rfl⟩

theorem exec_tellAll_of_unplanned [Host] (listeners : List Listener) (unplanned : system.plans = []) :
    ∃ registry journal counted,
      exec (listeners.forM tell) system = (.ok (), { system with registry, journal, counted }) := by
  induction listeners generalizing system with
  | nil => exact ⟨_, _, _, rfl⟩
  | cons listener rest inductionHypothesis =>
      obtain ⟨registry, journal, counted, toldOne⟩ := exec_tell_of_unplanned unplanned listener
      have stillUnplanned : System.plans { system with registry, journal, counted } = [] := unplanned
      obtain ⟨lastRegistry, lastJournal, lastCounted, toldRest⟩ := inductionHypothesis stillUnplanned
      refine ⟨lastRegistry, lastJournal, lastCounted, ?_⟩
      rw [List.forM, exec_bind_of_ok toldOne, toldRest]

/-- An announcement never fails with nothing planned, and leaves the stores alone. -/
theorem exec_announce_of_unplanned [Host] (unplanned : system.plans = []) :
    ∃ registry journal counted waiting,
      exec announce system = (.ok (), { system with registry, journal, counted, waiting }) := by
  unfold announce notify
  rw [exec_get_bind]
  by_cases closed : system.savepoints.isEmpty = true
  · obtain ⟨registry, journal, counted, told⟩ :=
      exec_tellAll_of_unplanned system.listeners unplanned
    refine ⟨registry, journal, counted, system.waiting, ?_⟩
    rw [if_pos closed, exec_get_bind, told]
  · rw [if_neg closed, exec_modify]
    exact ⟨_, _, _, _, rfl⟩

/-- An invariant of the stores and the listeners that looks neither at the registry nor at what waits to be
announced. -/
structure OfContents (invariant : System → Prop) : Prop extends OfStores invariant where
  announced : ∀ system registry waiting, invariant system →
    invariant { system with registry, waiting }

namespace OfContents

variable (ofContents : OfContents invariant)

include ofContents

theorem reload [Host] : Keeps invariant reload := by
  intro system holds
  obtain ⟨snapshot, registry, journal, reloaded⟩ :=
    exec_reload_of_unplanned (ofContents.unplanned system holds)
  have announced := ofContents.announced system registry system.waiting holds
  rw [reloaded]
  exact ofContents.journal _ journal announced

theorem announce [Host] : Keeps invariant announce := by
  intro system holds
  obtain ⟨registry, journal, counted, waiting, announced⟩ :=
    exec_announce_of_unplanned (ofContents.unplanned system holds)
  have kept := ofContents.announced system registry waiting holds
  rw [announced]
  exact ofContents.others _ system.loader system.accessLog system.clock system.ids counted journal kept

/-- A change of the policy store keeps what is kept when the change itself keeps it. -/
theorem changed [Host] {α : Type} {change : PolicyStore → Except Error (PolicyStore × α)}
    (keeps : Keeps invariant (changePolicies change)) (announces : α → Bool) :
    Keeps invariant (do
      let result ← changePolicies change
      if announces result then Service.announce
      return result) :=
  keeps.bind fun _ => .guarded ofContents.announce fun _ => keeps_pure _

end OfContents

end Service

/-! ## Properties of the stores -/

/-- Nothing is planned, no transaction is open, and the stores have some properties. -/
structure System.Storing (roles : RoleStore → Prop) (policies : PolicyStore → Prop)
    (system : System) : Prop where
  unplanned : system.plans = []
  closed : system.savepoints = []
  roles : roles system.roles
  policies : policies system.policies

namespace System.Storing

variable {roles : RoleStore → Prop} {policies : PolicyStore → Prop}

theorem ofContents : OfContents (Storing roles policies) where
  unplanned _ storing := storing.unplanned
  journal _ _ storing := ⟨storing.unplanned, storing.closed, storing.roles, storing.policies⟩
  others _ _ _ _ _ _ _ storing :=
    ⟨storing.unplanned, storing.closed, storing.roles, storing.policies⟩
  announced _ _ _ storing :=
    ⟨storing.unplanned, storing.closed, storing.roles, storing.policies⟩

theorem keeps_changeRoles {α : Type} {change : RoleStore → Except Error (RoleStore × α)}
    (keeps : ∀ store next result, roles store → change store = .ok (next, result) → roles next) :
    Keeps (Storing roles policies) (changeRoles change) := by
  intro system storing
  unfold changeRoles
  rw [exec_get_bind, exec_bind, exec_orFail]
  rcases made : change system.roles with error | ⟨next, result⟩
  · exact storing
  · have isKept := keeps _ _ _ storing.roles made
    exact ⟨storing.unplanned, storing.closed, isKept, storing.policies⟩

theorem keeps_changePolicies {α : Type} {change : PolicyStore → Except Error (PolicyStore × α)}
    (keeps : ∀ store next result, policies store → change store = .ok (next, result) →
      policies next) :
    Keeps (Storing roles policies) (changePolicies change) := by
  intro system storing
  rw [exec_changePolicies]
  rcases made : change system.policies with error | ⟨next, result⟩
  · exact storing
  · have isKept := keeps _ _ _ storing.policies made
    exact ⟨storing.unplanned, storing.closed, storing.roles, isKept⟩

theorem keeps_listen (listener : Listener) : Keeps (Storing roles policies) (listen listener) := by
  refine keeps_modify fun system storing => ?_
  split
  · exact storing
  · exact ⟨storing.unplanned, storing.closed, storing.roles, storing.policies⟩

section

variable (roleSteps : ∀ store next, roles store → store.Step next → roles next)

include roleSteps

theorem keeps_addPermissions (permissions : List Value) :
    Keeps (Storing roles policies) (addPermissions permissions) := by
  intro system storing
  have isKept := roleSteps _ _ storing.roles (.addPermissions permissions)
  rw [exec_addPermissions storing.unplanned]
  exact ⟨storing.unplanned, storing.closed, isKept, storing.policies⟩

theorem keeps_seedPermissions : Keeps (Storing roles policies) seedPermissions :=
  keeps_get.bind fun _ => .ite ((ofContents.note _ _ _).bind fun _ => keeps_pure _)
    ((keeps_addPermissions roleSteps _).bind fun created =>
      (ofContents.note _ _ _).bind fun _ => keeps_pure created)

/-- What the stores of a system hold when it is put together is kept while it is brought to work. -/
theorem of_assemble [Host] {parts : Parts} {system : System} (ofRoles : roles parts.roles)
    (ofPolicies : policies parts.policies) (assembled : assemble parts = .ok system) :
    system.Storing roles policies := by
  have reading (records : List LogRecord) : Keeps (Storing roles policies) (do
      noteAll records
      listen .registry
      let snapshot ← reload
      noteAll (snapshot.errors.map warning)
      let system ← get
      noteAll [readiness system.settings system.registry] : Service Unit) :=
    (ofContents.toOfStores.noteAll _).bind fun _ => (keeps_listen _).bind fun _ =>
      ofContents.reload.bind fun _ => (ofContents.toOfStores.noteAll _).bind fun _ =>
        keeps_get.bind fun _ => ofContents.toOfStores.noteAll _
  obtain ⟨⟨registry, record⟩, _, assembled⟩ := Except.bind_eq_ok_iff.1 assembled
  obtain ⟨⟨⟩, _, rfl⟩ := Except.map_eq_ok_iff.1 assembled
  have started : Keeps (Storing roles policies) (start parts.isSeeded record) :=
    .ite ((keeps_seedPermissions roleSteps).bind fun _ => reading _) (reading _)
  exact started _ ⟨rfl, rfl, ofRoles, ofPolicies⟩

theorem keeps_saveRole (role : Role) : Keeps (Storing roles policies) (saveRole role) := by
  refine ofContents.performedValue (keeps_changeRoles fun store next result holds changed => ?_) _ _
  obtain ⟨_, saved, same⟩ := Except.map_eq_ok_iff.1 changed
  cases same
  exact roleSteps store next holds (.saveRole saved)

theorem keeps_deleteRole (id : Value) : Keeps (Storing roles policies) (deleteRole id) :=
  ofContents.performedValue (keeps_changeRoles fun store next _ holds deleted =>
    roleSteps store next holds (.deleteRole deleted)) _ _

theorem keeps_revoke (user id : Value) : Keeps (Storing roles policies) (revoke user id) :=
  ofContents.performedValue (keeps_changeRoles fun store next _ holds revoked =>
    roleSteps store next holds (.revoke revoked)) _ _

/-- Outside transactions an assignment is checked before it is made. -/
theorem keeps_assign (user id : Value) : Keeps (Storing roles policies) (assign user id) := by
  refine ofContents.performedValue (fun system storing => ?_) _ _
  rw [exec_get_bind, storing.closed]
  refine keeps_changeRoles (fun store next result holds changed => ?_) system storing
  obtain ⟨⟨assigned, isNew⟩, made, checked⟩ := Except.bind_eq_ok_iff.1 changed
  dsimp only at checked
  by_cases consistent : assigned.isConsistent = true
  · rw [consistent] at checked
    cases checked
    exact roleSteps store next holds (.assign made consistent)
  · rw [Bool.not_eq_true] at consistent
    rw [consistent] at checked
    cases checked

end

/-! ### Changes of policies -/

theorem keeps_savePolicy [Host] {policy : Policy}
    (saves : ∀ store next, policies store → store.savePolicy policy = .ok next → policies next) :
    Keeps (Storing roles policies) (savePolicy policy) := by
  refine ofContents.performedValue (ofContents.changed ?_ fun _ => true) _ _
  refine keeps_changePolicies fun store next result holds changed => ?_
  obtain ⟨_, saved, same⟩ := Except.map_eq_ok_iff.1 changed
  cases same
  exact saves store next holds saved

theorem keeps_deletePolicy [Host] {id : Value} (deletes : ∀ store next answer, policies store →
      store.deletePolicy id = .ok (next, answer) → policies next) :
    Keeps (Storing roles policies) (deletePolicy id) := by
  refine ofContents.performedValue (ofContents.changed ?_ fun deleted => deleted) _ _
  exact keeps_changePolicies deletes

theorem keeps_deleteRule [Host] {id : Value} (deletes : ∀ store next answer, policies store →
      store.deleteRule id = .ok (next, answer) → policies next) :
    Keeps (Storing roles policies) (deleteRule id) := by
  refine ofContents.performedValue (ofContents.changed ?_ fun deleted => deleted) _ _
  exact keeps_changePolicies deletes

theorem keeps_saveRules [Host] {make : Service (List PolicyRule)} {good : List PolicyRule → Prop}
    (keeps : Keeps (Storing roles policies) make) (yields : Yields (Storing roles policies) make good)
    (saves : ∀ store next rules, policies store → good rules → store.saveRules rules = .ok next →
      policies next) :
    Keeps (Storing roles policies) (saveRules make) := by
  refine ofContents.performedValue (keeps.followed yields fun rules areGood =>
    ofContents.changed ?_ fun _ => !rules.isEmpty) _ _
  refine keeps_changePolicies fun store next result holds changed => ?_
  obtain ⟨_, saved, same⟩ := Except.map_eq_ok_iff.1 changed
  cases same
  exact saves store next rules holds areGood saved

theorem keeps_saveRuleValues [Host] (saves : ∀ store next (items : List Value), policies store →
      items.foldlM (fun found item => PolicyStore.ruleOf item >>= found.saveRule) store = .ok next →
      policies next) (values : Value) :
    Keeps (Storing roles policies) (saveRuleValues values) := by
  have changing (items : List Value) : Keeps (Storing roles policies) (do
      let saved ← changePolicies fun policies => do
        let next ← items.foldlM (fun found item => PolicyStore.ruleOf item >>= found.saveRule) policies
        return (next, items)
      if !items.isEmpty then announce
      return saved) := by
    refine ofContents.changed (keeps_changePolicies fun store next result holds changed => ?_)
      fun _ => !items.isEmpty
    obtain ⟨_, saved, same⟩ := Except.bind_eq_ok_iff.1 changed
    cases same
    exact saves store next items holds saved
  exact ofContents.performedValue ((ofContents.ofDraw _).bind changing) _ _

/-- Properties of the stores that the steps of the role store and the changes of policies keep endure. -/
theorem enduring [Host] (roleSteps : ∀ store next, roles store → store.Step next → roles next)
    (saves : ∀ store next (policy : Policy), policies store → policy.Keyed (Storing roles policies) →
      store.savePolicy policy = .ok next → policies next)
    (deletes : ∀ store next id answer, policies store →
      store.deletePolicy id = .ok (next, answer) → policies next)
    (deletesRules : ∀ store next id answer, policies store →
      store.deleteRule id = .ok (next, answer) → policies next) :
    Enduring (Storing roles policies) where
  toOfStores := ofContents.toOfStores
  addPermissionValues _ := (ofContents.ofDraw _).bind fun _ => keeps_addPermissions roleSteps _
  saveRole := keeps_saveRole roleSteps
  deleteRole := keeps_deleteRole roleSteps
  assign := keeps_assign roleSteps
  revoke := keeps_revoke roleSteps
  savePolicy policy isKeyed := keeps_savePolicy fun store next holds =>
    saves store next policy holds isKeyed
  deletePolicy id := keeps_deletePolicy fun store next => deletes store next id
  deleteRule id := keeps_deleteRule fun store next => deletesRules store next id
  subscribe := ofContents.subscribe keeps_listen
  reload := ofContents.reload

/-- Properties of the stores that every step keeps last. -/
theorem lasting [Host] (roleSteps : ∀ store next, roles store → store.Step next → roles next)
    (policySteps : ∀ store next, policies store → store.Step next → policies next) :
    Lasting (Storing roles policies) where
  toEnduring := enduring roleSteps
    (fun _ _ _ holds _ saved => policySteps _ _ holds (.savePolicy saved))
    (fun _ _ _ _ holds deleted => policySteps _ _ holds (.deletePolicy deleted))
    fun _ _ _ _ holds deleted => policySteps _ _ holds (.deleteRule deleted)
  saveRules make keeps :=
    have yields : Yields (Storing roles policies) make fun _ => True := fun _ _ _ _ => trivial
    keeps_saveRules keeps yields fun _ _ _ holds _ saved => policySteps _ _ holds (.saveRules saved)
  saveRuleValues := keeps_saveRuleValues fun _ _ _ holds saved =>
    policySteps _ _ holds (.saveRuleValues saved)

end System.Storing

end Authorization
