import Authorization.Proofs.Administration.RoleEffects
import Authorization.Proofs.Decision.Gate
import Authorization.Proofs.Tenancy.Integrity

/-!
# What held roles grant

With roles in memory, the gate lists the roles that let a principal pass: the stored ones of its
organization, among those that it holds, that grant the action, each once and in order. In which order a
principal holds its roles, and how often each, makes no difference, and further roles and further
permissions take nothing away.

All this is so where no stored role is kept from being a member of a set.
-/

namespace Authorization

/-! ## Roles under texts -/

/-- The place of a role among the roles that are listed. -/
def Role.place (role : Role) : List (List Nat) :=
  role.sortKey.map codesOf

namespace RoleStore

variable {store : RoleStore} {ids others : List String}

/-- No stored role is kept from being a member of a set. -/
def Hashable (store : RoleStore) : Prop :=
  ∀ role ∈ store.roles.values, obstacle? role = none

/-- The stored roles under some texts, in order. -/
def named (store : RoleStore) (ids : List String) : List Role :=
  sortedBy Role.sortKey (store.roles.values.filter fun role => ids.contains role.id)

theorem mem_named {role : Role} :
    role ∈ store.named ids ↔ role ∈ store.roles.values ∧ role.id ∈ ids := by
  rw [named, mem_sortedBy, List.mem_filter, List.contains_iff_mem]

/-- Which roles are under some texts does not depend on their order, nor on how often each is there. -/
theorem named_eq_of_same (same : ∀ id, id ∈ others ↔ id ∈ ids) :
    store.named others = store.named ids := by
  have sameFilter : (fun role : Role => others.contains role.id) = fun role => ids.contains role.id := by
    funext role
    rw [Bool.eq_iff_iff, List.contains_iff_mem, List.contains_iff_mem, same]
  rw [named, named, sameFilter]

/-- The roles under some texts are strictly in order. -/
theorem pairwise_named (sound : store.Sound) :
    (store.named ids).Pairwise fun left right => left.place < right.place := by
  have ordered : (store.named ids).Pairwise fun left right => left.place ≤ right.place :=
    pairwise_mergeSort_of_key
      (fun left right : Role => (keysInOrder_iff left.sortKey right.sortKey).trans not_lt) _
  have distinct : (store.named ids).Nodup :=
    (List.mergeSort_perm _ _).nodup_iff.2 (sound.roles.nodup_values.filter _)
  refine (ordered.and distinct).imp_of_mem fun {left right} leftMember rightMember apart => ?_
  refine lt_of_le_of_ne apart.1 fun samePlace => apart.2 ?_
  have sameKey : left.sortKey = right.sortKey :=
    List.map_injective_iff.2 codesOf_injective samePlace
  have sameId : left.id = right.id := by
    have sameTexts := sameKey
    simp only [Role.sortKey, List.cons.injEq] at sameTexts
    exact sameTexts.2.2.1
  exact sound.roles.eq_of_key_eq (mem_named.1 leftMember).1 (mem_named.1 rightMember).1 sameId

/-- In memory the roles under texts are found. -/
theorem rolesOf_named (inMemory : store.backend = .memory) (hashable : store.Hashable)
    (ids : List String) : store.rolesOf (ids.map .str) = .ok (store.named ids) := by
  have known : (ids.map Value.str).mapM store.backend.identifier = .ok (ids.map some) := by
    rw [Except.mapM_eq_ok_iff, List.forall₂_map_left_iff, List.forall₂_map_right_iff,
      List.forall₂_same]
    intro id _
    rw [inMemory, Backend.identifier_memory_iff]
  have sameFilter : (fun role : Role => (ids.map some).contains (some role.id)) =
      fun role => ids.contains role.id := by
    funext role
    rw [Bool.eq_iff_iff, List.contains_iff_mem, List.contains_iff_mem, List.mem_map_of_injective
      (Option.some_injective String)]
  have noObstacle : (store.roles.values.filter fun role =>
      ids.contains role.id).findSome? obstacle? = none :=
    List.findSome?_eq_none_iff.2 fun role member => hashable role (List.mem_of_mem_filter member)
  unfold rolesOf
  rw [known, Except.ok_bind]
  dsimp only
  rw [sameFilter, inMemory, noObstacle]
  rfl

/-- A store with other permissions for a role. -/
def withPermissions (store : RoleStore) (role : Role) (permissions : List String) : RoleStore :=
  { store with roles := Keyed.put role.id { role with permissions } store.roles }

theorem mem_withPermissions (sound : store.Sound) {role other : Role} {permissions : List String} :
    other ∈ (store.withPermissions role permissions).roles.values ↔
      other = { role with permissions } ∨ other ∈ store.roles.values ∧ other.id ≠ role.id := by
  have isOwn : ({ role with permissions } : Role).id = role.id := rfl
  rw [withPermissions, ← isOwn]
  exact sound.roles.mem_values_put

/-- Other permissions are no obstacle. -/
theorem Hashable.withPermissions (hashable : store.Hashable) (sound : store.Sound) {role : Role}
    (isStored : role ∈ store.roles.values) (permissions : List String) :
    (store.withPermissions role permissions).Hashable := by
  intro other member
  rcases (mem_withPermissions sound).1 member with rfl | ⟨isStored, _⟩
  · exact hashable role isStored
  · exact hashable other isStored

theorem Sound.withPermissions (sound : store.Sound) (inMemory : store.backend = .memory)
    (role : Role) (permissions : List String) :
    (store.withPermissions role permissions).Sound where
  permissions := sound.permissions
  roles := sound.roles.put { role with permissions }
  kept other _ := by
    have keeps := Backend.keeps_of_memory other.id
    rwa [← inMemory] at keeps
  consistent isTables := nomatch inMemory.symm.trans isTables

end RoleStore

/-! ## Granting roles -/

/-- A stored role is among those that are held, belongs to an organization, and grants an action. -/
structure RoleStore.Grants (store : RoleStore) (organization : Option String) (ids : List String)
    (resource action : String) (role : Role) : Prop where
  stored : role ∈ store.roles.values
  held : role.id ∈ ids
  own : organization = some role.organization
  grants : Key.join resource action ∈ role.permissions ∨ Key.join resource "manage" ∈ role.permissions

namespace RoleStore.Grants

variable {store : RoleStore} {organization : Option String} {ids others : List String}
  {resource action : String} {role : Role}

/-- Further roles take nothing away. -/
theorem of_subset (granted : store.Grants organization ids resource action role)
    (held : ∀ id ∈ ids, id ∈ others) : store.Grants organization others resource action role :=
  { granted with held := held role.id granted.held }

/-- Further permissions of a stored role take nothing away. -/
theorem exists_withPermissions (granted : store.Grants organization ids resource action role)
    (sound : store.Sound) {known : Role} (isKnown : known ∈ store.roles.values)
    {permissions : List String} (grows : ∀ slug ∈ known.permissions, slug ∈ permissions) : ∃ role,
    (store.withPermissions known permissions).Grants organization ids resource action role := by
  by_cases isChanged : role.id = known.id
  · obtain rfl := sound.roles.eq_of_key_eq granted.stored isKnown isChanged
    exact ⟨{ role with permissions }, (mem_withPermissions sound).2 (.inl rfl), granted.held,
      granted.own, granted.grants.imp (grows _) (grows _)⟩
  · exact ⟨role, (mem_withPermissions sound).2 (.inr ⟨granted.stored, isChanged⟩), granted.held,
      granted.own, granted.grants⟩

end RoleStore.Grants

/-! ## The report of the gate -/

namespace Principal

variable {principal : Principal} {ids others : List String} {resource action : String}
  {store : RoleStore} {role : Role}

/-- The stored roles that let a principal pass which holds some roles, in order. -/
def granting (principal : Principal) (store : RoleStore) (ids : List String)
    (resource action : String) : List Role :=
  (store.named ids).filter (principal.accepts resource action)

theorem mem_granting : role ∈ principal.granting store ids resource action ↔
    store.Grants principal.organization ids resource action role := by
  rw [granting, List.mem_filter, RoleStore.mem_named]
  simp only [accepts, Role.grants, Bool.and_eq_true, decide_eq_true_eq, Bool.or_eq_true,
    List.contains_iff_mem]
  constructor
  · rintro ⟨⟨stored, held⟩, own, grants⟩
    exact ⟨stored, held, own, grants⟩
  · rintro ⟨stored, held, own, grants⟩
    exact ⟨⟨stored, held⟩, own, grants⟩

/-- What the gate says of a principal, given the roles that let it pass. -/
def reportOf (principal : Principal) (settings : Settings) (resource action : String)
    (granting : List Role) : GateReport :=
  if principal.role ∈ settings.bypassRoles then
    { reason := .bypass, message := "Role '" ++ principal.role ++ "' bypasses RBAC." }
  else if principal.roles = [] then
    { reason := .noRoles, message := "Principal '" ++ principal.id ++ "' holds no roles." }
  else if granting = [] then
    { reason := .missing
      message := "Principal '" ++ principal.id ++ "' is missing permission '" ++
        Key.join resource action ++ "'." }
  else { reason := .granted, grantedBy := granting.map Role.id }

/-- A principal without roles is let pass by none. -/
theorem granting_eq_nil (areTexts : principal.roles = ids.map .str) (none : principal.roles = []) :
    principal.granting store ids resource action = [] := by
  rw [areTexts, List.map_eq_nil_iff] at none
  refine List.eq_nil_iff_forall_not_mem.2 fun role member => ?_
  have held := (mem_granting.1 member).held
  rw [none] at held
  cases held

theorem allowed_reportOf_iff {settings : Settings} (areTexts : principal.roles = ids.map .str) :
    (principal.reportOf settings resource action
        (principal.granting store ids resource action)).allowed = true ↔
      principal.role ∈ settings.bypassRoles ∨
        ∃ role, store.Grants principal.organization ids resource action role := by
  simp only [← mem_granting]
  unfold reportOf
  split
  · rename_i bypasses
    exact iff_of_true rfl (.inl bypasses)
  rename_i notBypassing
  rw [or_iff_right notBypassing]
  split
  · rename_i none
    rw [granting_eq_nil areTexts none]
    exact iff_of_false nofun nofun
  split
  · rename_i none
    rw [none]
    exact iff_of_false nofun nofun
  · rename_i some
    exact iff_of_true rfl (List.exists_mem_of_ne_nil _ some)

theorem grantedBy_reportOf {settings : Settings} (areTexts : principal.roles = ids.map .str)
    (notBypassing : principal.role ∉ settings.bypassRoles) :
    (principal.reportOf settings resource action
        (principal.granting store ids resource action)).grantedBy =
      (principal.granting store ids resource action).map Role.id := by
  unfold reportOf
  rw [if_neg notBypassing]
  split
  · rename_i none
    rw [granting_eq_nil areTexts none]
    rfl
  split
  · rename_i none
    rw [none]
    rfl
  · rfl

end Principal

namespace Service

theorem exec_evaluatePermissions_memory {system : System} (inMemory : system.RolesInMemory)
    (hashable : system.roles.Hashable) {principal : Principal} {ids : List String}
    (areTexts : principal.roles = ids.map .str) (resource action : String) :
    exec (evaluatePermissions principal.toValue (.str resource) (.str action)) system =
      (.ok (principal.reportOf system.settings resource action
        (principal.granting system.roles ids resource action)), system) := by
  unfold evaluatePermissions Principal.reportOf
  rw [exec_bind_of_ok (exec_readAttribute system principal.attribute_role)]
  simp only [Value.hashable_str, Bool.not_true, Bool.false_eq_true, if_false, Value.asStr?,
    Option.any_some, List.contains_iff_mem]
  rw [exec_get_bind]
  by_cases bypasses : principal.role ∈ system.settings.bypassRoles
  · rw [if_pos bypasses, if_pos bypasses]
    rfl
  rw [if_neg bypasses, if_neg bypasses,
    exec_bind_of_ok (exec_readAttribute system principal.attribute_roles)]
  by_cases none : principal.roles = []
  · rw [if_pos none, none]
    rfl
  have truthy : (Value.tuple principal.roles).truthy = true := by
    simpa [Value.truthy, Value.length?] using none
  have asked : exec (rolesOf (.tuple principal.roles)) system =
      (.ok (system.roles.named ids), system) := by
    have items : exec (ofDraw (Value.tuple principal.roles).items) system =
        (.ok principal.roles, system) := rfl
    unfold rolesOf
    rw [exec_performed inMemory.unplanned, exec_bind_of_ok items, exec_get_bind,
      exec_orFail, areTexts, RoleStore.rolesOf_named inMemory.backend hashable]
  have filtered : (system.roles.named ids).filterM
      (letsPass principal.toValue (.str resource) (.str action)) =
        (pure (principal.granting system.roles ids resource action) : Service (List Role)) := by
    rw [funext (letsPass_eq principal resource action), filterM_pure]
    rfl
  simp only [truthy, Bool.not_true, Bool.false_eq_true, if_false]
  rw [if_neg none, exec_bind_of_ok asked, filtered, pure_bind]
  cases principal.granting system.roles ids resource action <;> rfl

end Service

namespace System

open Service

/-- What the gate reports of a principal that holds some roles: it is the same however the roles are held,
it lists the roles that let the principal pass, and neither further roles nor further permissions turn it
into a refusal. -/
structure Reports (system : System) (principal : Principal) (ids : List String)
    (resource action : String) (report : GateReport) : Prop where
  answered : exec (evaluatePermissions principal.toValue (.str resource) (.str action)) system =
    (.ok report, system)
  reordered (others : List String) : (∀ id, id ∈ others ↔ id ∈ ids) →
    exec (evaluatePermissions { principal with roles := others.map .str }.toValue (.str resource)
      (.str action)) system = (.ok report, system)
  listed : principal.role ∉ system.settings.bypassRoles → ∃ granting : List Role,
    report.grantedBy = granting.map Role.id ∧ report.grantedBy.Nodup ∧
    (granting.Pairwise fun left right => left.place < right.place) ∧
    ∀ role, role ∈ granting ↔ system.roles.Grants principal.organization ids resource action role
  allowed_iff : report.allowed = true ↔ principal.role ∈ system.settings.bypassRoles ∨
    ∃ role, system.roles.Grants principal.organization ids resource action role
  withRoles (others : List String) : report.allowed = true → (∀ id ∈ ids, id ∈ others) →
    ∃ further, exec (evaluatePermissions { principal with roles := others.map .str }.toValue
      (.str resource) (.str action)) system = (.ok further, system) ∧ further.allowed = true
  withPermissions (role : Role) (permissions : List String) : report.allowed = true →
    role ∈ system.roles.roles.values → (∀ slug ∈ role.permissions, slug ∈ permissions) →
    ∃ further after, exec (evaluatePermissions principal.toValue (.str resource) (.str action))
      { system with roles := system.roles.withPermissions role permissions } =
        (.ok further, after) ∧ further.allowed = true

/-- With roles in memory, none of which is kept from being a member of a set, the gate reports of every
principal whose roles are texts. -/
theorem roles_are_reported {system : System} (inMemory : system.RolesInMemory)
    (hashable : system.roles.Hashable) {principal : Principal} {ids : List String}
    (areTexts : principal.roles = ids.map .str) (resource action : String) :
    ∃ report, system.Reports principal ids resource action report := by
  have answered := exec_evaluatePermissions_memory inMemory hashable areTexts resource action
  have allowed := @Principal.allowed_reportOf_iff principal ids resource action system.roles
    system.settings areTexts
  refine ⟨_, answered, fun others same => ?reordered, fun notBypassing => ?listed, allowed,
    fun others isAllowed held => ?withRoles,
    fun role permissions isAllowed isStored grows => ?withPermissions⟩
  case reordered =>
    rw [@exec_evaluatePermissions_memory system inMemory hashable
      { principal with roles := others.map .str } others rfl]
    have sameNamed := system.roles.named_eq_of_same same
    have sameNone : (others.map Value.str = []) = (principal.roles = []) := by
      rw [areTexts, List.map_eq_nil_iff, List.map_eq_nil_iff]
      simp only [List.eq_nil_iff_forall_not_mem, same]
    unfold Principal.reportOf Principal.granting
    dsimp only
    simp only [sameNone, sameNamed]
    rfl
  case listed =>
    have lists := @Principal.grantedBy_reportOf principal ids resource action system.roles
      system.settings areTexts notBypassing
    have ordered : (principal.granting system.roles ids resource action).Pairwise
        fun left right => left.place < right.place :=
      (RoleStore.pairwise_named inMemory.sound).filter _
    refine ⟨_, lists, ?_, ordered, fun role => Principal.mem_granting⟩
    rw [lists]
    refine List.Nodup.map_on (fun left leftMember right rightMember same => ?_) ?_
    · exact inMemory.sound.roles.eq_of_key_eq (Principal.mem_granting.1 leftMember).stored
        (Principal.mem_granting.1 rightMember).stored same
    · exact ordered.imp fun less same => less.ne (congrArg Role.place same)
  case withRoles =>
    refine ⟨_, @exec_evaluatePermissions_memory system inMemory hashable
      { principal with roles := others.map .str } others rfl resource action, ?_⟩
    rw [Principal.allowed_reportOf_iff rfl]
    refine (allowed.1 isAllowed).imp_right fun ⟨role, granted⟩ => ?_
    exact ⟨role, granted.of_subset held⟩
  case withPermissions =>
    have sound := inMemory.sound
    have grown : System.RolesInMemory
        { system with roles := system.roles.withPermissions role permissions } :=
      ⟨inMemory.unplanned, sound.withPermissions inMemory.backend role permissions, inMemory.backend⟩
    refine ⟨_, _, exec_evaluatePermissions_memory grown
      (hashable.withPermissions sound isStored permissions) areTexts resource action, ?_⟩
    rw [Principal.allowed_reportOf_iff areTexts]
    refine (allowed.1 isAllowed).imp_right fun ⟨_, granted⟩ => ?_
    exact granted.exists_withPermissions sound isStored grows

theorem rolesInMemory_salesSystem {roles : List Role} (canEmploy : CanEmploy roles)
    (registry : Registry) (counted : Nat) (journal : Journal) :
    (salesSystem roles registry counted journal).RolesInMemory :=
  ⟨rfl, RoleStore.sound_of_ofArguments canEmploy.isMade, rfl⟩

open scoped Host in
/-- A user of one organization who holds a role of it, twice, and one of another passes. -/
theorem roles_are_reported_acme : ∃ start report,
    assemble (salesParts [salesRole "r1" "acme" (.bool false), salesRole "r2" "globex" (.bool false)]) =
      .ok start ∧
    start.RolesInMemory ∧ start.roles.Hashable ∧
    start.Reports (salesQuestion "acme" [.str "r2", .str "r1", .str "r1"]).principal
      ["r2", "r1", "r1"] "customer" "update" report ∧ report.allowed = true := by
  have canEmploy : CanEmploy
      [salesRole "r1" "acme" (.bool false), salesRole "r2" "globex" (.bool false)] := ⟨rfl, by decide⟩
  obtain ⟨registry, counted, journal, assembled⟩ := exists_salesSystem canEmploy
  have inMemory := rolesInMemory_salesSystem canEmploy registry counted journal
  have hashable : (salesSystem [salesRole "r1" "acme" (.bool false),
      salesRole "r2" "globex" (.bool false)] registry counted journal).roles.Hashable := by
    intro role member
    rw [values_salesSystem] at member
    revert role
    decide
  obtain ⟨report, reports⟩ := @roles_are_reported _ inMemory hashable
    (salesQuestion "acme" [.str "r2", .str "r1", .str "r1"]).principal ["r2", "r1", "r1"] rfl
    "customer" "update"
  refine ⟨_, report, assembled, inMemory, hashable, reports, reports.allowed_iff.2 (.inr ?_)⟩
  exact ⟨salesRole "r1" "acme" (.bool false), .head _, .tail _ (.head _), rfl, .inl (.head _)⟩

open scoped Host in
/-- The gate reports nothing of a user who holds a role that cannot be a member of a set, although the role
grants what is asked for. -/
theorem held_list_is_not_reported : ∃ start,
    assemble (salesParts [salesRole "r1" "acme" (.list [])]) = .ok start ∧ start.RolesInMemory ∧
    "user" ∉ start.settings.bypassRoles ∧
    start.roles.Grants (some "acme") ["r1"] "customer" "update" (salesRole "r1" "acme" (.list [])) ∧
    ∀ report after, exec (evaluatePermissions (salesQuestion "acme" [.str "r1"]).principal.toValue
      (.str "customer") (.str "update")) start ≠ (.ok report, after) := by
  have canEmploy : CanEmploy [salesRole "r1" "acme" (.list [])] := ⟨rfl, by decide⟩
  obtain ⟨registry, counted, journal, assembled⟩ := exists_salesSystem canEmploy
  have inMemory := rolesInMemory_salesSystem canEmploy registry counted journal
  have notBypassing : "user" ∉ ({} : Settings).bypassRoles := by decide
  refine ⟨_, assembled, inMemory, notBypassing, ⟨.head _, .head _, rfl, .inl (.head _)⟩,
    fun report after reported => ?_⟩
  obtain ⟨plans, given, evaluated, isGate⟩ := exec_evaluatePermissions
    (rolesNotForged_of_unplanned inMemory.unplanned) (salesQuestion "acme" [.str "r1"]).principal "customer" "update"
  rw [evaluated, Prod.mk.injEq] at reported
  rw [reported.1] at isGate
  cases isGate

end System

end Authorization
