import Authorization.Proofs.Keyed
import Authorization.Proofs.Result
import Authorization.Proofs.Value
import Authorization.Store.Role

/-!
# Sound role stores

A role store is sound when permissions and roles stand under their own slugs and identifiers, and in
tables every role that is held exists. Every operation keeps a store sound, and so does making one.
-/

namespace Authorization.RoleStore

/-- The records of a store stand under their own keys, and roles that are held exist in tables. -/
structure Sound (store : RoleStore) : Prop where
  permissions : store.permissions.Indexed Permission.slug
  roles : store.roles.Indexed Role.id
  kept : ∀ role ∈ store.roles.values, store.backend.Keeps role.id
  consistent : store.backend = .tables → ∀ assignment ∈ store.assignments,
    ∃ role ∈ store.roles.values, assignment.2 = .str role.id

variable {store next : RoleStore}

theorem sound_empty : ({} : RoleStore).Sound :=
  ⟨.nil, .nil, List.forall_mem_nil _, fun isTables => nomatch isTables⟩

/-- Tables are consistent when every role that is held exists. -/
theorem isConsistent_iff (indexed : store.roles.Indexed Role.id) :
    store.isConsistent = true ↔ (store.backend = .tables → ∀ assignment ∈ store.assignments,
      ∃ role ∈ store.roles.values, assignment.2 = .str role.id) := by
  have held (assignment : Value × Value) :
      assignment.2.asStr?.any store.roles.has = true ↔
        ∃ role ∈ store.roles.values, assignment.2 = .str role.id := by
    cases assignment.2 with
    | str id =>
        rw [Value.asStr?, Option.any_some, indexed.has_iff]
        simp only [Value.str.injEq, eq_comm]
    | _ => simp [Value.asStr?]
  rw [isConsistent, Bool.or_eq_true, List.all_eq_true]
  simp only [held]
  cases store.backend <;> simp

/-! ## Permissions -/

theorem kept_slug {backend : Backend} {permission kept : Permission}
    (isKept : RoleStore.kept backend permission = .ok kept) : kept.slug = permission.slug := by
  cases backend with
  | memory =>
      cases isKept
      rfl
  | tables =>
      obtain ⟨_, _, isKept⟩ := Except.bind_eq_ok_iff.1 isKept
      obtain ⟨name, _, isKept⟩ := Except.bind_eq_ok_iff.1 isKept
      obtain ⟨description, _, isKept⟩ := Except.bind_eq_ok_iff.1 isKept
      obtain ⟨_, _, isKept⟩ := Except.bind_eq_ok_iff.1 isKept
      cases isKept
      rfl

theorem Sound.addPermission (sound : store.Sound) {permission : Permission} {answer : Bool}
    (added : store.addPermission permission = .ok (next, answer)) :
    next.Sound ∧ ∃ permissions, next = { store with permissions } := by
  unfold RoleStore.addPermission at added
  split at added
  · cases added
    exact ⟨sound, store.permissions, rfl⟩
  · rename_i isNew
    obtain ⟨kept, isKept, added⟩ := Except.bind_eq_ok_iff.1 added
    cases added
    rw [← kept_slug isKept] at isNew
    exact ⟨⟨sound.permissions.append kept (Bool.eq_false_iff.2 isNew), sound.roles, sound.kept,
      sound.consistent⟩, _, rfl⟩

theorem Sound.addEach (sound : store.Sound) (count : Nat) (values : List Value) :
    (store.addEach count values).1.Sound ∧
      ∃ permissions, (store.addEach count values).1 = { store with permissions } := by
  induction values generalizing store count with
  | nil => exact ⟨sound, store.permissions, rfl⟩
  | cons value rest inductionHypothesis =>
      rw [RoleStore.addEach]
      rcases outcome : (permissionOf value >>= store.addPermission) with error | ⟨next, isNew⟩
      · exact ⟨sound, store.permissions, rfl⟩
      · obtain ⟨permission, _, added⟩ := Except.bind_eq_ok_iff.1 outcome
        obtain ⟨nextSound, permissions, rfl⟩ := sound.addPermission added
        obtain ⟨restSound, others, equality⟩ :=
          inductionHypothesis nextSound (if isNew then count + 1 else count)
        exact ⟨restSound, others, equality⟩

theorem Sound.addPermissions (sound : store.Sound) (values : List Value) :
    (store.addPermissions values).1.Sound ∧
      ∃ permissions, (store.addPermissions values).1 = { store with permissions } := by
  unfold RoleStore.addPermissions
  split
  · exact ⟨sound, store.permissions, rfl⟩
  · exact sound.addEach 0 values

/-! ### What is stored stays -/

section Stays

variable {permission stored : Permission} {slug : String}

theorem addPermission_of_has (isThere : store.permissions.has permission.slug = true) :
    store.addPermission permission = .ok (store, false) :=
  if_pos isThere

/-- A permission with a new slug is put under it as it is kept. -/
theorem addPermission_of_new (isNew : store.permissions.has permission.slug = false) :
    store.addPermission permission = (RoleStore.kept store.backend permission).map fun kept =>
      ({ store with permissions := Keyed.put permission.slug kept store.permissions }, true) := by
  rw [RoleStore.addPermission, if_neg (Bool.eq_false_iff.1 isNew)]
  cases isKept : RoleStore.kept store.backend permission with
  | error error => rfl
  | ok kept =>
      rw [Except.map, Keyed.put_of_absent isNew, ← kept_slug isKept]
      rfl

theorem get?_addPermission {answer : Bool}
    (added : store.addPermission permission = .ok (next, answer))
    (isThere : store.permissions.get? slug = some stored) :
    next.permissions.get? slug = some stored := by
  cases isNew : store.permissions.has permission.slug with
  | true =>
      rw [addPermission_of_has isNew] at added
      cases added
      exact isThere
  | false =>
      rw [addPermission_of_new isNew] at added
      obtain ⟨kept, _, same⟩ := Except.map_eq_ok_iff.1 added
      cases same
      have apart : slug ≠ permission.slug := by
        rintro rfl
        rw [Keyed.has, isThere] at isNew
        cases isNew
      rw [Keyed.get?_put, if_neg apart, isThere]

theorem get?_addEach (count : Nat) (values : List Value)
    (isThere : store.permissions.get? slug = some stored) :
    (store.addEach count values).1.permissions.get? slug = some stored := by
  induction values generalizing store count with
  | nil => exact isThere
  | cons value rest inductionHypothesis =>
      rw [RoleStore.addEach]
      rcases outcome : (permissionOf value >>= store.addPermission) with error | ⟨next, isNew⟩
      · exact isThere
      · obtain ⟨permission, _, added⟩ := Except.bind_eq_ok_iff.1 outcome
        exact inductionHypothesis _ (get?_addPermission added isThere)

/-- What is stored stays when permissions are added. -/
theorem get?_addPermissions (values : List Value)
    (isThere : store.permissions.get? slug = some stored) :
    (store.addPermissions values).1.permissions.get? slug = some stored := by
  unfold RoleStore.addPermissions
  split
  · exact isThere
  · exact get?_addEach 0 values isThere

/-- Permissions that are added take nothing from the catalog. -/
theorem has_addPermissions (values : List Value) (isThere : store.permissions.has slug = true) :
    (store.addPermissions values).1.permissions.has slug = true := by
  obtain ⟨stored, found⟩ := Option.isSome_iff_exists.1 isThere
  rw [Keyed.has, get?_addPermissions values found]
  rfl

end Stays

/-! ## Roles -/

theorem hasClash_iff {role : Role} :
    store.hasClash role = true ↔ ∃ other ∈ store.roles.values,
      other.id ≠ role.id ∧ other.slug = role.slug ∧ other.organization = role.organization := by
  rw [hasClash, List.any_eq_true]
  simp only [Bool.and_eq_true, bne_iff_ne, beq_iff_eq, and_assoc]

/-- The store changes at most the contents of a role. -/
theorem keptRole_eq {role kept : Role} (isKept : store.keptRole role = .ok kept) :
    kept.id = role.id ∧ kept.slug = role.slug ∧ kept.organization = role.organization := by
  unfold RoleStore.keptRole at isKept
  split at isKept
  · cases isKept
    exact ⟨rfl, rfl, rfl⟩
  · obtain ⟨description, _, isKept⟩ := Except.bind_eq_ok_iff.1 isKept
    obtain ⟨_, _, isKept⟩ := Except.bind_eq_ok_iff.1 isKept
    obtain ⟨_, _, isKept⟩ := Except.bind_eq_ok_iff.1 isKept
    obtain ⟨isDefault, _, isKept⟩ := Except.bind_eq_ok_iff.1 isKept
    obtain ⟨_, _, isKept⟩ := Except.bind_eq_ok_iff.1 isKept
    cases isKept
    exact ⟨rfl, rfl, rfl⟩

theorem roleIdentifier_eq_ok_iff {given id : String} :
    store.roleIdentifier given = .ok id ↔ store.backend.identifier (.str given) = .ok (some id) := by
  rw [roleIdentifier]
  rcases store.backend.identifier (.str given) with _ | _ | found
  · rw [Except.error_bind]
    exact ⟨nofun, nofun⟩
  · rw [Except.ok_bind]
    exact ⟨nofun, nofun⟩
  · rw [Except.ok_bind, Except.ok.injEq, Option.some.injEq]
    exact ⟨Except.ok.inj, congrArg Except.ok⟩

/-- What saving a role does: a role with the slug and the organization of the given one stands under its
identifier, where no other has its slug. -/
theorem saveRole_eq_ok {role : Role} (saved : store.saveRole role = .ok next) :
    ∃ kept : Role, store.backend.identifier (.str role.id) = .ok (some kept.id) ∧
      store.keptRole { role with id := kept.id } = .ok kept ∧
      kept.slug = role.slug ∧ kept.organization = role.organization ∧
      store.hasClash kept = false ∧
      next = { store with roles := Keyed.put kept.id kept store.roles } := by
  obtain ⟨id, identified, saved⟩ := Except.bind_eq_ok_iff.1 saved
  dsimp only at saved
  split at saved
  · cases saved
  · rename_i noClash
    obtain ⟨kept, isKept, saved⟩ := Except.bind_eq_ok_iff.1 saved
    cases saved
    obtain ⟨sameId, sameSlug, sameOrganization⟩ := keptRole_eq isKept
    dsimp only at sameId sameSlug sameOrganization
    refine ⟨kept, ?_, ?_, sameSlug, sameOrganization, ?_, ?_⟩
    · rw [sameId]
      exact roleIdentifier_eq_ok_iff.1 identified
    · rw [sameId]
      exact isKept
    · rw [Bool.eq_false_iff]
      intro clash
      refine noClash ?_
      rw [hasClash_iff] at clash ⊢
      rwa [sameId, sameSlug, sameOrganization] at clash
    · rw [sameId]

theorem Sound.saveRole (sound : store.Sound) {role : Role}
    (saved : store.saveRole role = .ok next) : next.Sound := by
  obtain ⟨kept, identified, _, _, _, _, rfl⟩ := saveRole_eq_ok saved
  refine ⟨sound.permissions, sound.roles.put kept, ?_, ?_⟩
  · intro other member
    rcases sound.roles.mem_values_put.1 member with rfl | ⟨old, _⟩
    · exact Backend.keeps_of_identifier identified
    · exact sound.kept other old
  · intro isTables assignment member
    obtain ⟨holder, holderMember, isHeld⟩ := sound.consistent isTables assignment member
    by_cases same : holder.id = kept.id
    · exact ⟨kept, sound.roles.mem_values_put.2 (.inl rfl), same ▸ isHeld⟩
    · exact ⟨holder, sound.roles.mem_values_put.2 (.inr ⟨holderMember, same⟩), isHeld⟩

/-- What deleting a role does: nothing where there is none, and else the role goes, which nobody holds in
tables. -/
theorem deleteRole_eq_ok {id : Value} {answer : Bool}
    (deleted : store.deleteRole id = .ok (next, answer)) :
    (∃ known, store.backend.identifier id = .ok known ∧ known.bind store.roles.get? = none ∧
        next = store ∧ answer = false) ∨
      ∃ known role, store.backend.identifier id = .ok (some known) ∧
        store.roles.get? known = some role ∧
        (store.backend = .tables → store.holders (.str role.id) = 0) ∧
        next = { store with roles := store.roles.erase role.id } ∧ answer = true := by
  obtain ⟨known, identified, deleted⟩ := Except.bind_eq_ok_iff.1 deleted
  rcases found : known.bind store.roles.get? with _ | role
  · rw [found] at deleted
    cases deleted
    exact .inl ⟨known, identified, found, rfl, rfl⟩
  · rw [found] at deleted
    dsimp only at deleted
    obtain ⟨id, rfl, isStored⟩ := Option.bind_eq_some_iff.1 found
    split at deleted
    · cases deleted
    · rename_i notHeld
      cases deleted
      refine .inr ⟨id, role, identified, isStored, fun isTables => ?_, rfl, rfl⟩
      exact Nat.eq_zero_of_not_pos fun isHeld => notHeld ⟨isTables, isHeld⟩

theorem holders_eq_zero_iff {id : String} :
    store.holders (.str id) = 0 ↔ ∀ assignment ∈ store.assignments, assignment.2 ≠ .str id := by
  rw [holders, List.length_eq_zero_iff, List.filter_eq_nil_iff]
  simp only [Value.equal_str_iff, ne_eq]

theorem Sound.deleteRole (sound : store.Sound) {id : Value} {answer : Bool}
    (deleted : store.deleteRole id = .ok (next, answer)) : next.Sound := by
  rcases deleteRole_eq_ok deleted with ⟨_, _, _, rfl, _⟩ | ⟨known, role, _, _, noHolders, rfl, _⟩
  · exact sound
  · refine ⟨sound.permissions, sound.roles.erase role.id, fun other member =>
      sound.kept other (sound.roles.mem_values_erase.1 member).1,
      fun isTables assignment member => ?_⟩
    obtain ⟨holder, holderMember, isHeld⟩ := sound.consistent isTables assignment member
    refine ⟨holder, sound.roles.mem_values_erase.2 ⟨holderMember, fun same => ?_⟩, isHeld⟩
    exact holders_eq_zero_iff.1 (noHolders isTables) assignment member (same ▸ isHeld)

/-! ## Assignments -/

/-- What letting a user hold a role does: at most one more assignment. -/
theorem assign_eq_ok {user id : Value} {answer : Bool}
    (assigned : store.assign user id = .ok (next, answer)) :
    (next = store ∧ answer = false) ∨
      ∃ role user', store.assignedRole id = .ok (some role) ∧ store.userOf user = .ok user' ∧
        store.assignments.any (isHeldBy user' role) = false ∧
        next = { store with assignments := store.assignments ++ [(user', role)] } ∧
        answer = true := by
  obtain ⟨role, isRole, assigned⟩ := Except.bind_eq_ok_iff.1 assigned
  cases role with
  | none =>
      cases assigned
      exact .inl ⟨rfl, rfl⟩
  | some role =>
      obtain ⟨kept, isUser, assigned⟩ := Except.bind_eq_ok_iff.1 assigned
      split at assigned
      · cases assigned
        exact .inl ⟨rfl, rfl⟩
      · rename_i notHeld
        refine .inr ⟨role, kept, isRole, isUser, Bool.eq_false_iff.2 notHeld, ?_⟩
        split at assigned
        · obtain ⟨_, _, assigned⟩ := Except.bind_eq_ok_iff.1 assigned
          cases assigned
          exact ⟨rfl, rfl⟩
        · cases assigned
          exact ⟨rfl, rfl⟩

theorem Sound.assign (sound : store.Sound) {user id : Value} {answer : Bool}
    (assigned : store.assign user id = .ok (next, answer)) (consistent : next.isConsistent = true) :
    next.Sound := by
  rcases assign_eq_ok assigned with ⟨rfl, _⟩ | ⟨role, kept, _, _, _, rfl, _⟩
  · exact sound
  · have roles : ({ store with assignments := store.assignments ++ [(kept, role)] } :
        RoleStore).roles.Indexed Role.id := sound.roles
    exact ⟨sound.permissions, sound.roles, sound.kept, (isConsistent_iff roles).1 consistent⟩

/-- What taking a role from a user does: the assignments of the role to the user go. -/
theorem revoke_eq_ok {user id : Value} {answer : Bool}
    (revoked : store.revoke user id = .ok (next, answer)) :
    (next = store ∧ answer = false) ∨
      ∃ role user', store.assignedRole id = .ok (some role) ∧ store.userOf user = .ok user' ∧
        store.assignments.any (isHeldBy user' role) = true ∧
        next = { store with
          assignments := store.assignments.filter fun found => !isHeldBy user' role found } ∧
        answer = true := by
  unfold RoleStore.revoke at revoked
  split at revoked
  · cases revoked
    exact .inl ⟨rfl, rfl⟩
  obtain ⟨kept, isUser, revoked⟩ := Except.bind_eq_ok_iff.1 revoked
  split at revoked
  · cases revoked
    exact .inl ⟨rfl, rfl⟩
  · obtain ⟨role, isRole, revoked⟩ := Except.bind_eq_ok_iff.1 revoked
    cases role with
    | none =>
        cases revoked
        exact .inl ⟨rfl, rfl⟩
    | some role =>
        dsimp only at revoked
        split at revoked
        · rename_i isHeld
          cases revoked
          exact .inr ⟨role, kept, isRole, isUser, isHeld, rfl, rfl⟩
        · cases revoked
          exact .inl ⟨rfl, rfl⟩

theorem Sound.revoke (sound : store.Sound) {user id : Value} {answer : Bool}
    (revoked : store.revoke user id = .ok (next, answer)) : next.Sound := by
  rcases revoke_eq_ok revoked with ⟨rfl, _⟩ | ⟨role, kept, _, _, _, rfl, _⟩
  · exact sound
  · exact ⟨sound.permissions, sound.roles, sound.kept, fun isTables assignment member =>
      sound.consistent isTables assignment (List.mem_of_mem_filter member)⟩

/-! ## Making a store -/

theorem sound_of_addRoles {values : List Value} (sound : store.Sound)
    (isMemory : store.backend = .memory) (made : values.foldlM addRole store = .ok next) :
    next.Sound ∧ next.backend = .memory := by
  induction values generalizing store with
  | nil =>
      cases made
      exact ⟨sound, isMemory⟩
  | cons value rest inductionHypothesis =>
      rw [List.foldlM_cons] at made
      obtain ⟨middle, added, made⟩ := Except.bind_eq_ok_iff.1 made
      obtain ⟨role, _, added⟩ := Except.bind_eq_ok_iff.1 added
      split at added
      · cases added
      · rename_i isNew
        cases added
        have isFree : store.roles.has role.id = false := Bool.eq_false_iff.2 isNew
        have added : ({ store with roles := store.roles ++ [(role.id, role)] } : RoleStore).Sound := by
          refine ⟨sound.permissions, sound.roles.append role isFree, ?_, ?_⟩
          · intro other _
            rw [isMemory]
            exact Backend.keeps_of_memory other.id
          · intro isTables
            rw [isMemory] at isTables
            cases isTables
        exact inductionHypothesis added isMemory made

theorem indexed_of_puts (permissions : List Permission) {known : Keyed String Permission}
    (indexed : known.Indexed Permission.slug) :
    (permissions.foldl (fun found permission => Keyed.put permission.slug permission found)
      known).Indexed Permission.slug := by
  induction permissions generalizing known with
  | nil => exact indexed
  | cons permission rest inductionHypothesis => exact inductionHypothesis (indexed.put permission)

/-- A store that is made of given records is sound. -/
theorem sound_of_ofArguments {arguments : Arguments}
    (made : RoleStore.ofArguments arguments = .ok store) : store.Sound := by
  obtain ⟨bindings, _, made⟩ := Except.bind_eq_ok_iff.1 made
  obtain ⟨items, _, made⟩ := Except.bind_eq_ok_iff.1 made
  obtain ⟨permissions, _, made⟩ := Except.bind_eq_ok_iff.1 made
  obtain ⟨roles, _, made⟩ := Except.bind_eq_ok_iff.1 made
  have start (catalog : Keyed String Permission) (indexed : catalog.Indexed Permission.slug) :
      ({ permissions := catalog } : RoleStore).Sound :=
    ⟨indexed, .nil, List.forall_mem_nil _, fun isTables => nomatch isTables⟩
  exact (sound_of_addRoles (start _ (indexed_of_puts permissions .nil)) rfl made).1

/-! ## Steps -/

/-- What one operation makes of a role store. An assignment leaves no role that is held and missing. -/
inductive Step (store : RoleStore) : RoleStore → Prop
  | addPermissions (values : List Value) : Step store (store.addPermissions values).1
  | saveRole {next : RoleStore} {role : Role} (saved : store.saveRole role = .ok next) :
      Step store next
  | deleteRole {next : RoleStore} {id : Value} {answer : Bool}
      (deleted : store.deleteRole id = .ok (next, answer)) : Step store next
  | assign {next : RoleStore} {user id : Value} {answer : Bool}
      (assigned : store.assign user id = .ok (next, answer))
      (consistent : next.isConsistent = true) : Step store next
  | revoke {next : RoleStore} {user id : Value} {answer : Bool}
      (revoked : store.revoke user id = .ok (next, answer)) : Step store next

theorem Sound.step (sound : store.Sound)
    (step : store.Step next) : next.Sound := by
  cases step with
  | addPermissions values => exact (sound.addPermissions values).1
  | saveRole saved => exact sound.saveRole saved
  | deleteRole deleted => exact sound.deleteRole deleted
  | assign assigned consistent => exact sound.assign assigned consistent
  | revoke revoked => exact sound.revoke revoked

end Authorization.RoleStore
