import Authorization.Proofs.Store.Order
import Authorization.Proofs.Store.Role
import Authorization.Proofs.Tenancy.Finding

/-!
# Role stores and organizations

Two role stores agree on some organizations when they hold the same catalog, the same roles of these
organizations and the same assignments to those roles. An operation on roles of some organizations comes
to the same in stores that agree on them, leaves such stores in agreement, and changes nothing that
belongs to the others.
-/

namespace Authorization

theorem Value.hashable_ofOption (text : Option String) : (Value.ofOption text).hashable = true := by
  cases text <;> rfl

namespace RoleStore

/-- The assignments to the role of an identifier. -/
def assignmentsTo (store : RoleStore) (id : String) : List (Value × Value) :=
  store.assignments.filter fun assignment => assignment.2.equal (.str id)

/-- Two stores keep their records in one way, and hold the same catalog and the same roles of some
organizations, which the same users hold. -/
structure AgreesOn (within : String → Prop) (store other : RoleStore) : Prop where
  backend : store.backend = other.backend
  permissions : ∀ permission : Permission,
    permission ∈ store.permissions.values ↔ permission ∈ other.permissions.values
  roles : ∀ role : Role, within role.organization →
    (role ∈ store.roles.values ↔ role ∈ other.roles.values)
  assignments : ∀ role ∈ store.roles.values, within role.organization →
    (store.assignmentsTo role.id).Perm (other.assignmentsTo role.id)

/-- No role of another organization has an identifier. -/
def OwnsRole (within : String → Prop) (store : RoleStore) (id : String) : Prop :=
  ∀ role ∈ store.roles.values, role.id = id → within role.organization

/-- A role has an identifier, or somebody holds a role under it. -/
def Uses (store : RoleStore) (id : String) : Prop :=
  (∃ role ∈ store.roles.values, role.id = id) ∨
    ∃ assignment ∈ store.assignments, assignment.2 = .str id

/-- Every role of some organizations and identifiers may be a member of a set, where roles are kept as
they are. -/
def Plain (among : String → String → Prop) (store : RoleStore) : Prop :=
  store.backend = .memory → ∀ role ∈ store.roles.values, among role.organization role.id →
    obstacle? role = none

/-- A role may be saved without an end to this. -/
def StaysPlain (store : RoleStore) (role : Role) : Prop :=
  ∀ among, store.backend = .memory → store.Plain among → among role.organization role.id →
    obstacle? role = none

variable {within : String → Prop} {among : String → String → Prop} {store other last next : RoleStore}

namespace AgreesOn

theorem refl (store : RoleStore) : store.AgreesOn within store :=
  ⟨rfl, fun _ => .rfl, fun _ _ => .rfl, fun _ _ _ => .refl _⟩

theorem symm (agrees : store.AgreesOn within other) : other.AgreesOn within store :=
  ⟨agrees.backend.symm, fun permission => (agrees.permissions permission).symm,
    fun role isWithin => (agrees.roles role isWithin).symm,
    fun role member isWithin =>
      (agrees.assignments role ((agrees.roles role isWithin).2 member) isWithin).symm⟩

theorem trans (first : store.AgreesOn within other) (second : other.AgreesOn within last) :
    store.AgreesOn within last :=
  ⟨first.backend.trans second.backend,
    fun permission => (first.permissions permission).trans (second.permissions permission),
    fun role isWithin => (first.roles role isWithin).trans (second.roles role isWithin),
    fun role member isWithin => (first.assignments role member isWithin).trans
      (second.assignments role ((first.roles role isWithin).1 member) isWithin)⟩

/-- A stored role that is owned is stored in both. -/
theorem mem_role_iff (agrees : store.AgreesOn within other) {role : Role}
    (owns : store.OwnsRole within role.id) (otherOwns : other.OwnsRole within role.id) :
    role ∈ store.roles.values ↔ role ∈ other.roles.values :=
  ⟨fun member => (agrees.roles role (owns role member rfl)).1 member,
    fun member => (agrees.roles role (otherOwns role member rfl)).2 member⟩

theorem get?_role (agrees : store.AgreesOn within other) (sound : store.Sound)
    (otherSound : other.Sound) {id : String} (owns : store.OwnsRole within id)
    (otherOwns : other.OwnsRole within id) : store.roles.get? id = other.roles.get? id := by
  refine Option.ext fun role => ?_
  rw [sound.roles.get?_eq_some_iff, otherSound.roles.get?_eq_some_iff]
  refine and_congr_left ?_
  rintro rfl
  exact agrees.mem_role_iff owns otherOwns

end AgreesOn

/-! ## Owning, while others are left alone -/

theorem ownsRole_of_not_uses {id : String} (unused : ¬store.Uses id) : store.OwnsRole within id :=
  fun role member isId => absurd (.inl ⟨role, member, isId⟩) unused

theorem ownsRole_of_mem (sound : store.Sound) {role : Role} (member : role ∈ store.roles.values)
    (isWithin : within role.organization) : store.OwnsRole within role.id := by
  intro same sameMember isId
  rw [sound.roles.eq_of_key_eq sameMember member isId]
  exact isWithin

theorem assignmentsTo_of_not_uses {id : String} (unused : ¬store.Uses id) :
    store.assignmentsTo id = [] := by
  rw [assignmentsTo, List.filter_eq_nil_iff]
  intro assignment member isHeld
  exact unused (.inr ⟨assignment, member, (Value.equal_str_iff _ _).1 isHeld⟩)

theorem assignmentsTo_eq_nil_iff {id : String} :
    store.assignmentsTo id = [] ↔ ∀ assignment ∈ store.assignments, assignment.2 ≠ .str id := by
  rw [assignmentsTo, List.filter_eq_nil_iff]
  simp only [Value.equal_str_iff, ne_eq]

/-! ## The catalog -/

theorem AgreesOn.has_permission (agrees : store.AgreesOn within other) (sound : store.Sound)
    (otherSound : other.Sound) (slug : String) :
    store.permissions.has slug = other.permissions.has slug := by
  rw [Bool.eq_iff_iff, sound.permissions.has_iff, otherSound.permissions.has_iff]
  exact exists_congr fun permission => and_congr_left' (agrees.permissions permission)

theorem AgreesOn.mem_slugs (agrees : store.AgreesOn within other) (slug : String) :
    slug ∈ store.listPermissions.map Permission.slug ↔
      slug ∈ other.listPermissions.map Permission.slug := by
  rw [List.mem_map, List.mem_map]
  refine exists_congr fun permission => and_congr_left' ?_
  rw [listPermissions, listPermissions, mem_sortedBy, mem_sortedBy]
  exact agrees.permissions permission

/-! ## Saving a role -/

theorem hasClash_eq (agrees : store.AgreesOn within other) (role : Role)
    (isWithin : within role.organization) : store.hasClash role = other.hasClash role := by
  rw [Bool.eq_iff_iff, hasClash_iff, hasClash_iff]
  constructor
  · rintro ⟨found, member, apart, sameSlug, sameOrganization⟩
    exact ⟨found, (agrees.roles found (sameOrganization ▸ isWithin)).1 member, apart, sameSlug,
      sameOrganization⟩
  · rintro ⟨found, member, apart, sameSlug, sameOrganization⟩
    exact ⟨found, (agrees.roles found (sameOrganization ▸ isWithin)).2 member, apart, sameSlug,
      sameOrganization⟩

theorem keptRole_congr (agrees : store.AgreesOn within other) (sound : store.Sound)
    (otherSound : other.Sound) (role : Role) : store.keptRole role = other.keptRole role := by
  rw [keptRole, keptRole, agrees.backend, funext (agrees.has_permission sound otherSound)]

theorem AgreesOn.saveRole (agrees : store.AgreesOn within other) (sound : store.Sound)
    (otherSound : other.Sound) {role : Role} (isWithin : within role.organization)
    (held : ∀ id, store.backend.identifier (.str role.id) = .ok (some id) →
      (store.assignmentsTo id).Perm (other.assignmentsTo id)) :
    Except.Related (AgreesOn within) (store.saveRole role) (other.saveRole role) := by
  have sameIdentifier : store.roleIdentifier role.id = other.roleIdentifier role.id := by
    rw [roleIdentifier, roleIdentifier, agrees.backend]
  unfold RoleStore.saveRole
  rw [← sameIdentifier]
  refine (Except.Related.same _).bind fun id _ identified _ same => ?_
  subst same
  dsimp only
  rw [hasClash_eq agrees { role with id } isWithin,
    ← keptRole_congr agrees sound otherSound]
  split
  · exact .error _
  · refine (Except.Related.same _).bind fun kept _ isKept _ same => ?_
    subst same
    have sameId : kept.id = id := (keptRole_eq isKept).1
    have assigned := held id (roleIdentifier_eq_ok_iff.1 identified)
    subst sameId
    refine .ok ⟨agrees.backend, agrees.permissions, fun found foundWithin => ?_,
      fun found member foundWithin => ?_⟩
    · rw [sound.roles.mem_values_put, otherSound.roles.mem_values_put,
        agrees.roles found foundWithin]
    · rcases sound.roles.mem_values_put.1 member with rfl | ⟨old, _⟩
      · exact assigned
      · exact agrees.assignments found old foundWithin

theorem saveRole_spares (sound : store.Sound) {role : Role} (isWithin : within role.organization)
    (owns : ∀ id, store.backend.identifier (.str role.id) = .ok (some id) → store.OwnsRole within id)
    (saved : store.saveRole role = .ok next) :
    store.AgreesOn (fun organization => ¬within organization) next := by
  obtain ⟨kept, identified, _, _, sameOrganization, _, rfl⟩ := saveRole_eq_ok saved
  have keptWithin : within kept.organization := sameOrganization ▸ isWithin
  refine ⟨rfl, fun _ => .rfl, fun found foreign => ?_, fun _ _ _ => .refl _⟩
  rw [sound.roles.mem_values_put]
  constructor
  · exact fun member => .inr ⟨member, fun isId => foreign (owns kept.id identified found member isId)⟩
  · rintro (rfl | ⟨member, _⟩)
    · exact absurd keptWithin foreign
    · exact member

theorem uses_of_saveRole (sound : store.Sound) {role : Role} {id : String}
    (saved : store.saveRole role = .ok next) (uses : next.Uses id) :
    store.Uses id ∨ store.backend.identifier (.str role.id) = .ok (some id) := by
  obtain ⟨kept, identified, _, _, _, _, rfl⟩ := saveRole_eq_ok saved
  rcases uses with ⟨found, member, rfl⟩ | isHeld
  · rcases sound.roles.mem_values_put.1 member with rfl | ⟨old, _⟩
    · exact .inr identified
    · exact .inl (.inl ⟨found, old, rfl⟩)
  · exact .inl (.inr isHeld)

theorem obstacle?_eq_none_iff {role : Role} : obstacle? role = none ↔
    role.isDefault.hashable = true ∧ role.description.hashable = true := by
  simp [obstacle?]

theorem staysPlain_of_none {role : Role} (isPlain : obstacle? role = none) : store.StaysPlain role :=
  fun _ _ _ _ => isPlain

/-- A stored role may get other contents that are no obstacle where the old ones were none. -/
theorem staysPlain_of_mem {role updated : Role} (member : role ∈ store.roles.values)
    (sameId : updated.id = role.id) (sameOrganization : updated.organization = role.organization)
    (isPlain : obstacle? role = none → obstacle? updated = none) : store.StaysPlain updated := by
  intro among isMemory plain isAmong
  rw [sameId, sameOrganization] at isAmong
  exact isPlain (plain isMemory role member isAmong)

theorem plain_of_saveRole (sound : store.Sound) {role : Role} (plain : store.Plain among)
    (stays : store.StaysPlain role) (saved : store.saveRole role = .ok next) :
    next.Plain among := by
  obtain ⟨kept, identified, isKept, _, _, _, rfl⟩ := saveRole_eq_ok saved
  intro isMemory found member isAmong
  rcases sound.roles.mem_values_put.1 member with rfl | ⟨old, _⟩
  · have asGiven : role = found := by
      unfold keptRole at isKept
      rw [isMemory] at isKept identified
      have sameId : role.id = found.id := Option.some.inj (Except.ok.inj identified)
      rw [← sameId] at isKept
      exact Except.ok.inj isKept
    rw [← asGiven] at isAmong ⊢
    exact stays among isMemory plain isAmong
  · exact plain isMemory found old isAmong

/-! ## Deleting a role -/

/-- A role that nobody holds is deleted. -/
theorem Sound.deleteRole_of_unheld (sound : store.Sound) {role : Role}
    (member : role ∈ store.roles.values) (unheld : store.assignmentsTo role.id = []) :
    store.deleteRole (.str role.id) =
      .ok ({ store with roles := store.roles.erase role.id }, true) := by
  have noHolders : store.holders (.str role.id) = 0 :=
    holders_eq_zero_iff.2 (assignmentsTo_eq_nil_iff.1 unheld)
  have isStored := sound.roles.mem_values_iff.1 member
  unfold RoleStore.deleteRole
  rw [(sound.kept role member).identifier, Except.ok_bind, Option.bind_some, isStored]
  dsimp only
  rw [noHolders, if_neg fun guarded => Nat.lt_irrefl 0 guarded.2]
  rfl

theorem AgreesOn.deleteRole (agrees : store.AgreesOn within other) (sound : store.Sound)
    (otherSound : other.Sound) {id : String} (keeps : store.backend.Keeps id)
    (owns : store.OwnsRole within id) (otherOwns : other.OwnsRole within id) :
    Except.Related (fun left right => left.1.AgreesOn within right.1 ∧ left.2 = right.2)
      (store.deleteRole (.str id)) (other.deleteRole (.str id)) := by
  have otherKeeps : other.backend.Keeps id := agrees.backend ▸ keeps
  unfold RoleStore.deleteRole
  rw [keeps.identifier, otherKeeps.identifier, Except.ok_bind, Except.ok_bind, Option.bind_some,
    Option.bind_some, ← agrees.get?_role sound otherSound owns otherOwns]
  rcases found : store.roles.get? id with _ | role
  · exact .ok ⟨agrees, rfl⟩
  · have member := Keyed.mem_values_of_get? found
    have isId := sound.roles.key_eq found
    have sameHolders : store.holders (.str role.id) = other.holders (.str role.id) :=
      (agrees.assignments role member (owns role member isId)).length_eq
    have sameGuard : (store.backend = .tables ∧ 0 < store.holders (.str role.id)) ↔
        other.backend = .tables ∧ 0 < other.holders (.str role.id) := by
      rw [sameHolders, agrees.backend]
    dsimp only
    by_cases guarded : store.backend = .tables ∧ 0 < store.holders (.str role.id)
    · rw [if_pos guarded, if_pos (sameGuard.1 guarded)]
      exact .error _
    · rw [if_neg guarded, if_neg (mt sameGuard.2 guarded)]
      refine .ok ⟨⟨agrees.backend, agrees.permissions, fun another isWithin => ?_,
        fun another anotherMember isWithin => ?_⟩, rfl⟩
      · rw [sound.roles.mem_values_erase, otherSound.roles.mem_values_erase,
          agrees.roles another isWithin]
      · exact agrees.assignments another (sound.roles.mem_values_erase.1 anotherMember).1 isWithin

theorem deleteRole_spares (sound : store.Sound) {id : String} {answer : Bool}
    (keeps : store.backend.Keeps id) (owns : store.OwnsRole within id)
    (deleted : store.deleteRole (.str id) = .ok (next, answer)) :
    store.AgreesOn (fun organization => ¬within organization) next := by
  rcases deleteRole_eq_ok deleted with ⟨_, _, _, rfl, _⟩ | ⟨known, role, identified, found, _, rfl, _⟩
  · exact .refl _
  · obtain rfl := keeps.eq identified
    have isId : role.id = known := sound.roles.key_eq found
    refine ⟨rfl, fun _ => .rfl, fun another foreign => ?_, fun _ _ _ => .refl _⟩
    rw [sound.roles.mem_values_erase]
    exact ⟨fun member => ⟨member, fun same =>
      foreign (owns another member (same.trans isId))⟩, And.left⟩

theorem uses_of_deleteRole (sound : store.Sound) {given : Value} {answer : Bool} {id : String}
    (deleted : store.deleteRole given = .ok (next, answer)) (uses : next.Uses id) :
    store.Uses id := by
  rcases deleteRole_eq_ok deleted with ⟨_, _, _, rfl, _⟩ | ⟨_, _, _, _, _, rfl, _⟩
  · exact uses
  · rcases uses with ⟨role, member, isId⟩ | isHeld
    · exact .inl ⟨role, (sound.roles.mem_values_erase.1 member).1, isId⟩
    · exact .inr isHeld

theorem plain_of_deleteRole (sound : store.Sound) {given : Value} {answer : Bool}
    (plain : store.Plain among) (deleted : store.deleteRole given = .ok (next, answer)) :
    next.Plain among := by
  rcases deleteRole_eq_ok deleted with ⟨_, _, _, rfl, _⟩ | ⟨_, _, _, _, _, rfl, _⟩
  · exact plain
  · exact fun isMemory role member => plain isMemory role (sound.roles.mem_values_erase.1 member).1

/-! ## Assignments -/

theorem assignedRole_str {id : String} (keeps : store.backend.Keeps id) :
    store.assignedRole (.str id) = .ok (some (.str id)) := by
  unfold assignedRole
  cases backend : store.backend with
  | memory => rfl
  | tables =>
      rw [backend] at keeps
      dsimp only
      rw [keeps.identifier]
      rfl

/-- Whether a user holds a role is told by the assignments to the role. -/
theorem any_isHeldBy (store : RoleStore) (user : Value) (id : String) :
    store.assignments.any (isHeldBy user (.str id)) =
      (store.assignmentsTo id).any fun assignment => assignment.1.equal user := by
  rw [assignmentsTo, List.any_filter]
  exact congrArg _ (funext fun assignment => Bool.and_comm _ _)

theorem assignmentsTo_add (store : RoleStore) (user : Value) (given id : String) :
    ({ store with assignments := store.assignments ++ [(user, .str given)] } :
      RoleStore).assignmentsTo id =
        store.assignmentsTo id ++ if given = id then [(user, .str given)] else [] := by
  rw [assignmentsTo, assignmentsTo, List.filter_append]
  by_cases same : given = id
  · rw [if_pos same, List.filter_cons_of_pos (by rw [Value.str_equal_str, decide_eq_true same]),
      List.filter_nil]
  · rw [if_neg same, List.filter_cons_of_neg (by simpa using same), List.filter_nil]

theorem AgreesOn.assign (agrees : store.AgreesOn within other) {id : String}
    (keeps : store.backend.Keeps id) (held : (store.assignmentsTo id).Perm (other.assignmentsTo id))
    (user : Value) :
    Except.Related (fun left right => left.1.AgreesOn within right.1 ∧ left.2 = right.2)
      (store.assign user (.str id)) (other.assign user (.str id)) := by
  have otherKeeps : other.backend.Keeps id := agrees.backend ▸ keeps
  have sameUser : store.userOf user = other.userOf user := by
    rw [userOf, userOf, agrees.backend]
  unfold RoleStore.assign
  rw [assignedRole_str keeps, assignedRole_str otherKeeps, Except.ok_bind, Except.ok_bind]
  dsimp only
  rw [← sameUser]
  refine (Except.Related.same _).bind fun kept _ _ _ same => ?_
  subst same
  have sameAnswer : store.assignments.any (isHeldBy kept (.str id)) =
      other.assignments.any (isHeldBy kept (.str id)) := by
    rw [any_isHeldBy, any_isHeldBy]
    exact held.any_eq
  have added : AgreesOn within
      { store with assignments := store.assignments ++ [(kept, .str id)] }
      { other with assignments := other.assignments ++ [(kept, .str id)] } :=
    ⟨agrees.backend, agrees.permissions, agrees.roles, fun role member isWithin => by
      rw [assignmentsTo_add, assignmentsTo_add]
      exact (agrees.assignments role member isWithin).append_right _⟩
  rw [← sameAnswer]
  split
  · exact .ok ⟨agrees, rfl⟩
  · by_cases isTables : store.backend = .tables
    · rw [if_pos isTables, if_pos (agrees.backend ▸ isTables)]
      exact (Except.Related.same _).bind fun _ _ _ _ _ => .ok ⟨added, rfl⟩
    · rw [if_neg isTables, if_neg (agrees.backend ▸ isTables)]
      exact .ok ⟨added, rfl⟩

theorem assign_spares {id : String} {user : Value} {answer : Bool}
    (keeps : store.backend.Keeps id) (owns : store.OwnsRole within id)
    (assigned : store.assign user (.str id) = .ok (next, answer)) :
    store.AgreesOn (fun organization => ¬within organization) next := by
  rcases assign_eq_ok assigned with ⟨rfl, _⟩ | ⟨role, kept, isRole, _, _, rfl, _⟩
  · exact .refl _
  · rw [assignedRole_str keeps] at isRole
    cases isRole
    refine ⟨rfl, fun _ => .rfl, fun _ _ => .rfl, fun role member foreign => ?_⟩
    rw [assignmentsTo_add, if_neg fun same => foreign (owns role member same.symm), List.append_nil]

theorem uses_of_assign {given id : String} {user : Value} {answer : Bool}
    (keeps : store.backend.Keeps given) (isThere : store.Uses given)
    (assigned : store.assign user (.str given) = .ok (next, answer)) (uses : next.Uses id) :
    store.Uses id := by
  rcases assign_eq_ok assigned with ⟨rfl, _⟩ | ⟨role, kept, isRole, _, _, rfl, _⟩
  · exact uses
  · rw [assignedRole_str keeps] at isRole
    cases isRole
    rcases uses with isRole | ⟨assignment, member, isHeld⟩
    · exact .inl isRole
    · rcases List.mem_append.1 member with old | new
      · exact .inr ⟨assignment, old, isHeld⟩
      · rw [List.mem_singleton.1 new, Value.str.injEq] at isHeld
        exact isHeld ▸ isThere

theorem roles_of_assign {user id : Value} {answer : Bool}
    (assigned : store.assign user id = .ok (next, answer)) :
    next.backend = store.backend ∧ next.roles = store.roles := by
  rcases assign_eq_ok assigned with ⟨rfl, _⟩ | ⟨_, _, _, _, _, rfl, _⟩ <;> exact ⟨rfl, rfl⟩

/-- An assignment to a stored role is never refused for the role. -/
theorem consistent_of_assign (sound : store.Sound) {role : Role} {user : Value} {answer : Bool}
    (member : role ∈ store.roles.values)
    (assigned : store.assign user (.str role.id) = .ok (next, answer)) :
    next.isConsistent = true := by
  rcases assign_eq_ok assigned with ⟨rfl, _⟩ | ⟨given, kept, isRole, _, _, rfl, _⟩
  · exact (isConsistent_iff sound.roles).2 sound.consistent
  · rw [assignedRole_str (sound.kept role member)] at isRole
    cases isRole
    have indexed : ({ store with assignments := store.assignments ++ [(kept, .str role.id)] } :
        RoleStore).roles.Indexed Role.id := sound.roles
    refine (isConsistent_iff indexed).2 fun isTables assignment assignmentMember => ?_
    rcases List.mem_append.1 assignmentMember with old | new
    · exact sound.consistent isTables assignment old
    · exact ⟨role, member, by rw [List.mem_singleton.1 new]⟩

theorem held_isEmpty_of_any {user role : Value} (noneHeld : (store.held user).isEmpty = true) :
    store.assignments.any (isHeldBy user role) = false := by
  rw [List.any_eq_false]
  intro assignment member isHeld
  have among : assignment ∈ store.held user :=
    List.mem_filter.2 ⟨member, (Bool.and_eq_true _ _ ▸ isHeld).1⟩
  rw [List.isEmpty_iff.1 noneHeld] at among
  cases among

theorem isForeign_str {id : String} (keeps : store.backend.Keeps id) :
    store.isForeign (.str id) = false := by
  unfold isForeign
  cases backend : store.backend with
  | memory => rfl
  | tables =>
      rw [backend, Backend.Keeps, Backend.identifier_str] at keeps
      have canonical : Text.Uuid.canonical? id = some id := Except.ok.inj keeps
      rw [Value.text?_str, Option.bind_some, canonical]
      rfl

theorem revoke_str {id : String} (keeps : store.backend.Keeps id) (user : Value) :
    store.revoke user (.str id) = (store.userOf user).map fun user =>
      if store.assignments.any (isHeldBy user (.str id)) then
        ({ store with
          assignments := store.assignments.filter fun found => !isHeldBy user (.str id) found }, true)
      else (store, false) := by
  unfold RoleStore.revoke
  rw [isForeign_str keeps, if_neg Bool.false_ne_true]
  rcases store.userOf user with error | kept
  · rfl
  · rw [Except.ok_bind, assignedRole_str keeps, Except.ok_bind]
    dsimp only [Except.map]
    by_cases noneHeld : (store.held kept).isEmpty = true
    · rw [if_pos noneHeld, held_isEmpty_of_any noneHeld]
      rfl
    · rw [if_neg noneHeld]
      split <;> rfl

theorem assignmentsTo_remove (store : RoleStore) (user : Value) (given id : String) :
    ({ store with
      assignments := store.assignments.filter fun found => !isHeldBy user (.str given) found } :
        RoleStore).assignmentsTo id =
      (store.assignmentsTo id).filter fun found => !isHeldBy user (.str given) found := by
  rw [assignmentsTo, assignmentsTo, List.filter_filter, List.filter_filter]
  exact congrArg (List.filter · _) (funext fun assignment => Bool.and_comm _ _)

theorem AgreesOn.revoke (agrees : store.AgreesOn within other) {id : String}
    (keeps : store.backend.Keeps id) (held : (store.assignmentsTo id).Perm (other.assignmentsTo id))
    (user : Value) :
    Except.Related (fun left right => left.1.AgreesOn within right.1 ∧ left.2 = right.2)
      (store.revoke user (.str id)) (other.revoke user (.str id)) := by
  have sameUser : store.userOf user = other.userOf user := by
    rw [userOf, userOf, agrees.backend]
  rw [revoke_str keeps, revoke_str (agrees.backend ▸ keeps), ← sameUser]
  refine (Except.Related.same _).map fun {kept _} same => ?_
  subst same
  have sameAnswer : store.assignments.any (isHeldBy kept (.str id)) =
      other.assignments.any (isHeldBy kept (.str id)) := by
    rw [any_isHeldBy, any_isHeldBy]
    exact held.any_eq
  rw [← sameAnswer]
  split
  · refine ⟨⟨agrees.backend, agrees.permissions, agrees.roles, fun role member isWithin => ?_⟩, rfl⟩
    rw [assignmentsTo_remove, assignmentsTo_remove]
    exact (agrees.assignments role member isWithin).filter _
  · exact ⟨agrees, rfl⟩

theorem revoke_spares {id : String} {user : Value} {answer : Bool}
    (keeps : store.backend.Keeps id) (owns : store.OwnsRole within id)
    (revoked : store.revoke user (.str id) = .ok (next, answer)) :
    store.AgreesOn (fun organization => ¬within organization) next := by
  rcases revoke_eq_ok revoked with ⟨rfl, _⟩ | ⟨role, kept, isRole, _, _, rfl, _⟩
  · exact .refl _
  · rw [assignedRole_str keeps] at isRole
    cases isRole
    refine ⟨rfl, fun _ => .rfl, fun _ _ => .rfl, fun role member foreign => ?_⟩
    have untouched : ∀ assignment ∈ store.assignmentsTo role.id,
        (!isHeldBy kept (.str id) assignment) = true := by
      intro assignment isTo
      have isRole := (Value.equal_str_iff _ _).1 (List.mem_filter.1 isTo).2
      have apart : id ≠ role.id := fun same => foreign (owns role member same.symm)
      rw [isHeldBy, isRole, Value.str_equal_str, decide_eq_false apart.symm, Bool.and_false]
      rfl
    rw [assignmentsTo_remove, List.filter_eq_self.2 untouched]

theorem uses_of_revoke {given : Value} {id : String} {user : Value} {answer : Bool}
    (revoked : store.revoke user given = .ok (next, answer)) (uses : next.Uses id) :
    store.Uses id := by
  rcases revoke_eq_ok revoked with ⟨rfl, _⟩ | ⟨_, _, _, _, _, rfl, _⟩
  · exact uses
  · rcases uses with isRole | ⟨assignment, member, isHeld⟩
    · exact .inl isRole
    · exact .inr ⟨assignment, List.mem_of_mem_filter member, isHeld⟩

theorem roles_of_revoke {user id : Value} {answer : Bool}
    (revoked : store.revoke user id = .ok (next, answer)) :
    next.backend = store.backend ∧ next.roles = store.roles := by
  rcases revoke_eq_ok revoked with ⟨rfl, _⟩ | ⟨_, _, _, _, _, rfl, _⟩ <;> exact ⟨rfl, rfl⟩

/-! ## Asking -/

theorem countHolders_str {id : String} (keeps : store.backend.Keeps id) :
    store.countHolders (.str id) = .ok (store.assignmentsTo id).length := by
  unfold RoleStore.countHolders
  cases backend : store.backend with
  | memory =>
      dsimp only
      rw [Value.hashable_str, Bool.or_true]
      rfl
  | tables =>
      rw [backend] at keeps
      dsimp only
      rw [keeps.identifier]
      rfl

theorem AgreesOn.rolesIn (agrees : store.AgreesOn within other) (sound : store.Sound)
    (otherSound : other.Sound) {organization : String} (isWithin : within organization) :
    store.rolesIn (.str organization) = other.rolesIn (.str organization) := by
  have mem_iff {store : RoleStore} {role : Role} :
      role ∈ store.roles.values.filter (fun role =>
        store.backend.matchesText role.organization (.str organization)) ↔
        role ∈ store.roles.values ∧ role.organization = organization := by
    rw [List.mem_filter, Backend.matchesText_str, decide_eq_true_iff]
  refine sortedBy_eq_of_perm (fun role member another anotherMember same => ?_)
    ((List.perm_ext_iff_of_nodup (sound.roles.nodup_values.filter _)
      (otherSound.roles.nodup_values.filter _)).2 fun role => ?_)
  · have sameId : role.id = another.id := by
      simpa [Role.sortKey] using congrArg List.getLast? same
    exact sound.roles.eq_of_key_eq (mem_iff.1 member).1 (mem_iff.1 anotherMember).1 sameId
  · rw [mem_iff, mem_iff]
    exact and_congr_left fun isOrganization => agrees.roles role (isOrganization ▸ isWithin)

theorem isSome_roleBySlug?_iff {slug organization : String} :
    (store.roleBySlug? (.str slug) (.str organization)).isSome = true ↔
      ∃ role ∈ store.roles.values, role.slug = slug ∧ role.organization = organization := by
  unfold RoleStore.roleBySlug?
  rw [List.find?_isSome]
  refine exists_congr fun role => and_congr_right fun _ => ?_
  rw [Bool.and_eq_true, Backend.matchesText_str, Backend.matchesText_str, decide_eq_true_iff,
    decide_eq_true_iff]

/-- Stores that agree tell alike whether a role of an organization has a slug. -/
theorem AgreesOn.isSome_roleBySlug? (agrees : store.AgreesOn within other)
    {organization : String} (isWithin : within organization) (slug : String) :
    (store.roleBySlug? (.str slug) (.str organization)).isSome =
      (other.roleBySlug? (.str slug) (.str organization)).isSome := by
  rw [Bool.eq_iff_iff, isSome_roleBySlug?_iff, isSome_roleBySlug?_iff]
  constructor
  · rintro ⟨role, member, isSlug, rfl⟩
    exact ⟨role, (agrees.roles role isWithin).1 member, isSlug, rfl⟩
  · rintro ⟨role, member, isSlug, rfl⟩
    exact ⟨role, (agrees.roles role isWithin).2 member, isSlug, rfl⟩

/-- What is found of an identifier in an organization. -/
def found (store : RoleStore) (organization : String) (id : Value) : Except Error Role :=
  store.roles.finding store.backend (.notFound .role id)
    (fun role => role.organization = organization) id

theorem found_eq_ok {organization : String} {id : Value} {role : Role}
    (isFound : store.found organization id = .ok role) :
    role ∈ store.roles.values ∧ role.organization = organization :=
  (Keyed.finding_eq_ok isFound).imp_right of_decide_eq_true

/-- Stores that agree find the same, where all that an organization has is among what they agree on. -/
theorem AgreesOn.found (agrees : store.AgreesOn within other) (sound : store.Sound)
    (otherSound : other.Sound) {organization : String}
    (covered : ∀ role ∈ store.roles.values, role.organization = organization → within organization)
    (otherCovered : ∀ role ∈ other.roles.values,
      role.organization = organization → within organization) (id : Value) :
    store.found organization id = other.found organization id := by
  rw [RoleStore.found, RoleStore.found, ← agrees.backend]
  refine sound.roles.finding_eq otherSound.roles fun role isOrganization => ?_
  obtain rfl := of_decide_eq_true isOrganization
  exact ⟨fun member => (agrees.roles role (covered role member rfl)).1 member,
    fun member => (agrees.roles role (otherCovered role member rfl)).2 member⟩

theorem slug_of_roleBySlug? {slug : String} {organization : Value} {role : Role}
    (found : store.roleBySlug? (.str slug) organization = some role) :
    role ∈ store.roles.values ∧ role.slug = slug := by
  have matching := List.find?_some found
  rw [Bool.and_eq_true, Backend.matchesText_str, decide_eq_true_iff] at matching
  exact ⟨List.mem_of_find?_eq_some found, matching.1⟩

end RoleStore

end Authorization
