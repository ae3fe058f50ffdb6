import Authorization.Proofs.Store.Memory
import Authorization.Proofs.Store.Saving
import Authorization.Proofs.System.Roles
import Authorization.Proofs.System.Slugs
import Authorization.Proofs.Tenancy.Stores

/-!
# Roles that have been saved in tables

Tables hold a role in the columns of a row and its permissions as references to rows of the catalog. What
they hold of a role is one role again, and every way of reading gives it: under its identifier, under its
slug, among the roles of its organization and among the roles of any identifiers. It is the role that was
saved, but for permissions that the catalog does not have, and nothing else in the system has changed.
-/

namespace Authorization

open Service

/-! ## What tables hold of a role -/

/-- What tables hold of a role: all of it, but of its permissions those of the catalog, its description
as a text and its flag as a flag. -/
structure Role.HeldAs (catalog : Keyed String Permission) (role held : Role) : Prop where
  id : held.id = role.id
  name : held.name = role.name
  slug : held.slug = role.slug
  organization : held.organization = role.organization
  permissions : held.permissions = role.permissions.filter catalog.has
  isText : Column.text role.description = .ok held.description
  isFlag : Column.flag role.isDefault = .ok held.isDefault

/-- A role of permissions of the catalog whose other fields are of the kinds of their columns is held as
it is. -/
theorem Role.HeldAs.eq {catalog : Keyed String Permission} {role held : Role}
    (heldAs : role.HeldAs catalog held) (fits : role.Fits)
    (granted : ∀ slug ∈ role.permissions, catalog.has slug = true) : held = role := by
  obtain ⟨flag, isFlag⟩ := fits.isFlag
  obtain ⟨id, name, slug, organization, permissions, isText, isHeldFlag⟩ := heldAs
  rw [fits.isText] at isText
  rw [isFlag, Column.flag_bool] at isHeldFlag
  rw [List.filter_eq_self.2 granted] at permissions
  have isDefault : held.isDefault = role.isDefault := (Except.ok.inj isHeldFlag).symm.trans isFlag.symm
  cases held
  cases role
  simp only [Role.mk.injEq]
  exact ⟨id, name, slug, organization, permissions, isDefault, (Except.ok.inj isText).symm⟩

namespace RoleStore

variable {store next : RoleStore} {role kept : Role}

theorem heldAs_of_keptRole (isTables : store.backend = .tables)
    (isKept : store.keptRole role = .ok kept) : role.HeldAs store.permissions kept := by
  unfold RoleStore.keptRole at isKept
  rw [isTables] at isKept
  obtain ⟨description, isText, isKept⟩ := Except.bind_eq_ok_iff.1 isKept
  obtain ⟨flag, isFlag, isKept⟩ := Except.bind_eq_ok_iff.1 isKept
  obtain ⟨⟨⟩, _, isKept⟩ := Except.bind_eq_ok_iff.1 isKept
  obtain ⟨isDefault, isThere, isKept⟩ := Except.bind_eq_ok_iff.1 isKept
  obtain ⟨⟨⟩, _, isKept⟩ := Except.bind_eq_ok_iff.1 isKept
  cases isKept
  refine ⟨rfl, rfl, rfl, rfl, rfl, isText, ?_⟩
  rw [isFlag]
  unfold Column.required at isThere
  split at isThere
  · cases isThere
  · exact congrArg Except.ok (Except.ok.inj isThere)

/-- A role with a canonical identifier that is saved in tables stands under it as tables hold it. -/
theorem exists_held (isTables : store.backend = .tables) (canonical : Backend.tables.Keeps role.id)
    (saved : store.saveRole role = .ok next) : ∃ held, role.HeldAs store.permissions held ∧
      store.keptRole role = .ok held ∧
      next = { store with roles := Keyed.put role.id held store.roles } := by
  obtain ⟨kept, identified, isKept, _, _, _, rfl⟩ := saveRole_eq_ok saved
  rw [← isTables] at canonical
  have sameId : kept.id = role.id := canonical.eq identified
  have sameRole : { role with id := kept.id } = role := by rw [sameId]
  rw [sameRole] at isKept
  exact ⟨kept, heldAs_of_keptRole isTables isKept, isKept, by rw [sameId]⟩

/-! ## Reading a role -/

/-- In a sorted list of stored roles, the only one with the identifier of a stored role is that role. -/
theorem Sound.filter_sortedBy (sound : store.Sound) (member : role ∈ store.roles.values)
    (test : Role → Bool) (passes : test role = true) :
    (sortedBy Role.sortKey (store.roles.values.filter test)).filter
      (fun other => decide (other.id = role.id)) = [role] := by
  refine List.perm_singleton.1 ((List.perm_ext_iff_of_nodup ?_ (List.nodup_singleton role)).2 ?_)
  · exact ((List.mergeSort_perm _ _).nodup_iff.2 (sound.roles.nodup_values.filter test)).filter _
  · intro other
    rw [List.mem_filter, mem_sortedBy, List.mem_filter, decide_eq_true_iff, List.mem_singleton]
    constructor
    · rintro ⟨⟨otherMember, _⟩, sameId⟩
      exact sound.roles.eq_of_key_eq otherMember member sameId
    · rintro rfl
      exact ⟨⟨member, passes⟩, rfl⟩

/-- Tables take any values where identifiers are asked for. -/
theorem mapM_identifier_tables (ids : List Value) :
    ids.mapM Backend.tables.identifier =
      .ok (ids.map fun id => id.text?.bind Text.Uuid.canonical?) := by
  rw [Except.mapM_eq_ok_iff, List.forall₂_map_right_iff, List.forall₂_same]
  exact fun _ _ => rfl

theorem rolesOf_tables (isTables : store.backend = .tables) (ids : List Value) :
    store.rolesOf ids = .ok (sortedBy Role.sortKey (store.roles.values.filter fun role =>
      (ids.map fun id => id.text?.bind Text.Uuid.canonical?).contains (some role.id))) := by
  unfold RoleStore.rolesOf
  rw [isTables, mapM_identifier_tables, Except.ok_bind]
  rfl

end RoleStore

/-- Every way of reading gives a role: under its identifier and its slug, and once among the roles of its
organization and among the roles of identifiers of which one is its own. -/
structure System.Gives (system : System) (role : Role) : Prop where
  byId : exec (role? (.str role.id)) system = (.ok (some role), system)
  bySlug : exec (roleBySlug? (.str role.slug) (.str role.organization)) system =
    (.ok (some role), system)
  inOrganization : ∃ listed, exec (rolesIn (.str role.organization)) system = (.ok listed, system) ∧
    listed.filter (fun other => decide (other.id = role.id)) = [role]
  among : ∀ ids, .str role.id ∈ ids → ∃ listed,
    exec (rolesOf (.tuple ids)) system = (.ok listed, system) ∧
      listed.filter (fun other => decide (other.id = role.id)) = [role]

variable {system before after : System} {role held : Role}

/-- A role that tables hold is given by every way of reading. -/
theorem System.gives_of_stored (unplanned : system.plans = []) (isTables : system.roles.backend = .tables)
    (sound : system.roles.Sound) (apart : system.roles.SlugsApart)
    (member : role ∈ system.roles.roles.values) (slugWhole : Text.holdsHalf role.slug = false)
    (organizationWhole : Text.holdsHalf role.organization = false) : system.Gives role := by
  have keeps : Backend.tables.Keeps role.id := isTables ▸ sound.kept role member
  have isStored := sound.roles.get?_eq_some_iff.2 ⟨member, rfl⟩
  have matchesOwn (kept : String) : system.roles.backend.matchesText kept (.str kept) = true := by
    rw [Backend.matchesText_str, decide_eq_true_iff]
  have asksOrganization : system.roles.backend.asks [.str role.organization] = .ok () := by
    refine @Backend.asks_texts _ [some role.organization] fun text isText => ?_
    rw [Option.some.inj (List.mem_singleton.1 isText)]
    exact organizationWhole
  have asksBoth : system.roles.backend.asks [.str role.slug, .str role.organization] = .ok () := by
    refine @Backend.asks_texts _ [some role.slug, some role.organization] fun text isText => ?_
    rcases List.mem_cons.1 isText with isSlug | isText
    · rw [Option.some.inj isSlug]
      exact slugWhole
    · rw [Option.some.inj (List.mem_singleton.1 isText)]
      exact organizationWhole
  have isOwn := matchesOwn role.organization
  refine ⟨?_, ?_, ⟨system.roles.rolesIn (.str role.organization), ?_,
    sound.filter_sortedBy member _ isOwn⟩, ?_⟩
  · have isFound : system.roles.role? (.str role.id) = .ok (some role) := by
      rw [RoleStore.role?, isTables, keeps.identifier, Except.ok_bind, Option.bind_some, isStored]
      rfl
    rw [exec_role? unplanned, isFound]
  · have isFound := apart.roleBySlug?_eq_some_iff.2
      ⟨member, matchesOwn role.slug, matchesOwn role.organization⟩
    rw [exec_roleBySlug? unplanned, asksBoth, isFound]
    rfl
  · rw [exec_rolesIn unplanned, asksOrganization]
    rfl
  · intro ids isThere
    have items : exec (ofDraw (Value.tuple ids).items) system = (.ok ids, system) := rfl
    have isRead : exec (rolesOf (.tuple ids)) system = (system.roles.rolesOf ids, system) := by
      unfold rolesOf
      rw [exec_performed unplanned, exec_bind_of_ok items, exec_get_bind,
        exec_orFail]
    rw [RoleStore.rolesOf_tables isTables] at isRead
    refine ⟨_, isRead, sound.filter_sortedBy member _ ?_⟩
    exact List.contains_iff_mem.2 (List.mem_map.2 ⟨_, isThere, Except.ok.inj keeps.identifier⟩)

/-! ## Saving a role -/

/-- What saving a role in tables leaves: the role as tables hold it, and everything else as it was. -/
theorem exec_saveRole_tables (unplanned : before.plans = []) (isTables : before.roles.backend = .tables)
    (canonical : Backend.tables.Keeps role.id) {saved : Value}
    (saves : exec (saveRole role) before = (.ok saved, after)) :
    ∃ held, role.HeldAs before.roles.permissions held ∧ before.roles.keptRole role = .ok held ∧
      after = { before with
        roles := { before.roles with roles := Keyed.put role.id held before.roles.roles } } ∧
      before.roles.saveRole role = .ok after.roles := by
  unfold saveRole at saves
  rw [exec_performedValue unplanned, exec_changeRoles] at saves
  cases isSaved : before.roles.saveRole role with
  | error error =>
      rw [isSaved] at saves
      cases saves
  | ok next =>
      rw [isSaved] at saves
      cases saves
      obtain ⟨held, heldAs, isKept, rfl⟩ := RoleStore.exists_held isTables canonical isSaved
      exact ⟨held, heldAs, isKept, rfl, rfl⟩

/-- A role that fits its columns is saved where no other has its slug and its texts can be written. -/
theorem exec_saveRole_of_fits (unplanned : system.plans = []) (isTables : system.roles.backend = .tables)
    (canonical : Backend.tables.Keeps role.id) (fits : role.Fits)
    (noClash : system.roles.hasClash role = false)
    (isWhole : Column.encoded ([.str role.organization, .str role.name, .str role.slug,
      role.description] ++ role.permissions.map .str) = .ok ()) :
    exec (saveRole role) system = (.ok role.toValue, { system with roles := { system.roles with
      roles := Keyed.put role.id
        { role with permissions := role.permissions.filter system.roles.permissions.has }
        system.roles.roles } }) := by
  have identified : system.roles.roleIdentifier role.id = .ok role.id :=
    RoleStore.roleIdentifier_eq_ok_iff.2 (isTables ▸ canonical)
  have notTaken : ¬ system.roles.hasClash role = true := Bool.eq_false_iff.1 noClash
  have isSaved : system.roles.saveRole role = .ok { system.roles with
      roles := Keyed.put role.id
        { role with permissions := role.permissions.filter system.roles.permissions.has }
        system.roles.roles } := by
    rw [RoleStore.saveRole_eq, saving_of_identified identified, if_neg notTaken,
      RoleStore.keptRole_of_fits isTables fits, isWhole]
    rfl
  unfold saveRole
  rw [exec_performedValue unplanned, exec_changeRoles, isSaved]
  rfl

namespace System

/-- What tables save of a role is what they give. In any state that is reached from one with tables whose
slugs are apart, when a role with a canonical identifier has been saved, then every way of reading gives
one role: the one that was saved, but with the permissions of the catalog only, its description as a text
and its flag as a flag. It is the very role that was saved when its permissions are in the catalog, its
description is a text or nothing, and its flag is a flag. All other roles, the assignments, the catalog and
the rest of the system are as before. -/
theorem saved_roles_are_given [Host] (unplanned : system.plans = []) (closed : system.savepoints = [])
    (isTables : system.roles.backend = .tables) (accepted : system.roles.Accepted)
    (apart : system.roles.SlugsApart) (reaches : system.Reaches before)
    (canonical : Backend.tables.Keeps role.id) {saved : Value}
    (saves : exec (saveRole role) before = (.ok saved, after)) :
    ∃ held, role.HeldAs before.roles.permissions held ∧
      (role.Fits → (∀ slug ∈ role.permissions, before.roles.permissions.has slug = true) →
        held = role) ∧
      after.Gives held ∧
      (∀ id, id ≠ role.id → after.roles.roles.get? id = before.roles.roles.get? id) ∧
      after = { before with roles := { before.roles with roles := after.roles.roles } } := by
  have start : system.Storing (fun store => (store.Sound ∧ store.SlugsApart) ∧
      store.backend = .tables) fun _ => True :=
    ⟨unplanned, closed, ⟨⟨accepted.sound, apart⟩, isTables⟩, trivial⟩
  have lasting := @System.Storing.lasting (fun store => (store.Sound ∧ store.SlugsApart) ∧
      store.backend = .tables) (fun _ => True) _
    (fun _ _ holds step => ⟨⟨holds.1.1.step step, holds.1.2.step holds.1.1 step⟩,
      (step.sameBackend holds.1.1).trans holds.2⟩) fun _ _ _ _ => trivial
  obtain ⟨stillUnplanned, _, ⟨⟨sound, stillApart⟩, stillTables⟩, _⟩ := reaches.keeps lasting start
  obtain ⟨held, heldAs, isKept, rfl, isSaved⟩ :=
    exec_saveRole_tables stillUnplanned stillTables canonical saves
  have member : held ∈ (Keyed.put role.id held before.roles.roles).values := by
    rw [← heldAs.id]
    exact sound.roles.mem_values_put.2 (.inl rfl)
  have areWhole := Column.encoded_eq_ok_iff.1 (RoleStore.fits_of_keptRole stillTables isKept).2.1
  refine ⟨held, heldAs, heldAs.eq, ?_, fun id different => ?_, rfl⟩
  · exact gives_of_stored stillUnplanned stillTables (sound.saveRole isSaved)
      (stillApart.step sound (.saveRole isSaved)) member
      (areWhole _ (.tail _ (.tail _ (.head _)))) (areWhole _ (.head _))
  · exact (Keyed.get?_put _ _ _ _).trans (if_neg different)

/-- The shop with its roles in tables. -/
def shopInTables : System :=
  { shopSystem with roles := { shopSystem.roles with backend := .tables } }

/-- A role of the shop with some permissions. -/
def shopRole (permissions : List String) : Role :=
  ⟨shopId, "Sales", "sales", "shop", permissions, .bool false, .null⟩

theorem accepted_shopInTables : shopInTables.roles.Accepted := by
  have indexed : shopInTables.roles.permissions.Indexed Permission.slug :=
    ⟨List.nodup_singleton _, List.forall_mem_singleton.2 rfl⟩
  exact .tables rfl ⟨indexed, .nil, List.forall_mem_nil _, fun _ => List.forall_mem_nil _⟩

theorem keeps_shopId : Backend.tables.Keeps shopId := by
  have isCanonical : Text.Uuid.canonical? shopId = some shopId := by decide +kernel
  rw [Backend.Keeps, Backend.identifier_str]
  exact congrArg Except.ok isCanonical

theorem exec_saveRole_sales {permissions : List String}
    (isWhole : ∀ slug ∈ permissions, Text.holdsHalf slug = false) :
    exec (saveRole (shopRole permissions)) shopInTables =
      (.ok (shopRole permissions).toValue, { shopInTables with roles := { shopInTables.roles with
        roles := [(shopId, shopRole (permissions.filter shopInTables.roles.permissions.has))] } }) := by
  refine exec_saveRole_of_fits rfl rfl keeps_shopId ⟨rfl, false, rfl⟩ rfl ?_
  rw [Column.encoded_eq_ok_iff]
  intro text member
  rcases List.mem_append.1 member with ofRow | isSlug
  · have rowWhole : Column.encoded [.str "shop", .str "Sales", .str "sales", .null] = .ok () := rfl
    exact Column.encoded_eq_ok_iff.1 rowWhole text ofRow
  · obtain ⟨slug, slugMember, same⟩ := List.mem_map.1 isSlug
    exact Value.str.inj same ▸ isWhole slug slugMember

open scoped Host in
theorem saved_roles_are_given_sales : ∃ saved after,
    shopInTables.plans = [] ∧ shopInTables.savepoints = [] ∧
    shopInTables.roles.backend = .tables ∧ shopInTables.roles.Accepted ∧
    shopInTables.roles.SlugsApart ∧ shopInTables.Reaches shopInTables ∧
    Backend.tables.Keeps (shopRole ["deal:read"]).id ∧
    exec (saveRole (shopRole ["deal:read"])) shopInTables = (.ok saved, after) ∧
    after.Gives (shopRole ["deal:read"]) := by
  have noRoles : shopInTables.roles.SlugsApart := nofun
  have canonical : Backend.tables.Keeps (shopRole ["deal:read"]).id := keeps_shopId
  have saves := @exec_saveRole_sales ["deal:read"] (by decide)
  obtain ⟨held, _, isSame, gives, _, _⟩ :=
    saved_roles_are_given rfl rfl rfl accepted_shopInTables noRoles .refl canonical saves
  have granted : ∀ slug ∈ (shopRole ["deal:read"]).permissions,
      shopInTables.roles.permissions.has slug = true := List.forall_mem_singleton.2 rfl
  have same := isSame ⟨rfl, false, rfl⟩ granted
  exact ⟨_, _, rfl, rfl, rfl, accepted_shopInTables, noRoles, .refl, keeps_shopId, saves,
    same ▸ gives⟩

/-- Tables do not hold a permission that is not in their catalog: the role that is saved with it is given
without it. -/
theorem saved_role_is_not_given : ∃ saved after,
    shopInTables.plans = [] ∧ shopInTables.savepoints = [] ∧
    shopInTables.roles.backend = .tables ∧ shopInTables.roles.Accepted ∧
    shopInTables.roles.SlugsApart ∧ Backend.tables.Keeps (shopRole ["deal:fly"]).id ∧
    (shopRole ["deal:fly"]).Fits ∧
    exec (saveRole (shopRole ["deal:fly"])) shopInTables = (.ok saved, after) ∧
    (exec (role? (.str shopId)) after).1 = .ok (some (shopRole [])) ∧
    ¬ after.Gives (shopRole ["deal:fly"]) := by
  have saves := @exec_saveRole_sales ["deal:fly"] (by decide)
  have read : (exec (role? (.str shopId)) { shopInTables with roles := { shopInTables.roles with
      roles := [(shopId, shopRole [])] } }).1 = .ok (some (shopRole [])) := by
    have isFound : Keyed.get? [(shopId, shopRole [])] shopId = some (shopRole []) := rfl
    have isRole : RoleStore.role? { shopInTables.roles with roles := [(shopId, shopRole [])] }
        (.str shopId) = .ok (some (shopRole [])) := by
      rw [RoleStore.role?]
      dsimp only [shopInTables]
      rw [keeps_shopId.identifier, Except.ok_bind, Option.bind_some, isFound]
      rfl
    rw [exec_role? rfl, isRole]
  refine ⟨_, _, rfl, rfl, rfl, accepted_shopInTables, nofun, keeps_shopId, ⟨rfl, false, rfl⟩, saves,
    read, fun gives => ?_⟩
  have same := Except.ok.inj (read.symm.trans (congrArg Prod.fst gives.byId))
  exact absurd (congrArg Role.permissions (Option.some.inj same)) (by decide)

end System

end Authorization
