import Authorization.Proofs.Store.Catalog
import Authorization.Proofs.System.Assignments

/-!
# The catalog of a system in use

Whatever is called, and whenever the catalog is seeded in between, a permission that is stored stays as it
is. The catalog is listed with one permission for each slug, by resource and action. To add a list adds
the first permission of each slug that is new, and says how many these are; to seed a catalog again
changes nothing. Tables refuse a list with a new permission that they cannot write, as a whole.
-/

namespace Authorization

open Service

/-- Systems that are reached by calls, among them those that add permissions and those that change roles,
with the catalog seeded in between. What fails leads somewhere as well. -/
inductive System.Supplied [Host] (system : System) : System → Prop
  | refl : Supplied system system
  | call {middle : System} (before : Supplied system middle) (name : String)
      (arguments : Arguments) : Supplied system (exec (Service.call name arguments) middle).2
  | seed {middle : System} (before : Supplied system middle) :
      Supplied system (exec seedPermissions middle).2

variable {system middle after : System}

/-- What the steps of a role store keep is kept while a system is supplied. -/
theorem System.Supplied.keeps [Host] {roles : RoleStore → Prop}
    (roleSteps : ∀ store next, roles store → store.Step next → roles next)
    (supplied : system.Supplied after) (storing : system.Storing roles fun _ => True) :
    after.Storing roles fun _ => True := by
  have lasting := System.Storing.lasting roleSteps fun _ _ (_ : True) _ => trivial
  induction supplied with
  | refl => exact storing
  | call _ name arguments inductionHypothesis =>
      exact keeps_call lasting.tending name arguments _ inductionHypothesis
  | seed _ inductionHypothesis =>
      exact System.Storing.keeps_seedPermissions roleSteps _ inductionHypothesis

/-! ## Permissions that are known from the start -/

namespace Permission

/-- The known permissions are read from their records. -/
theorem mapM_permissionOf_known :
    (known.map toValue).mapM RoleStore.permissionOf = .ok known := by
  have isRead : ∀ permission ∈ known, RoleStore.permissionOf permission.toValue = .ok permission := by
    intro permission member
    simp only [known, List.mem_flatMap, List.mem_map] at member
    obtain ⟨resource, isResource, action, isAction, rfl⟩ := member
    have resources : ∀ resource ∈ knownResources, resource ≠ "" := by decide
    have actions : ∀ action ∈ knownActions, action ≠ "" := by decide
    rw [RoleStore.permissionOf, ofValue?_of (resources _ isResource) (actions _ isAction)]
  rw [Except.mapM_eq_ok_iff, List.forall₂_map_left_iff, List.forall₂_same]
  exact isRead

theorem writable_of_known : ∀ permission ∈ known, permission.Writable := by
  have resources : ∀ resource ∈ knownResources, Text.holdsHalf resource = false := by decide +kernel
  have actions : ∀ action ∈ knownActions, Text.holdsHalf action = false ∧
      Text.holdsHalf (Text.capitalize action) = false := by decide +kernel
  intro permission member
  simp only [known, List.mem_flatMap, List.mem_map] at member
  obtain ⟨resource, isResource, action, isAction, rfl⟩ := member
  obtain ⟨isWhole, titleWhole⟩ := actions action isAction
  exact writable_of (resources resource isResource) isWhole titleWhole

end Permission

/-- All known permissions are new to an empty catalog. -/
theorem RoleStore.card_newSlugs_known {store : RoleStore} (isEmpty : store.permissions = []) :
    (store.newSlugs Permission.known).card = 50 := by
  have distinct : (Permission.known.map Permission.slug).Nodup := by decide +kernel
  have areNew : store.newSlugs Permission.known =
      (Permission.known.map Permission.slug).toFinset := by
    refine Finset.filter_true_of_mem fun slug _ => ?_
    rw [isEmpty]
    rfl
  rw [areNew, List.toFinset_card_of_nodup distinct]
  rfl

theorem RoleStore.takes_known (store : RoleStore) : store.Takes Permission.known :=
  fun _ _ _ _ isFirst => Permission.writable_of_known _ (List.mem_of_find?_eq_some isFirst)

/-! ## Adding and seeding -/

namespace Service

theorem exec_countPermissions (unplanned : system.plans = []) :
    exec countPermissions system = (.ok (.int system.roles.countPermissions), system) := by
  unfold countPermissions
  rw [exec_performedValue unplanned, exec_get_bind, exec_pure]
  rfl

theorem exec_addPermissionValues (unplanned : system.plans = []) (values : List Value) :
    exec (addPermissionValues (.list values)) system =
      ((system.roles.addPermissions values).2.map fun count : Nat => .int count,
        { system with roles := (system.roles.addPermissions values).1 }) := by
  have drawn : exec (ofDraw (Value.list values).items) system = (.ok values, system) := rfl
  unfold addPermissionValues
  rw [exec_bind_of_ok drawn, exec_addPermissions unplanned]

/-- To seed a catalog that is not empty changes nothing. -/
theorem exec_seedPermissions_of_seeded (isSeeded : system.roles.permissions ≠ []) :
    ∃ journal, exec seedPermissions system = (.ok (.int 0), { system with journal }) := by
  have some : 0 < system.roles.countPermissions := List.length_pos_iff.2 isSeeded
  unfold seedPermissions
  rw [exec_get_bind, if_pos some, exec_bind_of_ok (exec_note _ _ _ system),
    exec_pure]
  exact ⟨_, rfl⟩

/-- To seed an empty catalog adds what is known from the start. -/
theorem exec_seedPermissions_of_empty (unplanned : system.plans = [])
    (isEmpty : system.roles.permissions = []) :
    ∃ roles, system.roles.Adds Permission.known roles 50 ∧
      ∃ journal, exec seedPermissions system = (.ok (.int 50), { system with roles, journal }) := by
  obtain ⟨roles, count, added, adds⟩ :=
    (RoleStore.addPermissions_spec Permission.mapM_permissionOf_known).1 system.roles.takes_known
  have none : ¬0 < system.roles.countPermissions := by
    rw [RoleStore.countPermissions, isEmpty]
    exact Nat.lt_irrefl 0
  have isCount : count = 50 := adds.counted.trans (RoleStore.card_newSlugs_known isEmpty)
  subst isCount
  have isAdded := exec_addPermissions unplanned (Permission.known.map Permission.toValue)
  rw [added] at isAdded
  refine ⟨roles, adds, ?_⟩
  unfold seedPermissions
  rw [exec_get_bind, if_neg none, exec_bind_of_ok isAdded,
    exec_bind_of_ok (exec_note _ _ _ _), exec_pure]
  exact ⟨_, rfl⟩

end Service

/-! ## Catalogs in use -/

namespace System

theorem Supplied.trans [Host] (before : system.Supplied middle) (since : middle.Supplied after) :
    system.Supplied after := by
  induction since with
  | refl => exact before
  | call _ name arguments inductionHypothesis => exact .call inductionHypothesis name arguments
  | seed _ inductionHypothesis => exact .seed inductionHypothesis

/-- A catalog that keeps first records: it is listed with one permission for each slug, a list adds what is
new in it or is refused as a whole, and a catalog that is seeded again stays as it is. -/
structure KeepsFirst (system : System) : Prop where
  listed : ∃ listed, exec listPermissions system = (.ok listed, system) ∧ system.roles.Lists listed
  counted : exec countPermissions system = (.ok (.int system.roles.countPermissions), system)
  added : ∀ values permissions, values.mapM RoleStore.permissionOf = .ok permissions →
    system.roles.Takes permissions → ∃ roles count, system.roles.Adds permissions roles count ∧
      exec (addPermissionValues (.list values)) system = (.ok (.int count), { system with roles })
  refused : ∀ values permissions, values.mapM RoleStore.permissionOf = .ok permissions →
    ¬system.roles.Takes permissions →
      ∃ error, exec (addPermissionValues (.list values)) system = (.error error, system)
  seeded : system.roles.permissions ≠ [] →
    ∃ journal, exec seedPermissions system = (.ok (.int 0), { system with journal })
  unseeded : system.roles.permissions = [] → ∃ roles, system.roles.Adds Permission.known roles 50 ∧
    ∃ journal, exec seedPermissions system = (.ok (.int 50), { system with roles, journal })
  seededTwice : ∃ count : Nat, ∃ roles journal,
    exec seedPermissions system = (.ok (.int count), { system with roles, journal }) ∧
      ∃ later, exec seedPermissions { system with roles, journal } =
        (.ok (.int 0), { system with roles, journal := later })

theorem keepsFirst_of_sound (unplanned : system.plans = []) (sound : system.roles.Sound) :
    system.KeepsFirst where
  listed := ⟨_, exec_listPermissions unplanned, sound.lists⟩
  counted := exec_countPermissions unplanned
  added values permissions areRead takes := by
    obtain ⟨roles, count, added, adds⟩ := (RoleStore.addPermissions_spec areRead).1 takes
    refine ⟨roles, count, adds, ?_⟩
    rw [exec_addPermissionValues unplanned, added]
    rfl
  refused values permissions areRead noRoom := by
    obtain ⟨error, failed⟩ := (RoleStore.addPermissions_spec areRead).2 noRoom
    refine ⟨error, ?_⟩
    rw [exec_addPermissionValues unplanned, failed]
    rfl
  seeded := exec_seedPermissions_of_seeded
  unseeded := exec_seedPermissions_of_empty unplanned
  seededTwice := by
    by_cases isEmpty : system.roles.permissions = []
    · obtain ⟨roles, adds, journal, seeded⟩ := exec_seedPermissions_of_empty unplanned isEmpty
      refine ⟨50, roles, journal, seeded, exec_seedPermissions_of_seeded ?_⟩
      refine List.ne_nil_of_length_pos ?_
      have grown : roles.permissions.length = system.roles.countPermissions + 50 := adds.grown
      dsimp only
      omega
    · obtain ⟨journal, seeded⟩ := exec_seedPermissions_of_seeded isEmpty
      exact ⟨0, system.roles, journal, seeded, exec_seedPermissions_of_seeded isEmpty⟩

/-- While a system is in use, its catalog only grows and keeps first records. -/
theorem catalog_only_grows [Host] (unplanned : system.plans = []) (closed : system.savepoints = [])
    (sound : system.roles.Sound) (before : system.Supplied middle) (since : middle.Supplied after) :
    (∀ slug stored, middle.roles.permissions.get? slug = some stored →
      after.roles.permissions.get? slug = some stored) ∧ after.KeepsFirst := by
  have start : system.Storing RoleStore.Sound fun _ => True := ⟨unplanned, closed, sound, trivial⟩
  have later := before.keeps (fun _ _ sound step => sound.step step) start
  have last := since.keeps (fun _ _ sound step => sound.step step) later
  refine ⟨fun slug stored isThere => ?_, keepsFirst_of_sound last.unplanned last.roles⟩
  have holding : middle.Storing (fun roles => roles.permissions.get? slug = some stored)
      fun _ => True := ⟨later.unplanned, later.closed, isThere, trivial⟩
  exact (since.keeps (fun _ _ isThere step => step.get?_permissions isThere) holding).roles

/-- Three permissions: one of the shop, and two on resources of their own that have one slug. -/
def threePermissions : List Permission :=
  [Permission.of "deal" "read", Permission.of "a:b" "c", Permission.of "a" "b:c"]

theorem mapM_permissionOf_threePermissions :
    (threePermissions.map Permission.toValue).mapM RoleStore.permissionOf = .ok threePermissions := by
  have isRead {resource action : String} (isResource : resource ≠ "") (isAction : action ≠ "") :
      RoleStore.permissionOf (Permission.of resource action).toValue =
        .ok (Permission.of resource action) := by
    rw [RoleStore.permissionOf, Permission.ofValue?_of isResource isAction]
  rw [Except.mapM_eq_ok_iff]
  exact .cons (isRead (by decide) (by decide)) (.cons (isRead (by decide) (by decide))
    (.cons (isRead (by decide) (by decide)) .nil))

open scoped Host in
theorem catalog_only_grows_shop :
    let after := (exec seedPermissions shopSystem).2
    shopSystem.plans = [] ∧ shopSystem.savepoints = [] ∧ shopSystem.roles.Sound ∧
      shopSystem.Supplied shopSystem ∧ shopSystem.Supplied after ∧
      after.roles.permissions.get? "deal:read" = some (Permission.of "deal" "read") ∧
      ∃ roles, exec (addPermissionValues (.list (threePermissions.map Permission.toValue))) after =
          (.ok (.int 1), { after with roles }) ∧
        roles.permissions.get? "a:b:c" = some (Permission.of "a:b" "c") := by
  intro after
  have supplied : shopSystem.Supplied after := .seed .refl
  obtain ⟨lasts, keepsFirst⟩ := catalog_only_grows rfl rfl sound_shopSystem .refl supplied
  have inMemory : after.roles.backend = .memory := rfl
  have takes : after.roles.Takes threePermissions := by
    intro isTables
    rw [inMemory] at isTables
    cases isTables
  obtain ⟨roles, count, adds, added⟩ :=
    keepsFirst.added _ _ mapM_permissionOf_threePermissions takes
  have areNew : after.roles.newSlugs threePermissions = {"a:b:c"} := by decide +kernel
  have isOne : count = 1 := by
    rw [adds.counted, areNew, Finset.card_singleton]
  obtain ⟨first, kept, isFirst, isKept, isStored⟩ :=
    adds.new "a:b:c" (areNew ▸ Finset.mem_singleton_self _)
  have isBoth : first = Permission.of "a:b" "c" := (Option.some.inj isFirst).symm
  rw [inMemory] at isKept
  subst isOne
  refine ⟨rfl, rfl, sound_shopSystem, .refl, supplied, lasts _ _ rfl, roles, added, ?_⟩
  rw [isStored, ← isBoth, Except.ok.inj isKept]

/-- Tables raise an error for a new permission that they cannot write, and say nothing of what is new. -/
theorem unwritable_permission_is_not_counted :
    let given := Permission.of halfText "read"
    shopInTables.plans = [] ∧ shopInTables.savepoints = [] ∧ shopInTables.roles.Sound ∧
      [given.toValue].mapM RoleStore.permissionOf = .ok [given] ∧
      (shopInTables.roles.newSlugs [given]).card = 1 ∧
      ∃ error, exec (addPermissionValues (.list [given.toValue])) shopInTables =
        (.error error, shopInTables) := by
  intro given
  have isRead : [given.toValue].mapM RoleStore.permissionOf = .ok [given] := by
    have isOne : RoleStore.permissionOf given.toValue = .ok given := by
      rw [RoleStore.permissionOf, Permission.ofValue?_of (by decide +kernel) (by decide)]
    rw [Except.mapM_eq_ok_iff]
    exact .cons isOne .nil
  have isNew : shopInTables.roles.newSlugs [given] = {given.slug} := by decide +kernel
  have noRoom : ¬shopInTables.roles.Takes [given] := by
    intro takes
    have writable := takes rfl given.slug (isNew ▸ Finset.mem_singleton_self _) given
      RoleStore.first?_cons_self
    exact absurd writable.slug (by decide +kernel)
  obtain ⟨error, failed⟩ :=
    (keepsFirst_of_sound rfl accepted_shopInTables.sound).refused _ _ isRead noRoom
  exact ⟨rfl, rfl, accepted_shopInTables.sound, isRead, by rw [isNew, Finset.card_singleton], error,
    failed⟩

end System

end Authorization
