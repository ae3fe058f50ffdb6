import Authorization.Proofs.Administration.Effects
import Authorization.Proofs.Administration.Roles
import Authorization.Proofs.Store.Assignments

/-!
# What calls on roles change

With a role store in memory, a role that is created is added, one that is changed keeps its identifier and
its organization, and one that is deleted is taken away. To assign or to revoke a role settles whether one
user holds it.
-/

namespace Authorization

open Service

variable {system after : System}

/-- With nothing planned, a sound role store is in memory. -/
structure System.RolesInMemory (system : System) : Prop where
  unplanned : system.plans = []
  sound : system.roles.Sound
  backend : system.roles.backend = .memory

/-- A system in use that was put together with a role store in memory. -/
theorem System.Reaches.rolesInMemory [Host] {parts : Parts} {start : System} (roles : parts.roles.Accepted)
    (inMemory : parts.roles.backend = .memory) (assembled : assemble parts = .ok start)
    (ids : IdSource) (reaches : System.Reaches { start with ids } system) :
    system.RolesInMemory := by
  have roleSteps (store next : RoleStore) (holds : store.Sound ∧ store.backend = .memory)
      (step : store.Step next) : next.Sound ∧ next.backend = .memory :=
    ⟨holds.1.step step, (step.sameBackend holds.1).trans holds.2⟩
  have started := @System.Storing.of_assemble _ (fun _ => True) roleSteps _ _ _
    ⟨roles.sound, inMemory⟩ trivial assembled
  have storing := reaches.keeps (System.Storing.lasting roleSteps fun _ _ _ _ => trivial)
    ⟨started.unplanned, started.closed, started.roles, started.policies⟩
  exact ⟨storing.unplanned, storing.roles.1, storing.roles.2⟩

/-! ## Reading -/

/-- A system with nothing planned has gone on to one that differs by its journal at most. -/
structure System.OnlyLogs (base system : System) : Prop where
  unplanned : base.plans = []
  logged : ∃ journal, system = { base with journal }

theorem System.ofUnplanned_onlyLogs (base : System) : OfUnplanned base.OnlyLogs where
  unplanned := by
    rintro _ ⟨unplanned, journal, rfl⟩
    exact unplanned
  journal := by
    rintro _ later ⟨unplanned, journal, rfl⟩
    exact ⟨unplanned, later, rfl⟩

/-- An action that only logs leaves a system as it was, but for its journal. -/
theorem Service.logged_of_exec {α : Type} {action : Service α} {result : Except Error α}
    (executed : exec action system = (result, after)) (unplanned : system.plans = [])
    (keeps : ∀ base : System, Keeps base.OnlyLogs action) :
    ∃ journal, after = { system with journal } := by
  have kept := keeps system system ⟨unplanned, system.journal, rfl⟩
  rw [executed] at kept
  exact kept.logged

namespace RoleAdministration

variable {organization id actor : Value} {changes : Bindings} {role updated : Role}

/-! ## Steps -/

/-- A role in memory stands under an identifier, in the organization that it is of. -/
structure Finds (system : System) (organization id : Value) (role : Role) : Prop where
  stored : system.roles.roles.get? role.id = some role
  isNamed : id = .str role.id
  isOwn : organization = .str role.organization

theorem find_eq_ok_iff (inMemory : system.RolesInMemory) :
    exec (find organization id) system = (.ok role, after) ↔
      Finds system organization id role ∧ after = system := by
  unfold find
  constructor
  · intro succeeds
    obtain ⟨found, asked, succeeds⟩ := exec_read (exec_role? inMemory.unplanned id) succeeds
    cases found with
    | none => cases succeeds
    | some found =>
        dsimp only at succeeds
        split at succeeds
        · rename_i isHere
          cases succeeds
          obtain ⟨stored, isNamed⟩ :=
            (RoleStore.role?_memory_iff inMemory.backend inMemory.sound).1 asked
          exact ⟨⟨stored, isNamed, (Value.equal_str_iff _ _).1 isHere⟩, rfl⟩
        · cases succeeds
  · rintro ⟨⟨stored, rfl, rfl⟩, rfl⟩
    have asked := exec_role? inMemory.unplanned (.str role.id)
    rw [(RoleStore.role?_memory_iff inMemory.backend inMemory.sound).2 ⟨stored, rfl⟩] at asked
    rw [exec_bind_of_ok asked]
    dsimp only
    rw [if_pos ((Value.equal_str_iff _ _).2 rfl), exec_pure]

/-- Where something is done with a role that is found, the role is there. -/
theorem exec_found (inMemory : system.RolesInMemory) {α : Type} {next : Role → Service α} {result : α}
    (succeeds : exec (find organization id >>= next) system = (.ok result, after)) :
    ∃ role, Finds system organization id role ∧ exec (next role) system = (.ok result, after) := by
  obtain ⟨role, middle, looking, goesOn⟩ := exec_bind_eq_ok succeeds
  obtain ⟨finds, rfl⟩ := (find_eq_ok_iff inMemory).1 looking
  exact ⟨role, finds, goesOn⟩

/-- A role that is saved in memory and logged is exchanged for the one under its identifier. -/
theorem effect_of_save {message : String}
    (succeeds : exec (do
      save role
      noteChange message organization actor
      return role) system = (.ok updated, after))
    (unplanned : system.plans = []) (inMemory : system.roles.backend = .memory)
    {before : Option Role} (found : system.roles.roles.get? role.id = before) :
    updated = role ∧ system.ExchangesRole after role.id before (some role) := by
  obtain ⟨⟨⟩, middle, saving, succeeds⟩ := exec_bind_eq_ok succeeds
  obtain ⟨⟨⟩, last, noting, succeeds⟩ := exec_bind_eq_ok succeeds
  cases succeeds
  obtain ⟨line, rfl⟩ := logged_of_noteChange noting
  unfold save Service.saveRole at saving
  rw [exec_bind_of_ok (exec_outcome _ system), exec_performedValue unplanned,
    exec_changeRoles] at saving
  cases saved : system.roles.saveRole role with
  | error error =>
      rw [saved] at saving
      dsimp only [Except.map, answered] at saving
      split at saving <;> cases saving
  | ok next =>
      rw [saved] at saving
      cases saving
      obtain rfl := RoleStore.saveRole_memory inMemory saved
      exact ⟨rfl, Keyed.exchanged_put found role, rfl, rfl, rfl⟩

/-- A slug that is found right is the one among the changes, cleaned. -/
theorem change_of_newSlug {slug? : Option String}
    (succeeds : exec (newSlug organization role changes) system = (.ok slug?, after)) :
    Cleaning.change changes "slug" Cleaning.slug = .ok slug? := by
  unfold newSlug at succeeds
  unfold Cleaning.change
  cases isGiven : changes.lookup "slug" with
  | none =>
    rw [isGiven] at succeeds
    cases succeeds
    rfl
  | some given =>
    rw [isGiven] at succeeds
    obtain ⟨slug, isSlug, succeeds⟩ := exec_checked succeeds
    dsimp only
    rw [isSlug]
    split at succeeds
    · obtain ⟨other, middle, _, succeeds⟩ := exec_bind_eq_ok succeeds
      split at succeeds
      · split at succeeds
        · obtain ⟨_, _, thrown, _⟩ := exec_bind_eq_ok succeeds
          cases thrown
        · cases succeeds
          rfl
      · cases succeeds
        rfl
    · cases succeeds
      rfl

/-! ## Roles -/

/-- The fields of a role that is created are what is given for them, cleaned. -/
structure IsCreated (system : System) (organization name slug permissions description isDefault : Value)
    (role : Role) : Prop where
  organization : Cleaning.text "organization_id" organization = .ok role.organization
  name : Cleaning.text "name" name = .ok role.name
  slug : Cleaning.slug slug = .ok role.slug
  permissions : (exec (permissionsOf permissions) system).1 = .ok role.permissions
  isDefault : (Cleaning.flag "is_default" isDefault).map Value.bool = .ok role.isDefault
  description : (Cleaning.optionalText "description" description).map Value.ofOption =
    .ok role.description

/-- The fields of a role are those that it had, but for the changed ones, which are cleaned. -/
structure IsUpdated (system : System) (changes : Bindings) (role updated : Role) : Prop where
  known : ∀ given ∈ changes, given.1 ∈ changeable
  id : updated.id = role.id
  organization : updated.organization = role.organization
  name : Cleaning.Replaced changes "name" (Cleaning.text "name") role.name updated.name
  slug : Cleaning.Replaced changes "slug" Cleaning.slug role.slug updated.slug
  permissions : Cleaning.Replaced changes "permissions"
    (fun slugs => (exec (permissionsOf slugs) system).1) role.permissions updated.permissions
  isDefault : Cleaning.Replaced changes "is_default"
    (fun given => (Cleaning.flag "is_default" given).map Value.bool) role.isDefault updated.isDefault
  description : Cleaning.Replaced changes "description"
    (fun given => (Cleaning.optionalText "description" given).map Value.ofOption) role.description
    updated.description

/-- No role has the identifier that is due. -/
theorem absent_of_fresh (inMemory : system.RolesInMemory) (fresh : system.FreshIds) :
    system.roles.roles.get? (system.ids.spell (system.ids.drawn + 1)) = none := by
  cases found : system.roles.roles.get? (system.ids.spell (system.ids.drawn + 1)) with
  | none => rfl
  | some role =>
      have identified : system.roles.backend.identifier
          (.str (system.ids.spell (system.ids.drawn + 1))) =
            .ok (some (system.ids.spell (system.ids.drawn + 1))) := by
        rw [inMemory.backend, Backend.identifier_memory_iff]
      have unused := fresh.roles.unused _ _ (Nat.lt_succ_self _) identified
      exact absurd (.inl ⟨role, Keyed.mem_values_of_get? found, inMemory.sound.roles.key_eq found⟩) unused

/-- What creating a role does. -/
theorem effect_of_create (inMemory : system.RolesInMemory) (fresh : system.FreshIds)
    {name slug permissions description isDefault : Value}
    (succeeds : exec (create organization name slug permissions description isDefault actor) system =
      (.ok role, after)) :
    IsCreated system organization name slug permissions description isDefault role ∧
      system.ExchangesRole after role.id none (some role) := by
  unfold create at succeeds
  obtain ⟨owner, isOwner, succeeds⟩ := exec_checked succeeds
  obtain ⟨named, isNamed, succeeds⟩ := exec_checked succeeds
  obtain ⟨called, isCalled, succeeds⟩ := exec_checked succeeds
  obtain ⟨described, isDescribed, succeeds⟩ := exec_checked succeeds
  obtain ⟨flag, isFlag, succeeds⟩ := exec_checked succeeds
  obtain ⟨granted, middle, resolved, succeeds⟩ := exec_bind_eq_ok succeeds
  obtain ⟨journal, rfl⟩ := logged_of_exec resolved inMemory.unplanned fun base =>
    keeps_permissionsOf base.ofUnplanned_onlyLogs permissions
  obtain ⟨known, _, succeeds⟩ :=
    exec_read (@exec_roleBySlug? { system with journal } inMemory.unplanned _ _) succeeds
  split at succeeds
  · obtain ⟨_, _, thrown, _⟩ := exec_bind_eq_ok succeeds
    cases thrown
  rw [exec_bind_of_ok (exec_newId _)] at succeeds
  have isNew := absent_of_fresh inMemory fresh
  obtain ⟨rfl, exchanged⟩ := effect_of_save succeeds inMemory.unplanned inMemory.backend isNew
  refine ⟨⟨isOwner, isNamed, isCalled, ?_, ?_, ?_⟩, exchanged.role, exchanged.permissions,
    exchanged.assignments, exchanged.policies⟩
  · rw [resolved]
  · rw [isFlag]
    rfl
  · rw [isDescribed]
    rfl

section

variable {name slug? : Option String} {description : Option (Option String)} {isDefault : Option Bool}
  {permissions : Option (List String)}

/-- A role with the fields that changes give it, where they have been found right. -/
theorem isUpdated_of_changes (areKnown : Cleaning.knownFields changes changeable = .ok ())
    (isName : Cleaning.change changes "name" (Cleaning.text "name") = .ok name)
    (isSlug : Cleaning.change changes "slug" Cleaning.slug = .ok slug?)
    (arePermissions : Cleaning.change changes "permissions"
      (fun slugs => (exec (permissionsOf slugs) system).1) = .ok permissions)
    (isFlag : Cleaning.change changes "is_default" (Cleaning.flag "is_default") = .ok isDefault)
    (isDescription : Cleaning.change changes "description" (Cleaning.optionalText "description") =
      .ok description) (role : Role) :
    IsUpdated system changes role { role with
      name := name.getD role.name
      slug := slug?.getD role.slug
      permissions := permissions.getD role.permissions
      isDefault := (isDefault.map Value.bool).getD role.isDefault
      description := (description.map Value.ofOption).getD role.description } where
  known _ member := Cleaning.mem_of_knownFields areKnown member
  id := rfl
  organization := rfl
  name := Cleaning.replaced_of_change isName role.name
  slug := Cleaning.replaced_of_change isSlug role.slug
  permissions := Cleaning.replaced_of_change arePermissions role.permissions
  isDefault := Cleaning.replaced_of_change (Cleaning.change_map isFlag Value.bool) role.isDefault
  description :=
    Cleaning.replaced_of_change (Cleaning.change_map isDescription Value.ofOption) role.description

end

/-- What changing a role does. -/
theorem effect_of_update (inMemory : system.RolesInMemory)
    (succeeds : exec (update organization id actor changes) system = (.ok updated, after)) :
    ∃ role, Finds system organization id role ∧ IsUpdated system changes role updated ∧
      system.ExchangesRole after role.id (some role) (some updated) := by
  unfold update at succeeds
  obtain ⟨⟨⟩, areKnown, succeeds⟩ := exec_checked succeeds
  obtain ⟨role, finds, succeeds⟩ := exec_found inMemory succeeds
  obtain ⟨name, isName, succeeds⟩ := exec_checked succeeds
  obtain ⟨description, isDescription, succeeds⟩ := exec_checked succeeds
  obtain ⟨isDefault, isFlag, succeeds⟩ := exec_checked succeeds
  dsimp only at succeeds
  -- What follows is the same whether permissions are among the changes or not.
  have finish {permissions : Option (List String)} {journal : Journal}
      (arePermissions : Cleaning.change changes "permissions"
        (fun slugs => (exec (permissionsOf slugs) system).1) = .ok permissions)
      (succeeds : exec (do
        let slug ← newSlug organization role changes
        let updated : Role :=
          { role with
            name := name.getD role.name
            slug := slug.getD role.slug
            permissions := permissions.getD role.permissions
            isDefault := (isDefault.map Value.bool).getD role.isDefault
            description := (description.map Value.ofOption).getD role.description }
        save updated
        noteChange ("Role updated: " ++ id.text ++ " fields=" ++ Cleaning.changedNames
          (changeable.map fun field => (field, (changes.lookup field).isSome))) organization actor
        return updated) { system with journal } = (.ok updated, after)) :
      IsUpdated system changes role updated ∧
        system.ExchangesRole after role.id (some role) (some updated) := by
    obtain ⟨slug?, middle, slugging, succeeds⟩ := exec_bind_eq_ok succeeds
    have isSlug := change_of_newSlug slugging
    obtain ⟨later, rfl⟩ := logged_of_exec slugging inMemory.unplanned fun base =>
      keeps_newSlug base.ofUnplanned_onlyLogs organization role changes
    obtain ⟨rfl, exchanged⟩ := effect_of_save succeeds inMemory.unplanned inMemory.backend finds.stored
    exact ⟨isUpdated_of_changes areKnown isName isSlug arePermissions isFlag isDescription role,
      exchanged.role, exchanged.permissions, exchanged.assignments, exchanged.policies⟩
  refine ⟨role, finds, ?_⟩
  split at succeeds
  · rename_i isMissing
    rw [exec_bind_of_ok (exec_pure _ system)] at succeeds
    refine finish ?_ succeeds
    rw [Cleaning.change, isMissing]
  · rename_i slugs isGiven
    obtain ⟨permissions, middle, resolved, succeeds⟩ := exec_bind_eq_ok succeeds
    obtain ⟨granted, granting, rfl⟩ := exec_map_eq_ok resolved
    obtain ⟨journal, rfl⟩ := logged_of_exec granting inMemory.unplanned fun base =>
      keeps_permissionsOf base.ofUnplanned_onlyLogs slugs
    refine finish ?_ succeeds
    rw [Cleaning.change, isGiven]
    dsimp only
    rw [granting]
    rfl

/-- What deleting a role does. -/
theorem effect_of_delete (inMemory : system.RolesInMemory)
    (succeeds : exec (delete organization id actor) system = (.ok (), after)) :
    ∃ role, Finds system organization id role ∧
      system.ExchangesRole after role.id (some role) none := by
  have deleting := succeeds
  unfold delete at deleting
  obtain ⟨role, finds, _⟩ := exec_found inMemory deleting
  have looked : exec (find organization id) system = (.ok role, system) :=
    (find_eq_ok_iff inMemory).2 ⟨finds, rfl⟩
  rw [exec_delete inMemory.unplanned inMemory.sound (Keyed.mem_values_of_get? finds.stored) looked] at succeeds
  split at succeeds
  · obtain ⟨line, rfl⟩ := logged_of_noteChange succeeds
    exact ⟨role, finds, Keyed.exchanged_erase finds.stored, rfl, rfl, rfl⟩
  · cases succeeds

/-! ## Assignments -/

/-- What an operation on assignments answers is logged or not. -/
theorem logged_of_answer {message : String} {answer result : Value}
    (succeeds : exec (do
      if answer.truthy then noteChange message organization actor
      return answer) system = (.ok result, after)) :
    result = answer ∧ ∃ journal, after = { system with journal } := by
  split at succeeds
  · obtain ⟨⟨⟩, last, noting, succeeds⟩ := exec_bind_eq_ok succeeds
    cases succeeds
    obtain ⟨line, rfl⟩ := logged_of_noteChange noting
    exact ⟨rfl, _, rfl⟩
  · cases succeeds
    exact ⟨rfl, _, rfl⟩

/-- A user holds a role after a call or does not, and nothing else that is stored is changed. -/
structure Settles (system after : System) (organization user id : Value) (role : Role)
    (holder : String) (isHeld : Bool) : Prop where
  finds : Finds system organization id role
  isHolder : Cleaning.text "user_id" user = .ok holder
  settled : system.roles.Settled after.roles holder role.id isHeld
  policies : after.policies = system.policies

/-- What letting a user hold a role does. -/
theorem effect_of_assign (inMemory : system.RolesInMemory) {user answer : Value}
    (succeeds : exec (assign organization user id actor) system = (.ok answer, after)) :
    ∃ role holder isNew, Settles system after organization user id role holder true ∧
      answer = .bool isNew ∧
      (isNew = true ↔ (Value.str holder, Value.str role.id) ∉ system.roles.assignments) := by
  unfold assign at succeeds
  obtain ⟨holder, isHolder, succeeds⟩ := exec_checked succeeds
  obtain ⟨role, finds, succeeds⟩ := exec_found inMemory succeeds
  obtain ⟨changed, middle, assigning, succeeds⟩ := exec_bind_eq_ok succeeds
  obtain ⟨rfl, journal, rfl⟩ := logged_of_answer succeeds
  have member := Keyed.mem_values_of_get? finds.stored
  unfold Service.assign at assigning
  rw [exec_performedValue inMemory.unplanned, exec_assign inMemory.sound member] at assigning
  rcases assigned : system.roles.assign (.str holder) (.str role.id) with error | ⟨next, isNew⟩
  · rw [assigned] at assigning
    cases assigning
  · rw [assigned] at assigning
    cases assigning
    obtain ⟨tells, settled⟩ := RoleStore.settled_of_assign (inMemory.sound.kept role member) assigned
    exact ⟨role, holder, isNew, ⟨finds, isHolder, settled, rfl⟩, rfl, tells⟩

/-- What taking a role from a user does. -/
theorem effect_of_revoke (inMemory : system.RolesInMemory) {user answer : Value}
    (succeeds : exec (revoke organization user id actor) system = (.ok answer, after)) :
    ∃ role holder wasHeld, Settles system after organization user id role holder false ∧
      answer = .bool wasHeld ∧
      (wasHeld = true ↔ (Value.str holder, Value.str role.id) ∈ system.roles.assignments) := by
  unfold revoke at succeeds
  obtain ⟨holder, isHolder, succeeds⟩ := exec_checked succeeds
  obtain ⟨role, finds, succeeds⟩ := exec_found inMemory succeeds
  obtain ⟨changed, middle, revoking, succeeds⟩ := exec_bind_eq_ok succeeds
  obtain ⟨rfl, journal, rfl⟩ := logged_of_answer succeeds
  have member := Keyed.mem_values_of_get? finds.stored
  unfold Service.revoke at revoking
  rw [exec_performedValue inMemory.unplanned, exec_changeRoles] at revoking
  rcases revoked : system.roles.revoke (.str holder) (.str role.id) with error | ⟨next, wasHeld⟩
  · rw [revoked] at revoking
    cases revoking
  · rw [revoked] at revoking
    cases revoking
    obtain ⟨tells, settled⟩ := RoleStore.settled_of_revoke (inMemory.sound.kept role member) revoked
    exact ⟨role, holder, wasHeld, ⟨finds, isHolder, settled, rfl⟩, rfl, tells⟩

end RoleAdministration

end Authorization
