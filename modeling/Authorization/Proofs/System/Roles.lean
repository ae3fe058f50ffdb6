import Authorization.Proofs.Administration.Roles

/-!
# Roles that only administrators change

A role store that starts with a catalog and without roles, and that only administrators work on while
permissions are seeded and added, stays in order: every role grants permissions of the catalog only, slugs
are plain and apart, and every role that is held exists. So a role can be deleted exactly when nobody holds
it.
-/

namespace Authorization

open Service

/-- The systems that requests on roles lead to, with permissions seeded and added in between. A request
that fails leads somewhere as well. -/
inductive System.Tended [Host] (system : System) : System → Prop
  | refl : Tended system system
  | request {middle : System} {request : AdminRequest} (tended : Tended system middle)
      (onRoles : request.isOnRoles = true) : Tended system (exec request.perform middle).2
  | seed {middle : System} (tended : Tended system middle) :
      Tended system (exec seedPermissions middle).2
  | addPermissions {middle : System} (tended : Tended system middle) (permissions : Value) :
      Tended system (exec (addPermissionValues permissions) middle).2

/-- The roles of a system are in order, and a role can be deleted exactly when nobody holds it, by whoever
can be written in the log. -/
structure System.InOrder (system : System) : Prop where
  granted : ∀ role ∈ system.roles.roles.values, ∀ slug ∈ role.permissions,
    ∃ permission ∈ system.roles.permissions.values, permission.slug = slug
  isSlug : ∀ role ∈ system.roles.roles.values,
    role.slug ≠ "" ∧ ∀ c ∈ role.slug.toList, Key.isSlugChar c = true
  apart : system.roles.SlugsApart
  held : ∀ assignment ∈ system.roles.assignments,
    ∃ role ∈ system.roles.roles.values, assignment.2 = .str role.id
  deleted : ∀ role ∈ system.roles.roles.values, ∀ id,
    system.roles.role? id = .ok (some role) → ∀ actor written, actor.toText = .ok written →
      ((exec (RoleAdministration.delete (.str role.organization) id actor) system).1 = .ok () ↔
        ∀ assignment ∈ system.roles.assignments, assignment.2 ≠ .str role.id)
  refused : ∀ role ∈ system.roles.roles.values, ∀ id,
    system.roles.role? id = .ok (some role) → ∀ actor,
      (∃ assignment ∈ system.roles.assignments, assignment.2 = .str role.id) →
        ∃ holders, exec (RoleAdministration.delete (.str role.organization) id actor) system =
          (.error (.referenced .role role.id (.holders holders)), system)

variable {system after : System} {isText : String → Prop}

namespace System

/-! ## The catalog grows -/

/-- The roles of a system are administered, with whatever catalog there is. -/
def IsTended (isText : String → Prop) (system : System) : Prop :=
  ∃ catalog, system.Administered isText catalog

theorem ofUnplanned_isTended : OfUnplanned (IsTended isText) where
  unplanned := fun _ ⟨_, administered⟩ => administered.unplanned
  journal := fun system journal ⟨catalog, administered⟩ =>
    ⟨catalog, ofUnplanned_administered.journal system journal administered⟩

theorem keeps_addPermissions_isTended (permissions : List Value) :
    Keeps (IsTended isText) (Service.addPermissions permissions) := by
  rintro system ⟨catalog, administered⟩
  rw [exec_addPermissions administered.unplanned]
  exact ⟨_, administered.unplanned, administered.ids, rfl,
    administered.roles.addPermissions permissions⟩

theorem keeps_seedPermissions_isTended : Keeps (IsTended isText) seedPermissions := by
  refine keeps_get.bind fun system => ?_
  split
  · exact (ofUnplanned_isTended.note _ _ _).bind fun _ => keeps_pure _
  · exact (keeps_addPermissions_isTended _).bind fun created =>
      (ofUnplanned_isTended.note _ _ _).bind fun _ => keeps_pure created

theorem Tended.isTended [Host] (tended : system.Tended after) (start : system.IsTended fun _ => True) :
    after.IsTended fun _ => True := by
  induction tended with
  | refl => exact start
  | request tended onRoles inductionHypothesis =>
      obtain ⟨catalog, administered⟩ := inductionHypothesis
      exact ⟨catalog, AdminRequest.keeps_administered (fun _ _ => trivial) onRoles
        (fun _ _ => trivial) _ administered⟩
  | seed tended inductionHypothesis => exact keeps_seedPermissions_isTended _ inductionHypothesis
  | addPermissions tended permissions inductionHypothesis =>
      exact (ofUnplanned_isTended.ofDraw _).bind (fun _ => keeps_addPermissions_isTended _) _
        inductionHypothesis

/-! ## Order -/

/-- A role is found by every identifier that stands for it, in its own organization. -/
theorem exec_find_own (unplanned : system.plans = []) {role : Role} {id : Value}
    (isNamed : system.roles.role? id = .ok (some role)) :
    exec (RoleAdministration.find (.str role.organization) id) system = (.ok role, system) := by
  have isOwn : (Value.str role.organization).equal (.str role.organization) = true :=
    (Value.equal_str_iff _ _).2 rfl
  unfold RoleAdministration.find
  rw [exec_bind, exec_role? unplanned, isNamed]
  dsimp only
  rw [if_pos isOwn, exec_pure]

theorem Administered.inOrder {catalog : Keyed String Permission}
    (administered : system.Administered isText catalog) : system.InOrder where
  granted role member slug isGranted :=
    administered.roles.permissions.has_iff.1 ((administered.roles.proper role member).granted slug
      isGranted)
  isSlug role member := by
    have isRun := (administered.roles.proper role member).isRun
    rw [Key.isRun, Bool.and_eq_true, List.all_eq_true] at isRun
    refine ⟨fun isEmpty => ?_, isRun.2⟩
    rw [isEmpty] at isRun
    exact Bool.false_ne_true isRun.1
  apart := administered.roles.apart
  held := administered.roles.held
  deleted role member id isNamed actor written isWritten := by
    have isFound := exec_find_own administered.unplanned isNamed
    rw [RoleAdministration.exec_delete administered.unplanned administered.roles.sound member isFound,
      ← RoleStore.assignmentsTo_eq_nil_iff]
    by_cases unheld : system.roles.assignmentsTo role.id = []
    · rw [if_pos unheld, exec_noteChange isWritten]
      exact ⟨fun _ => unheld, fun _ => rfl⟩
    · rw [if_neg unheld]
      exact ⟨fun isDeleted => (by cases isDeleted), fun isUnheld => absurd isUnheld unheld⟩
  refused role member id isNamed actor := by
    rintro ⟨assignment, isThere, isHeld⟩
    have isFound := exec_find_own administered.unplanned isNamed
    have notUnheld : system.roles.assignmentsTo role.id ≠ [] := fun unheld =>
      RoleStore.assignmentsTo_eq_nil_iff.1 unheld assignment isThere isHeld
    rw [RoleAdministration.exec_delete administered.unplanned administered.roles.sound member isFound,
      if_neg notUnheld]
    exact ⟨_, rfl⟩

/-- A store that starts with any catalog and without roles stays in order, in memory and in tables,
whatever administrators ask for about roles and whenever permissions are seeded or added, successfully or
not. -/
theorem inOrder_of_tended [Host] (unplanned : system.plans = [])
    (canonical : ∀ number, Backend.tables.Keeps (system.ids.spell number))
    (indexed : system.roles.permissions.Indexed Permission.slug)
    (noRoles : system.roles.roles = []) (noAssignments : system.roles.assignments = [])
    (tended : system.Tended after) : after.InOrder := by
  have start : system.IsTended fun _ => True := ⟨system.roles.permissions, unplanned, canonical, rfl,
    RoleStore.administered_of_empty indexed noRoles noAssignments⟩
  obtain ⟨catalog, administered⟩ := tended.isTended start
  exact administered.inOrder

/-- A system with one permission, where identifiers are spelled as they are kept. -/
def shopSystem : System :=
  { roles := { permissions := [("deal:read", Permission.of "deal" "read")] }
    policies := {}
    registry := ⟨.builtin {}, { version := 0 }⟩
    clock := ⟨0, some 0⟩
    ids := { spell := fun number => Text.Uuid.text (number % 2 ^ 128) } }

/-- The identifier of the first role of the shop. -/
def shopId : String :=
  "00000000-0000-0000-0000-000000000001"

/-- The shop makes a role and gives it to a user. -/
def shopAfter [Host] : System :=
  let created := exec (AdminRequest.call (.str "shop") (.createRole (.str "Sales") (.str " SALES")
    (.list [.str "deal:read"]) .null (.bool false) .null)).perform shopSystem
  (exec (AdminRequest.call (.str "shop") (.assignRole (.str "u1") (.str shopId) .null)).perform
    created.2).2

theorem keeps_shop (number : Nat) : Backend.tables.Keeps (shopSystem.ids.spell number) := by
  have bound : number % 2 ^ 128 < 2 ^ 128 := Nat.mod_lt _ (by decide)
  have isRead := Text.Uuid.read?_text bound
  rw [Backend.Keeps, Backend.identifier_str]
  exact congrArg (fun found => Except.ok (found.map Text.Uuid.text)) isRead

open scoped Host in
theorem inOrder_shopAfter :
    shopSystem.plans = [] ∧ (∀ number, Backend.tables.Keeps (shopSystem.ids.spell number)) ∧
      shopSystem.roles.permissions.Indexed Permission.slug ∧ shopSystem.roles.roles = [] ∧
      shopSystem.roles.assignments = [] ∧ shopSystem.Tended shopAfter ∧ shopAfter.InOrder ∧
      shopAfter.roles.assignments.map (fun held => held.2.asStr?) = [some shopId] := by
  have indexed : shopSystem.roles.permissions.Indexed Permission.slug :=
    ⟨List.nodup_singleton _, List.forall_mem_singleton.2 rfl⟩
  have tended : shopSystem.Tended shopAfter := (Tended.refl.request rfl).request rfl
  exact ⟨rfl, keeps_shop, indexed, rfl, rfl, tended,
    inOrder_of_tended rfl keeps_shop indexed rfl rfl tended, by decide +kernel⟩

end System

end Authorization
