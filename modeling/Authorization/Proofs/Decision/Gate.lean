import Authorization.Proofs.Result
import Authorization.Proofs.Service.Run
import Authorization.Proofs.Store.Order
import Authorization.Proofs.Value

/-!
# What the gate says

The gate is passed by a bypassing account role, or by a stored role of the principal's organization, one
of those the principal holds, that grants the action. Only the second way asks the role store, and only
for a principal that holds roles at all.
-/

namespace Authorization

namespace Service

theorem exec_readAttribute {value found : Value} {name : String} (system : System)
    (isThere : value.attribute? name = some found) :
    exec (readAttribute value name) system = (.ok found, system) := by
  unfold readAttribute
  rw [isThere]
  rfl

end Service

namespace Principal

@[simp]
theorem attribute_role (principal : Principal) :
    principal.toValue.attribute? "role" = some (.str principal.role) :=
  rfl

@[simp]
theorem attribute_organization (principal : Principal) :
    principal.toValue.attribute? "organization_id" = some (Value.ofOption principal.organization) :=
  rfl

@[simp]
theorem attribute_roles (principal : Principal) :
    principal.toValue.attribute? "roles" = some (.tuple principal.roles) :=
  rfl

/-- A stored role lets a principal pass. -/
structure Opens (store : RoleStore) (principal : Principal) (resource action : String)
    (role : Role) : Prop where
  stored : role ∈ store.roles.values
  held : ∃ id ∈ principal.roles, store.backend.identifier id = .ok (some role.id)
  own : principal.organization = some role.organization
  grants : Key.join resource action ∈ role.permissions ∨
    Key.join resource "manage" ∈ role.permissions

/-- A role that has been found belongs to a principal's organization and grants an action. -/
def accepts (principal : Principal) (resource action : String) (role : Role) : Bool :=
  decide (principal.organization = some role.organization) && role.grants resource action

end Principal

namespace System

/-- What the role store answers when it is asked for roles: an error that is planned for the question,
or else the roles that are stored under the identifiers. -/
def rolesAnswer (system : System) (ids : List Value) : Except Error (List Role) :=
  match system.plans.get? .getRoles with
  | some ⟨.error error, 0⟩ => .error error
  | _ => system.roles.rolesOf ids

theorem rolesAnswer_of_unplanned {system : System} (unplanned : system.plans = []) (ids : List Value) :
    system.rolesAnswer ids = system.roles.rolesOf ids := by
  rw [rolesAnswer, unplanned]
  rfl

/-- Nothing but an error is planned for the question for roles. -/
def RolesNotForged (system : System) : Prop :=
  ∀ plan, system.plans.get? .getRoles = some plan → ∃ error, plan.effect = .error error

theorem rolesNotForged_of_unplanned {system : System} (unplanned : system.plans = []) :
    system.RolesNotForged := by
  intro plan planned
  rw [unplanned] at planned
  cases planned

/-- The answer of the gate: it is passed, it is not, or the role store fails. -/
def gate (system : System) (principal : Principal) (resource action : String) :
    Except Error Bool :=
  if principal.role ∈ system.settings.bypassRoles then .ok true
  else if principal.roles = [] then .ok false
  else (system.rolesAnswer principal.roles).map fun found =>
    found.any (principal.accepts resource action)

end System

namespace RoleStore

/-- The roles that are found are the stored ones under the identifiers. -/
theorem mem_rolesOf {store : RoleStore} {ids : List Value} {found : List Role}
    (succeeds : store.rolesOf ids = .ok found) (role : Role) :
    role ∈ found ↔ role ∈ store.roles.values ∧
      ∃ id ∈ ids, store.backend.identifier id = .ok (some role.id) := by
  unfold rolesOf at succeeds
  obtain ⟨known, identified, rest⟩ := Except.bind_eq_ok_iff.1 succeeds
  have members : role ∈ store.roles.values.filter (fun role => known.contains (some role.id)) ↔
      role ∈ store.roles.values ∧
        ∃ id ∈ ids, store.backend.identifier id = .ok (some role.id) := by
    rw [List.mem_filter, List.contains_iff_mem, Except.mem_of_mapM_eq_ok identified]
  rw [← members]
  dsimp only at rest
  split at rest
  · cases rest
  · cases rest
    exact mem_sortedBy

end RoleStore

namespace System

/-- The role store finds what is stored, when it finds anything. -/
theorem rolesOf_of_rolesAnswer {system : System} {ids : List Value} {found : List Role}
    (answer : system.rolesAnswer ids = .ok found) : system.roles.rolesOf ids = .ok found := by
  unfold rolesAnswer at answer
  split at answer
  · cases answer
  · exact answer

/-- A role among those that are found is accepted exactly when a stored role lets the principal
pass. -/
theorem any_accepts_iff {system : System} {principal : Principal} {found : List Role}
    (answer : system.rolesAnswer principal.roles = .ok found) (resource action : String) :
    found.any (principal.accepts resource action) = true ↔
      ∃ role, principal.Opens system.roles resource action role := by
  have members := RoleStore.mem_rolesOf (rolesOf_of_rolesAnswer answer)
  rw [List.any_eq_true]
  constructor
  · rintro ⟨role, member, accepted⟩
    obtain ⟨stored, held⟩ := (members role).1 member
    simp only [Principal.accepts, Role.grants, Bool.and_eq_true, decide_eq_true_eq,
      Bool.or_eq_true, List.contains_iff_mem] at accepted
    exact ⟨role, stored, held, accepted.1, accepted.2⟩
  · rintro ⟨role, opens⟩
    refine ⟨role, (members role).2 ⟨opens.stored, opens.held⟩, ?_⟩
    simp only [Principal.accepts, Role.grants, Bool.and_eq_true, decide_eq_true_eq,
      Bool.or_eq_true, List.contains_iff_mem]
    exact ⟨opens.own, opens.grants⟩

theorem not_opens_of_nil {store : RoleStore} {principal : Principal} {resource action : String}
    (none : principal.roles = []) (role : Role) :
    ¬principal.Opens store resource action role := by
  intro opens
  obtain ⟨id, member, _⟩ := opens.held
  rw [none] at member
  cases member

end System

namespace Service

/-- Asking for roles that a tuple names changes at most what is planned. -/
theorem exec_rolesOf {system : System} (notForged : system.RolesNotForged) (ids : List Value) :
    ∃ plans, exec (rolesOf (.tuple ids)) system =
      (system.rolesAnswer ids, { system with plans }) := by
  have asked (other : System) :
      exec (do
        let ids ← ofDraw (Value.tuple ids).items
        orFail ((← get).roles.rolesOf ids)) other = (other.roles.rolesOf ids, other) := by
    have items : exec (ofDraw (Value.tuple ids).items) other = (.ok ids, other) := rfl
    rw [exec_bind_of_ok items, exec_get_bind, exec_orFail]
  unfold rolesOf performed plannedOr due? System.rolesAnswer
  rcases plan : system.plans.get? .getRoles with _ | ⟨effect, after⟩
  · refine ⟨system.plans, ?_⟩
    simp only [exec_bind, exec_get, plan, exec_pure, asked]
    rcases system.roles.rolesOf ids with error | found <;> rfl
  · obtain ⟨error, rfl⟩ : ∃ error, effect = .error error := notForged _ plan
    cases after with
    | zero =>
        refine ⟨system.plans, ?_⟩
        simp only [exec_bind, exec_get, plan, exec_pure]
        rfl
    | succ left =>
        refine ⟨Keyed.put .getRoles ⟨.error error, left⟩ system.plans, ?_⟩
        simp only [exec_bind, exec_get, plan, exec_set, exec_pure, asked]
        rcases system.roles.rolesOf ids with error | found <;> rfl

/-- Picking items by a test without effects is picking them at once. -/
theorem filterM_pure {α : Type} (test : α → Bool) (items : List α) :
    items.filterM (fun item => (pure (test item) : Service Bool)) = pure (items.filter test) := by
  have picked (found : List α) :
      items.filterAuxM (fun item => (pure (test item) : Service Bool)) found =
        pure ((items.filter test).reverse ++ found) := by
    induction items generalizing found with
    | nil => rfl
    | cons item rest inductionHypothesis =>
        rw [List.filterAuxM, pure_bind, inductionHypothesis]
        cases held : test item <;> simp [List.filter, held]
  rw [List.filterM, picked, pure_bind, List.append_nil, List.reverse_reverse]

theorem letsPass_eq (principal : Principal) (resource action : String) (role : Role) :
    letsPass principal.toValue (.str resource) (.str action) role =
      pure (principal.accepts resource action role) := by
  have read : readAttribute principal.toValue "organization_id" =
      pure (Value.ofOption principal.organization) := rfl
  unfold letsPass Principal.accepts
  rw [read, pure_bind]
  have same : (Value.ofOption principal.organization).equal (.str role.organization) =
      decide (principal.organization = some role.organization) := by
    rw [Bool.eq_iff_iff, Value.equal_str_iff, decide_eq_true_iff]
    cases principal.organization <;> simp [Value.ofOption]
  rw [same]
  cases decide (principal.organization = some role.organization) <;> rfl

/-- What the gate says of a principal, and that it changes at most what is planned. -/
theorem exec_evaluatePermissions {system : System} (notForged : system.RolesNotForged)
    (principal : Principal) (resource action : String) :
    ∃ plans report, exec (evaluatePermissions principal.toValue (.str resource) (.str action))
        system = (report, { system with plans }) ∧
      report.map GateReport.allowed = system.gate principal resource action := by
  unfold evaluatePermissions System.gate
  rw [exec_bind_of_ok (exec_readAttribute system principal.attribute_role)]
  simp only [Value.hashable_str, Bool.not_true, Bool.false_eq_true, if_false, Value.asStr?,
    Option.any_some, List.contains_iff_mem]
  rw [exec_get_bind]
  by_cases bypasses : principal.role ∈ system.settings.bypassRoles
  · rw [if_pos bypasses, if_pos bypasses]
    exact ⟨system.plans, _, rfl, rfl⟩
  · rw [if_neg bypasses, if_neg bypasses,
      exec_bind_of_ok (exec_readAttribute system principal.attribute_roles)]
    by_cases none : principal.roles = []
    · rw [if_pos none, none]
      exact ⟨system.plans, _, rfl, rfl⟩
    · have truthy : (Value.tuple principal.roles).truthy = true := by
        simpa [Value.truthy, Value.length?] using none
      obtain ⟨plans, asked⟩ := exec_rolesOf notForged principal.roles
      simp only [truthy, Bool.not_true, Bool.false_eq_true, if_false]
      rw [if_neg none]
      rcases answer : system.rolesAnswer principal.roles with error | found
      · rw [answer] at asked
        rw [exec_bind_of_error asked]
        exact ⟨plans, _, rfl, rfl⟩
      · rw [answer] at asked
        have filtered : found.filterM (letsPass principal.toValue (.str resource) (.str action)) =
            (pure (found.filter (principal.accepts resource action)) : Service (List Role)) := by
          rw [funext (letsPass_eq principal resource action), filterM_pure]
        rw [exec_bind_of_ok asked, filtered, pure_bind]
        rcases granting : found.filter (principal.accepts resource action) with _ | ⟨role, rest⟩
        · have noneOpens : found.any (principal.accepts resource action) = false :=
            List.any_eq_false.2 (List.filter_eq_nil_iff.1 granting)
          rw [Except.map, noneOpens]
          exact ⟨plans, _, rfl, rfl⟩
        · have member : role ∈ found.filter (principal.accepts resource action) := by
            rw [granting]
            exact List.mem_cons_self
          have oneOpens : found.any (principal.accepts resource action) = true :=
            List.any_eq_true.2 ⟨role, List.mem_filter.1 member⟩
          rw [Except.map, oneOpens]
          exact ⟨plans, _, rfl, rfl⟩

end Service

end Authorization
