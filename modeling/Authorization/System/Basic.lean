import Authorization.Error.Basic
import Authorization.Keyed
import Authorization.Record.Entry
import Authorization.Registry.Basic
import Authorization.Settings
import Authorization.Store.Policy
import Authorization.Store.Role

/-!
# Operations of the stores

The names of what the two stores offer. An operation may be replaced for a while: a plan makes it fail
or answer with a given value, after some calls have been let through. Plans stand for a store that is
out of order.
-/

namespace Authorization

/-- An operation of the role store or of the policy store. -/
inductive StoreOperation where
  | countPermissions | addPermissions | listPermissions
  | getRole | getRoles | listRoles | findRoleBySlug | saveRole | deleteRole
  | countRoleAssignments | addAssignment | removeAssignment | getUserRoleIds
  | listPolicies | getPolicy | findPolicyByKey | savePolicy | deletePolicy
  | listRules | getRule | countRules | saveRules | deleteRule | subscribe
deriving DecidableEq, Repr

namespace StoreOperation

/-- All operations with the names of their store and their own. -/
def listing : List (StoreOperation × String) :=
  [(.countPermissions, "role_store.count_permissions"),
   (.addPermissions, "role_store.add_permissions"),
   (.listPermissions, "role_store.list_permissions"),
   (.getRole, "role_store.get_role"),
   (.getRoles, "role_store.get_roles"),
   (.listRoles, "role_store.list_roles"),
   (.findRoleBySlug, "role_store.find_role_by_slug"),
   (.saveRole, "role_store.save_role"),
   (.deleteRole, "role_store.delete_role"),
   (.countRoleAssignments, "role_store.count_role_assignments"),
   (.addAssignment, "role_store.add_assignment"),
   (.removeAssignment, "role_store.remove_assignment"),
   (.getUserRoleIds, "role_store.get_user_role_ids"),
   (.listPolicies, "policy_store.list_policies"),
   (.getPolicy, "policy_store.get_policy"),
   (.findPolicyByKey, "policy_store.find_policy_by_key"),
   (.savePolicy, "policy_store.save_policy"),
   (.deletePolicy, "policy_store.delete_policy"),
   (.listRules, "policy_store.list_rules"),
   (.getRule, "policy_store.get_rule"),
   (.countRules, "policy_store.count_rules"),
   (.saveRules, "policy_store.save_rules"),
   (.deleteRule, "policy_store.delete_rule"),
   (.subscribe, "policy_store.subscribe")]

/-- The name of an operation. -/
def label (operation : StoreOperation) : String :=
  (listing.lookup operation).getD ""

/-- The operation of a name. -/
def ofLabel? (label : String) : Option StoreOperation :=
  (listing.find? fun entry => entry.2 == label).map Prod.fst

end StoreOperation

/-- What an operation does in place of its work, after some calls. -/
structure Plan where
  effect : Except Error Value
  after : Nat := 0

end Authorization

/-!
## The system

The state that all parts of access control share: the two stores, the registry, the settings, where
resources are loaded from and decisions are recorded to, the clock, the source of identifiers, who
listens to changes of policies, and the journal. A `Service` is something that works on this state and
may fail; a failure undoes nothing by itself.
-/

namespace Authorization

/-- Where resources are loaded from. Instances in memory stand under pairs of a resource type and a
text. -/
inductive Loader where
  | absent
  | failing
  | memory (instances : List (Value × Value))

/-- Where decisions are recorded to; in memory the latest entry comes first. -/
inductive AccessLog where
  | absent
  | failing
  | memory (latestFirst : List AccessEntry)

/-- How new identifiers are spelled. -/
inductive IdStyle where
  | numbered | universal
deriving DecidableEq, Repr

/-- The identifier of a number. -/
def IdStyle.spell (style : IdStyle) (number : Nat) : String :=
  match style with
  | .numbered => "id-" ++ Number.intText number
  | .universal =>
    let digits := Number.intText number
    "00000000-0000-0000-0000-" ++ String.ofList (List.replicate (12 - digits.length) '0') ++ digits

/-- The source of new identifiers: how every number is spelled, and how many have been drawn. No
number is drawn twice. -/
structure IdSource where
  spell : Nat → String := IdStyle.numbered.spell
  drawn : Nat := 0

/-- Who is told of changes of policies. -/
inductive Listener where
  | registry
  | counter
  | function (tag : Nat)
deriving DecidableEq, Repr

/-- What a transaction goes back to when it is taken back: the stores, and how many notifications were
waiting. -/
structure Savepoint where
  roles : RoleStore
  policies : PolicyStore
  waiting : Nat

structure System where
  roles : RoleStore
  policies : PolicyStore
  registry : Registry
  settings : Settings := {}
  loader : Loader := .memory []
  accessLog : AccessLog := .memory []
  clock : Time.Instant
  ids : IdSource := {}
  listeners : List Listener := []
  counted : Nat := 0
  plans : Keyed StoreOperation Plan := []
  savepoints : List Savepoint := []
  waiting : Nat := 0
  journal : Journal := {}

/-- Something that works on the state of the system and may fail. -/
abbrev Service := ExceptT Error (StateM System)

namespace Service

/-- Carries an action out on a system: its result or error, and the system after it. -/
def exec {α : Type} (action : Service α) (system : System) : Except Error α × System :=
  Id.run ((ExceptT.run action).run system)

/-- The result of a computation, or its error. -/
def orFail {α : Type} : Except Error α → Service α
  | .ok value => pure value
  | .error error => throw error

/-- Something that leaves traces in the journal. -/
def journaled {α : Type} (action : Journaled α) : Service α := do
  let system ← get
  let (result, journal) := Id.run (action.run system.journal)
  set { system with journal }
  return result

/-- Something that leaves traces in the journal and may fail; the traces stay. -/
def judged {α : Type} (action : Judged α) : Service α := do
  orFail (← journaled action.run)

/-- An operation on values that may take items from one-shot sequences. -/
def ofDraw {α : Type} (draw : Draw α) : Service α := do
  orFail (← journaled (Journaled.ofDraw draw))

/-- Writes a log record. -/
def note (level : LogLevel) (source : LogSource) (message : String) : Service Unit :=
  journaled (Journaled.note level source message)

/-- Writes log records. -/
def noteAll (records : List LogRecord) : Service Unit :=
  records.forM fun record => note record.level record.source record.message

/-- What an action comes to; its traces stay when it fails. -/
def outcome {α : Type} (action : Service α) : Service (Except Error α) := do
  let (result, system) := exec action (← get)
  set system
  return result

/-- Draws a new identifier. -/
def newId : Service String := do
  let system ← get
  let number := system.ids.drawn + 1
  set { system with ids := { system.ids with drawn := number } }
  return system.ids.spell number

/-! ## Operations of the stores -/

/-- The plan for an operation, if it is due; it counts the calls that it lets through. -/
def due? (operation : StoreOperation) : Service (Option (Except Error Value)) := do
  let system ← get
  match system.plans.get? operation with
  | none => return none
  | some plan =>
    match plan.after with
    | 0 => return some plan.effect
    | left + 1 =>
      set { system with plans := Keyed.put operation { plan with after := left } system.plans }
      return none

/-- An operation of a store, or the value that is planned in its place. -/
def plannedOr {α : Type} (operation : StoreOperation) (action : Service α) :
    Service (Value ⊕ α) := do
  match ← due? operation with
  | some effect => return .inl (← orFail effect)
  | none => return .inr (← action)

/-- An operation of a store; a planned value has to be read as its result. -/
def performed {α : Type} (operation : StoreOperation) (read : Value → Except Error α)
    (action : Service α) : Service α := do
  match ← plannedOr operation action with
  | .inl value => orFail (read value)
  | .inr result => return result

/-- An operation of a store whose result is used as a value. -/
def performedValue {α : Type} (operation : StoreOperation) (write : α → Value)
    (action : Service α) : Service Value := do
  match ← plannedOr operation action with
  | .inl value => return value
  | .inr result => return write result

/-- An operation of a store itself, with what is planned for it set aside. -/
def unplanned {α : Type} (operation : StoreOperation) (action : Service α) : Service α := do
  let plan? := (← get).plans.get? operation
  modify fun system => { system with plans := system.plans.erase operation }
  let result ← outcome action
  if let some plan := plan? then
    modify fun system => { system with plans := Keyed.put operation plan system.plans }
  orFail result

end Service

end Authorization
