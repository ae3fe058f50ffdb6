import Authorization.Decision.Basic

/-!
# Assembly

A system is put together from its parts: two stores, settings, where resources come from and decisions
go to, a clock and a source of identifiers. The catalog of permissions is seeded if that is wanted, the
registry listens to the policy store and reads it for the first time, and the log tells what is ready.
-/

namespace Authorization

/-- What a system is put together from. -/
structure Parts where
  roles : RoleStore := {}
  policies : PolicyStore := {}
  settings : Settings := {}
  loader : Loader := .memory []
  accessLog : AccessLog := .memory []
  clock : Time.Instant
  ids : IdStyle := .numbered
  isSeeded : Bool := true

namespace RoleStore

/-- Tables whose catalog already lists the known permissions. -/
def seededTables : RoleStore :=
  { backend := .tables
    permissions := Permission.known.map fun permission => (permission.slug, permission) }

end RoleStore

/-- A clock that starts at an instant; it has to know its distance from universal time. -/
def Time.Instant.asClock (start : Time.Instant) : Except Error Time.Instant :=
  if start.offset.isSome then .ok start else .error (.inadmissible .clockWithoutZone)

namespace Service

/-- What the log says of a stored policy that is rejected from the start. -/
def warning (issue : BuildIssue) : LogRecord :=
  ⟨.warning, .bootstrap, "Dynamic policy '" ++ issue.policyKey ++ "' of organization '" ++
    issue.organization ++ "' is rejected: " ++ issue.message⟩

/-- What the log says of a system that is ready. -/
def readiness (settings : Settings) (registry : Registry) : LogRecord :=
  let roles := settings.bypassRoles.mergeSort textsInOrder
  ⟨.info, .bootstrap, "Access control ready: " ++ Number.intText registry.snapshot.fixed.length ++
    " static policies, " ++ Number.intText registry.snapshot.stored.length ++
    " dynamic chains, bypass roles=" ++ (Value.list (roles.map Value.str)).written⟩

/-- Brings a new system to work. -/
def start [Host] (isSeeded : Bool) (fixed : LogRecord) : Service Unit := do
  if isSeeded then let _ ← seedPermissions
  noteAll (RuleCatalog.builtinRecords ++ [fixed])
  listen .registry
  let snapshot ← reload
  noteAll (snapshot.errors.map warning)
  let system ← get
  noteAll [readiness system.settings system.registry]

/-- Puts a system together. -/
def assemble [Host] (parts : Parts) : Except Error System := do
  let (registry, fixed) ← Registry.ofTable (.builtin parts.settings.limits) .standard
  let system : System :=
    { roles := parts.roles, policies := parts.policies, registry
      settings := parts.settings, loader := parts.loader, accessLog := parts.accessLog
      clock := parts.clock, ids := { spell := parts.ids.spell } }
  let (result, system) := exec (start parts.isSeeded fixed) system
  result.map fun _ => system

end Service

end Authorization
