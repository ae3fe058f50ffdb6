import Authorization.Decision.Access
import Authorization.Record.Arguments

/-!
# Procedures

How a procedure takes its arguments and replies, and the procedures of decisions.
-/

/-!
## Arguments and replies

The system offers its operations to callers who know them by their names only. A procedure takes the
arguments of a call, finds the value of each parameter, and replies.
-/

namespace Authorization

/-- What a procedure replies. -/
inductive Reply where
  | value (found : Value)
  | gate (report : GateReport)
  | decision (made : Decision)
  | chain (found : Option PolicyChain)
  | report (made : ChainReport)
  | snapshot (published : Snapshot)
  | ruleTypes (known : List RuleClass)

namespace Reply

/-- The reply that there is nothing to tell. -/
def nothing : Reply :=
  .value .null

/-- A truth value as a reply. -/
def flag (answer : Bool) : Reply :=
  .value (.bool answer)

/-- A record as a reply. -/
def record {α : Type} (write : α → Value) (found : α) : Reply :=
  .value (write found)

/-- Records as a reply. -/
def records {α : Type} (write : α → Value) (found : List α) : Reply :=
  .value (Service.tupleValue write found)

/-- A record as a reply, if there is one. -/
def recordIfAny {α : Type} (write : α → Value) (found : Option α) : Reply :=
  .value (Service.optionalValue write found)

end Reply

/-- An operation that takes arguments. -/
abbrev Procedure := Arguments → Service Reply

namespace Procedure

open Service

/-- A procedure with parameters. -/
def of (parameters : List Parameter) (action : Bindings → Service Reply) : Procedure :=
  fun arguments => do action (← orFail (arguments.bindTo parameters))

/-- A procedure without parameters. -/
def plain (action : Service Reply) : Procedure :=
  of [] fun _ => action

/-- An operation of a store as a procedure. What is planned for the operation happens whatever the
arguments are. -/
def ofStore (operation : StoreOperation) (parameters : List Parameter)
    (action : Bindings → Service Reply) : Procedure := fun arguments => do
  match ← due? operation with
  | some effect => return .value (← orFail effect)
  | none => unplanned operation (of parameters action arguments)

/-- A change of a record as a procedure. The identifiers of the record come first and the actor may
follow; all other named arguments are changes. -/
def ofChange (identifiers : Nat)
    (action : List Value → Value → Bindings → Service Reply) : Procedure := fun arguments => do
  let given := arguments.positional.drop identifiers
  let parameters := [Parameter.optional "actor_id" .null]
  let (actors, changes) := arguments.named.partition fun argument => argument.1 == "actor_id"
  let bindings ← orFail (Arguments.bindTo ⟨given, actors⟩ parameters)
  if arguments.positional.length < identifiers then
    orFail (fault .type "an identifier is missing")
  action (arguments.positional.take identifiers) (bindings.value "actor_id") changes

end Procedure

end Authorization

/-!
## Procedures of decisions

The gate, the chains in force, decisions with and without loading, and what surrounds them: the catalog
of permissions, the resources in memory, the access log and the clock.
-/

namespace Authorization.Procedure

open Service

/-- The parameters of a decision. -/
def asked : List Parameter :=
  [.needed "principal", .needed "resource_type", .needed "action"]

/-! ### Permissions -/

def permissionOf : Procedure :=
  of [.needed "slug"] fun given =>
    .recordIfAny Permission.toValue <$> permission? (given.value "slug")

def slugFor : Procedure :=
  of [.needed "resource", .needed "action"] fun given => do
    return .value (.str (← orFail (keyOf (given.value "resource") (given.value "action"))))

def resolved : Procedure :=
  of [.needed "slugs"] fun given => do
    return .value (.set true ((← resolvePermissions (given.value "slugs")).map Value.str))

def gate (given : Bindings) : Service GateReport :=
  evaluatePermissions (given.value "principal") (given.value "resource_type") (given.value "action")

/-- The procedures of the catalog of permissions and of the gate. -/
def ofPermissions : List (String × Procedure) :=
  [("catalog.list_permissions", plain (.records Permission.toValue <$> listPermissions)),
   ("catalog.get", permissionOf),
   ("catalog.slug_for", slugFor),
   ("catalog.resolve", resolved),
   ("evaluator.evaluate", of asked fun given => .gate <$> gate given),
   ("evaluator.has_permission", of asked fun given => do return .flag (← gate given).allowed)]

/-! ### Chains and decisions -/

/-- The procedures of the registry. -/
def ofRegistry [Host] : List (String × Procedure) :=
  [("registry.chain_for", of [.needed "key", .needed "organization_id"] fun given =>
     .chain <$> chainFor (given.value "key") (given.value "organization_id")),
   ("registry.chain_for_policy", of [.needed "policy_id"] fun given =>
     .chain <$> chainForPolicy (given.value "policy_id")),
   ("registry.static_keys", plain do
     return .value (.tuple ((← get).registry.fixedKeys.map Value.str))),
   ("registry.reload", plain (.snapshot <$> reload))]

/-- A decision about an instance that is at hand. -/
def decided {α : Type} (decision : Value → Value → Value → Value → Value → Service α)
    (given : Bindings) : Service α :=
  decision (given.value "principal") (given.value "resource_type") (given.value "action")
    (given.value "instance") (given.value "context")

def onInstance : List Parameter :=
  asked ++ [.optional "instance" .null, .optional "context" .null]

def access [Host] : Procedure :=
  of (asked ++ [.optional "resource_id" .null, .optional "context" .null]) fun given =>
    .flag <$> canAccess (given.value "principal") (given.value "resource_type")
      (given.value "action") (given.value "resource_id") (given.value "context")

/-- The procedures that decide. -/
def ofDecisions [Host] : List (String × Procedure) :=
  [("orchestrator.decide", of onInstance fun given => .flag <$> decided allows given),
   ("orchestrator.explain", of onInstance fun given => .decision <$> decided explain given),
   ("service.can_access", access)]

/-! ### Resources, the access log and the clock -/

def place : List Parameter :=
  [.needed "resource_type", .needed "resource_id"]

def addResource : Procedure :=
  of (place ++ [.needed "instance"]) fun given => do
    addInstance (given.value "resource_type") (given.value "resource_id") (given.value "instance")
    return .nothing

def removeResource : Procedure :=
  of place fun given =>
    .flag <$> removeInstance (given.value "resource_type") (given.value "resource_id")

def loadResource : Procedure :=
  of (place ++ [.needed "organization_id"]) fun given =>
    .value <$> loadInstance (given.value "resource_type") (given.value "resource_id")

def record : Procedure :=
  of [.needed "entry"] fun given => do
    match AccessEntry.ofValue? (given.value "entry") with
    | some entry => recordEntry entry
    | none => throw (.wrongKind .entry)
    return .nothing

def entriesOf : Procedure :=
  of [.optional "user_id" .null, .optional "resource" .null] fun given =>
    .records AccessEntry.toValue <$> recordedEntries (given.value "user_id") (given.value "resource")

/-- The procedures of what surrounds decisions. -/
def ofSurroundings : List (String × Procedure) :=
  [("loader.add", addResource),
   ("loader.remove", removeResource),
   ("loader.load", loadResource),
   ("log.record", record),
   ("log.entries", entriesOf),
   ("clock.now_utc", plain do return .value (.instant (← get).clock)),
   ("clock.advance", of [.needed "seconds"] fun given => do
     advanceClock (given.value "seconds")
     return .nothing)]

end Authorization.Procedure
