import Authorization.Record.Arguments

/-!
# Access log entries

What is recorded about one decision: who asked for which action on which resource, when, and whether it
was allowed.
-/

namespace Authorization

structure AccessEntry where
  userId : String
  resource : Value
  action : Value
  allowed : Bool
  timestamp : Time.Instant
  resourceId : Value
  organization : Value
  metadata : List (Value × Value)

namespace AccessEntry

def parameters : List Parameter :=
  [.needed "user_id", .needed "resource", .needed "action", .needed "allowed",
   .needed "timestamp", .optional "resource_id" .null, .optional "organization_id" .null,
   .optional "metadata" (.dict [])]

private def timeOf (value : Value) : Except Error Time.Instant :=
  match value with
  | .instant time => .ok time
  | _ => .error (.inadmissible .entryTime)

private def allowedOf (value : Value) : Except Error Bool :=
  match value with
  | .bool flag => .ok flag
  | _ => .error (.inadmissible .entryAllowed)

/-- The entry of given fields. -/
def ofBindings (bindings : Bindings) : Except Error AccessEntry := do
  let userId ← (bindings.value "user_id").nonEmptyText "user_id"
  let allowed ← allowedOf (bindings.value "allowed")
  let timestamp ← timeOf (bindings.value "timestamp")
  let metadata ← (bindings.value "metadata").toEntries
  return ⟨userId, bindings.value "resource", bindings.value "action", allowed, timestamp,
    bindings.value "resource_id", bindings.value "organization_id", metadata⟩

/-- The entry of given arguments. -/
def ofArguments (arguments : Arguments) : Except Error AccessEntry := do
  ofBindings (← arguments.bindTo parameters)

/-- The entry as a record. -/
def toValue (entry : AccessEntry) : Value :=
  .record .entry
    [("user_id", .str entry.userId), ("resource", entry.resource), ("action", entry.action),
     ("allowed", .bool entry.allowed), ("timestamp", .instant entry.timestamp),
     ("resource_id", entry.resourceId), ("organization_id", entry.organization),
     ("metadata", .proxy entry.metadata)]

/-- The entry that a record is. -/
def ofValue? : Value → Option AccessEntry
  | .record .entry fields => (ofBindings fields).toOption
  | _ => none

end AccessEntry

end Authorization
