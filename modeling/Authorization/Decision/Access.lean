import Authorization.Decision.Basic

/-!
# Access

Access to a resource by its identifier: the instance is loaded, the decision is made and recorded. A
call without a principal is denied. A loader that fails counts as one that finds nothing, and a record
that cannot be written does not change the decision.
-/

namespace Authorization

/-- The user to whom denied calls without a principal are recorded. -/
def anonymousUser : String := "anonymous"

namespace Service

/-! ## Loading -/

/-- The key under which an instance stands in memory. -/
def instanceKey (resource id : Value) : Except Error Value := do
  let text ← id.toText
  if resource.hashable then return .tuple [resource, .str text] else unhashable resource

def noAttribute {α : Type} (kind name : String) : Service α :=
  orFail (fault .attribute ("'" ++ kind ++ "' object has no attribute '" ++ name ++ "'"))

/-- Puts an instance into the loader in memory. -/
def addInstance (resource id found : Value) : Service Unit := do
  match (← get).loader with
  | .memory instances =>
    let key ← orFail (instanceKey resource id)
    modify fun system => { system with loader := .memory (Value.store key found instances) }
  | _ => noAttribute "Loader" "add"

/-- Takes an instance out of the loader in memory; the answer tells whether there was one. -/
def removeInstance (resource id : Value) : Service Bool := do
  match (← get).loader with
  | .memory instances =>
    let key ← orFail (instanceKey resource id)
    modify fun system => { system with
      loader := .memory (instances.filter fun entry => !entry.1.equal key) }
    return !((Value.lookup? instances key).getD .null).equal .null
  | _ => noAttribute "Loader" "remove"

/-- The instance of a resource; nothing when there is none. -/
def loadInstance (resource id : Value) : Service Value := do
  match (← get).loader with
  | .absent => noAttribute "NoneType" "load"
  | .failing => throw (.raised .connection "entity service down")
  | .memory instances =>
    let key ← orFail (instanceKey resource id)
    return (Value.lookup? instances key).getD .null

def hasLoader : Loader → Bool
  | .absent => false
  | _ => true

/-- The instance for a decision. -/
def instanceFor (principal resource id : Value) : Service Value := do
  if id.equal .null || !hasLoader (← get).loader then return .null
  let loading : Service Value := do
    let _ ← readAttribute principal "organization_id"
    loadInstance resource id
  match ← outcome loading with
  | .ok found => return found
  | .error error =>
    note .warning .access ("Loading " ++ (← orFail resource.toText) ++ " '" ++ (← orFail id.toText) ++
      "' failed: " ++ (← orFail error.toLogged) ++ ". Deciding without instance.")
    return .null

/-! ## Recording -/

/-- Records an entry. -/
def recordEntry (entry : AccessEntry) : Service Unit := do
  match (← get).accessLog with
  | .absent => noAttribute "NoneType" "record"
  | .failing => throw (.raised .connection "disk full")
  | .memory latestFirst =>
    modify fun system => { system with accessLog := .memory (entry :: latestFirst) }

/-- The recorded entries of a user and a resource, the latest first; nothing stands for any. -/
def recordedEntries (user resource : Value) : Service (List AccessEntry) := do
  let isWanted (wanted found : Value) : Bool := wanted.equal .null || found.equal wanted
  match (← get).accessLog with
  | .memory latestFirst =>
    return latestFirst.filter fun entry =>
      isWanted user (.str entry.userId) && isWanted resource entry.resource
  | _ => noAttribute "NoneType" "entries"

def hasLog : AccessLog → Bool
  | .absent => false
  | _ => true

/-- Enters a decision into what is recorded. -/
def enterDecision (user organization resource action id : Value) (allowed : Bool)
    (metadata : List (String × Value)) : Service Unit := do
  let now := (← get).clock
  let idText ← match id with
    | .null => pure Value.null
    | _ => orFail (id.toText.map Value.str)
  let entry ← orFail <| AccessEntry.ofBindings
    [("user_id", user), ("resource", resource), ("action", action), ("allowed", .bool allowed),
     ("timestamp", .instant now), ("resource_id", idText), ("organization_id", organization),
     ("metadata", .dict (metadata.map fun field => (.str field.1, field.2)))]
  recordEntry entry

/-- Records a decision; a failure is noted. -/
def recordDecision (user organization resource action id : Value) (allowed : Bool)
    (metadata : List (String × Value)) : Service Unit := do
  if hasLog (← get).accessLog then
    match ← outcome (enterDecision user organization resource action id allowed metadata) with
    | .ok () => return ()
    | .error error =>
      note .error .access ("Access log write failed for '" ++ (← orFail user.toText) ++ "' on " ++
        (← orFail resource.toText) ++ ":" ++ (← orFail action.toText) ++ ": " ++
        (← orFail error.toLogged))

/-! ## Deciding -/

def metadataOf (decision : Decision) : List (String × Value) :=
  [("reason", .str decision.reason.label), ("policy_key", .str decision.key),
   ("chain_source", Value.ofOption (decision.source.map ChainSource.label))]

/-- A principal may do something to the resource of an identifier. -/
def canAccess [Host] (principal resource action id context : Value) : Service Bool := do
  match principal with
  | .null =>
    recordDecision (.str anonymousUser) .null resource action id false
      [("reason", .str "No authenticated user")]
    return false
  | _ =>
    let found ← instanceFor principal resource id
    let decision ← explain principal resource action found context
    recordDecision (← readAttribute principal "id") (← readAttribute principal "organization_id")
      resource action id decision.allowed (metadataOf decision)
    return decision.allowed

/-! ## The clock -/

def durationOf (seconds : Value) : Except Error Int :=
  match seconds with
  | .float x =>
    match Time.microsOfFloat? x with
    | some micros => .ok micros
    | none =>
      if x.isNaN then fault .value "cannot convert float NaN to integer"
      else fault .overflow "cannot convert float infinity to integer"
  | _ =>
    match seconds.asInt? with
    | some whole => .ok (Time.microsOfWhole whole)
    | none => fault .type ("unsupported type for seconds: " ++ seconds.kindName)

/-- Moves the clock by a number of seconds. -/
def advanceClock (seconds : Value) : Service Unit := do
  let micros ← orFail (durationOf seconds)
  match (← get).clock.addMicros? micros with
  | some clock => modify fun system => { system with clock }
  | none => orFail (fault .overflow "date value out of range")

end Service

end Authorization
