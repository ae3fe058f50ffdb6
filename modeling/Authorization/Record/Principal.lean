import Authorization.Record.Arguments

/-!
# Principals

The authenticated user for whom a decision is made, as it was when the decision was asked for.
-/

namespace Authorization

/-- A principal: a user with a coarse account role, an organization, the identifiers of the roles held
there, and further attributes. -/
structure Principal where
  id : String
  role : String
  organization : Option String
  roles : List Value
  attributes : List (Value × Value)

namespace Principal

def parameters : List Parameter :=
  [.needed "id", .optional "role" (.str "user"), .optional "organization_id" .null,
   .optional "roles" (.tuple []), .optional "attributes" (.dict [])]

def organizationOf (value : Value) : Except Error (Option String) :=
  match value with
  | .null => .ok none
  | .str text => .ok (some text)
  | _ => .error (.inadmissible .optionalOrganization)

def rolesOf (value : Value) : Except Error (List Value) :=
  match value with
  | .tuple items => .ok items
  | _ => .error (.inadmissible .rolesTuple)

/-- The principal of given fields. -/
def ofBindings (bindings : Bindings) : Except Error Principal := do
  let id ← (bindings.value "id").nonEmptyText "id"
  let role ← (bindings.value "role").nonEmptyText "role"
  let organization ← organizationOf (bindings.value "organization_id")
  let roles ← rolesOf (bindings.value "roles")
  return ⟨id, role, organization, roles, ← (bindings.value "attributes").toEntries⟩

/-- The principal of given arguments. -/
def ofArguments (arguments : Arguments) : Except Error Principal := do
  ofBindings (← arguments.bindTo parameters)

/-- The principal as a record. -/
def toValue (principal : Principal) : Value :=
  .record .principal
    [("id", .str principal.id), ("role", .str principal.role),
     ("organization_id", Value.ofOption principal.organization),
     ("roles", .tuple principal.roles), ("attributes", .proxy principal.attributes)]

/-- The principal that a record is. -/
def ofValue? : Value → Option Principal
  | .record .principal fields => (ofBindings fields).toOption
  | _ => none

/-- The principal as a flat mapping, for rules and scripts. Attributes never hide the fields of the
principal itself. -/
def entries (principal : Principal) : List (Value × Value) :=
  [("id", .str principal.id), ("role", .str principal.role),
   ("organization_id", Value.ofOption principal.organization),
   ("roles", .tuple principal.roles)].foldl
    (fun found (field : String × Value) => Value.store (.str field.1) field.2 found)
    principal.attributes

end Principal

end Authorization

/-!
## Attributes of a decision

Everything a rule may look at: the principal, the resource, the action and the context.
-/

namespace Authorization

structure DecisionAttributes where
  principal : Principal
  resource : Value
  action : Value
  context : List (Value × Value)

namespace DecisionAttributes

def parameters : List Parameter :=
  [.needed "principal", .optional "resource" .null, .optional "action" (.str ""),
   .optional "context" (.dict [])]

/-- The attributes of given fields. A context that counts as false is an empty one. -/
def ofBindings (bindings : Bindings) : Except Error DecisionAttributes :=
  match Principal.ofValue? (bindings.value "principal") with
  | none => .error (.wrongKind .principal)
  | some principal => do
    let context := bindings.value "context"
    let entries ← if context.truthy then context.toEntries else pure []
    return ⟨principal, bindings.value "resource", bindings.value "action", entries⟩

/-- The attributes of given arguments. -/
def ofArguments (arguments : Arguments) : Except Error DecisionAttributes := do
  ofBindings (← arguments.bindTo parameters)

/-- The attributes as a record. -/
def toValue (attributes : DecisionAttributes) : Value :=
  .record .attributes
    [("principal", attributes.principal.toValue), ("resource", attributes.resource),
     ("action", attributes.action), ("context", .proxy attributes.context)]

/-- The attributes that a record is. -/
def ofValue? : Value → Option DecisionAttributes
  | .record .attributes fields => (ofBindings fields).toOption
  | _ => none

end DecisionAttributes

end Authorization
