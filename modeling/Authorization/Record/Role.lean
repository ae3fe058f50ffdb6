import Authorization.Key
import Authorization.Record.Arguments
import Authorization.Text.Case
import Authorization.Value.Attribute

/-!
# Permissions and roles

What a role may allow, and the roles of organizations.
-/

/-!
## Permissions

What a role may allow: an action on a resource. Its slug is the key of the two; a name and a description
are made up when none is given.
-/

namespace Authorization

structure Permission where
  resource : String
  action : String
  slug : String
  name : Value
  description : Value

namespace Permission

def parameters : List Parameter :=
  [.needed "resource", .needed "action", .optional "slug" (.str ""), .optional "name" (.str ""),
   .optional "description" (.str "")]

/-- The permission of a resource and an action with made-up texts. -/
def of (resource action : String) : Permission :=
  { resource, action
    slug := Key.join resource action
    name := .str (Text.capitalize action ++ " " ++ resource)
    description := .str ("Permission to " ++ action ++ " " ++ resource) }

/-- The permission of given fields. -/
def ofBindings (bindings : Bindings) : Except Error Permission := do
  let resource ← (bindings.value "resource").nonEmptyText "resource"
  let action ← (bindings.value "action").nonEmptyText "action"
  let made := Permission.of resource action
  let slug := bindings.value "slug"
  if slug.truthy && !slug.equal (.str made.slug) then
    throw (.inadmissible (.slugMismatch (← slug.toText) made.slug))
  let orMade (given made : Value) : Value := if given.truthy then given else made
  return { made with
    name := orMade (bindings.value "name") made.name
    description := orMade (bindings.value "description") made.description }

/-- The permission of given arguments. -/
def ofArguments (arguments : Arguments) : Except Error Permission := do
  ofBindings (← arguments.bindTo parameters)

/-- The permission as a record. -/
def toValue (permission : Permission) : Value :=
  .record .permission
    [("resource", .str permission.resource), ("action", .str permission.action),
     ("slug", .str permission.slug), ("name", permission.name),
     ("description", permission.description)]

/-- The permission that a record is. -/
def ofValue? : Value → Option Permission
  | .record .permission fields => (ofBindings fields).toOption
  | _ => none

/-- The permission covers every action on its resource. -/
def isWildcard (permission : Permission) : Bool :=
  permission.action == Value.wildcardAction

/-- The order of permissions: by resource, then by action. -/
def sortKey (permission : Permission) : List String :=
  [permission.resource, permission.action]

end Permission

end Authorization

/-!
## Roles

A role belongs to an organization and holds permissions by their slugs. A permission for the wildcard
action on a resource covers every action on it.
-/

namespace Authorization

structure Role where
  id : String
  name : String
  slug : String
  organization : String
  permissions : List String
  isDefault : Value
  description : Value

namespace Role

def parameters : List Parameter :=
  [.needed "role_id", .needed "name", .needed "slug", .needed "organization_id",
   .optional "permissions" (.set true []), .optional "is_default" (.bool false),
   .optional "description" .null]

def slugOf (value : Value) : Except Error String :=
  match value with
  | .str text => if Key.isSlug text then .ok text else .error (.inadmissible .roleSlug)
  | _ => .error (.inadmissible .roleSlug)

def permissionTexts : List Value → Except Error (List String)
  | [] => .ok []
  | value :: rest =>
    match value.nonEmptyText? with
    | some text => (permissionTexts rest).map (text :: ·)
    | none => .error (.inadmissible .permissionValues)

/-- The role of given fields. -/
def ofBindings (bindings : Bindings) : Except Error Role := do
  let id ← (bindings.value "role_id").nonEmptyText "role_id"
  let name ← (bindings.value "name").nonEmptyText "name"
  let slug ← slugOf (bindings.value "slug")
  let organization ← (bindings.value "organization_id").nonEmptyText "organization_id"
  let permissions ← permissionTexts (← (bindings.value "permissions").toMembers)
  return ⟨id, name, slug, organization, permissions, bindings.value "is_default",
    bindings.value "description"⟩

/-- The role of given arguments. -/
def ofArguments (arguments : Arguments) : Except Error Role := do
  ofBindings (← arguments.bindTo parameters)

/-- The role as a record. -/
def toValue (role : Role) : Value :=
  .record .role
    [("role_id", .str role.id), ("name", .str role.name), ("slug", .str role.slug),
     ("organization_id", .str role.organization),
     ("permissions", .set true (role.permissions.map Value.str)),
     ("is_default", role.isDefault), ("description", role.description)]

/-- The role that a record is. -/
def ofValue? : Value → Option Role
  | .record .role fields => (ofBindings fields).toOption
  | _ => none

/-- The role holds a permission of the key, or the wildcard permission of the resource. -/
def grants (role : Role) (resource action : String) : Bool :=
  role.permissions.contains (Key.join resource action) ||
    role.permissions.contains (Key.join resource Value.wildcardAction)

/-- The order of roles: by organization, slug and identifier. -/
def sortKey (role : Role) : List String :=
  [role.organization, role.slug, role.id]

end Role

end Authorization
