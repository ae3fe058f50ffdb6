import Authorization.Keyed
import Authorization.Store.Column
import Authorization.Store.Order

/-!
# The role store

The role store holds the catalog of permissions, the roles of all organizations, and which users hold
which roles. The catalog keeps the first permission of every slug. No two roles of an organization have
one slug. In tables a role keeps only permissions of the catalog, and a role that is held cannot be
deleted.
-/

namespace Authorization

structure RoleStore where
  backend : Backend := .memory
  permissions : Keyed String Permission := []
  roles : Keyed String Role := []
  assignments : List (Value × Value) := []

namespace RoleStore

/-! ## Permissions -/

/-- The number of permissions of the catalog. -/
def countPermissions (store : RoleStore) : Nat :=
  store.permissions.length

/-- The permissions of the catalog by resource and action. -/
def listPermissions (store : RoleStore) : List Permission :=
  sortedBy Permission.sortKey store.permissions.values

/-- A permission as it is kept. -/
def kept (backend : Backend) (permission : Permission) : Except Error Permission :=
  match backend with
  | .memory => .ok permission
  | .tables => do
    Column.encoded [.str permission.slug]
    let name ← Column.text permission.name
    let description ← Column.text permission.description
    Column.encoded [name, description]
    return { permission with name, description }

/-- Adds a permission, unless its slug is known; the answer tells whether it was new. -/
def addPermission (store : RoleStore) (permission : Permission) :
    Except Error (RoleStore × Bool) :=
  if store.permissions.has permission.slug then .ok (store, false)
  else do
    let permission ← kept store.backend permission
    return ({ store with permissions := store.permissions ++ [(permission.slug, permission)] }, true)

/-- The permission that a value is. -/
def permissionOf (value : Value) : Except Error Permission :=
  match Permission.ofValue? value with
  | some permission => .ok permission
  | none => fault .attribute ("'" ++ value.kindName ++ "' object has no attribute 'slug'")

/-- Adds permissions one after the other up to the first that cannot be added. -/
def addEach (store : RoleStore) (count : Nat) : List Value → RoleStore × Except Error Nat
  | [] => (store, .ok count)
  | value :: rest =>
    match permissionOf value >>= store.addPermission with
    | .ok (next, isNew) => addEach next (if isNew then count + 1 else count) rest
    | .error error => (store, .error error)

/-- Adds permissions and counts the new ones. In memory the permissions before a faulty one stay, in
tables all are taken back. -/
def addPermissions (store : RoleStore) (values : List Value) : RoleStore × Except Error Nat :=
  match store.backend, addEach store 0 values with
  | .tables, (_, .error error) => (store, .error error)
  | _, result => result

/-! ## Roles -/

/-- The role of an identifier. -/
def role? (store : RoleStore) (id : Value) : Except Error (Option Role) := do
  return (← store.backend.identifier id).bind store.roles.get?

/-- What keeps a role from being a member of a set. -/
def obstacle? (role : Role) : Option Value :=
  [role.isDefault, role.description].find? fun part => !part.hashable

/-- The stored roles of some identifiers, each once, in order. -/
def rolesOf (store : RoleStore) (ids : List Value) : Except Error (List Role) := do
  let known ← ids.mapM store.backend.identifier
  let found := store.roles.values.filter fun role => known.contains (some role.id)
  match store.backend, found.findSome? obstacle? with
  | .memory, some part => unhashable part
  | _, _ => return sortedBy Role.sortKey found

/-- The roles of an organization in order. -/
def rolesIn (store : RoleStore) (organization : Value) : List Role :=
  sortedBy Role.sortKey <| store.roles.values.filter fun role =>
    store.backend.matchesText role.organization organization

/-- The role of a slug in an organization. -/
def roleBySlug? (store : RoleStore) (slug organization : Value) : Option Role :=
  store.roles.values.find? fun role =>
    store.backend.matchesText role.slug slug &&
      store.backend.matchesText role.organization organization

/-- Another role of the same organization has the slug of a role. -/
def hasClash (store : RoleStore) (role : Role) : Bool :=
  store.roles.values.any fun other =>
    other.id != role.id && other.slug == role.slug && other.organization == role.organization

/-- A role as it is kept. -/
def keptRole (store : RoleStore) (role : Role) : Except Error Role :=
  match store.backend with
  | .memory => .ok role
  | .tables => do
    let description ← Column.text role.description
    let isDefault ← Column.flag role.isDefault
    Column.encoded [.str role.organization, .str role.name, .str role.slug, description]
    let isDefault ← Column.required isDefault
    Column.encoded (role.permissions.map .str)
    return { role with
      description, isDefault
      permissions := role.permissions.filter store.permissions.has }

/-- The identifier under which a role is kept. -/
def roleIdentifier (store : RoleStore) (id : String) : Except Error String := do
  match ← store.backend.identifier (.str id) with
  | some found => return found
  | none => throw (.inadmissible (.notUuid "role_id" id))

/-- Saves a role, in place of the one with its identifier. -/
def saveRole (store : RoleStore) (role : Role) : Except Error RoleStore := do
  let id ← store.roleIdentifier role.id
  let named := { role with id }
  if store.hasClash named then
    throw (.inadmissible (.roleSlugTaken role.slug role.organization))
  return { store with roles := Keyed.put id (← store.keptRole named) store.roles }

/-! ## Assignments -/

/-- A user holds a role. -/
def isHeldBy (user role : Value) (assignment : Value × Value) : Bool :=
  assignment.1.equal user && assignment.2.equal role

/-- The number of users that hold a role. -/
def holders (store : RoleStore) (role : Value) : Nat :=
  (store.assignments.filter fun assignment => assignment.2.equal role).length

/-- The number of users that hold the role of an identifier. -/
def countHolders (store : RoleStore) (id : Value) : Except Error Nat := do
  match store.backend with
  | .memory =>
    if store.assignments.isEmpty || id.hashable then return store.holders id else unhashable id
  | .tables =>
    match ← store.backend.identifier id with
    | some known => return store.holders (.str known)
    | none => return 0

/-- Deletes the role of an identifier; the answer tells whether there was one. -/
def deleteRole (store : RoleStore) (id : Value) : Except Error (RoleStore × Bool) := do
  match (← store.backend.identifier id).bind store.roles.get? with
  | none => return (store, false)
  | some role =>
    if store.backend = .tables ∧ 0 < store.holders (.str role.id) then
      fault .guarded "the role is referenced by assignments"
    else return ({ store with roles := store.roles.erase role.id }, true)

/-- A user of an assignment as it is kept. -/
def userOf (store : RoleStore) (user : Value) : Except Error Value :=
  match store.backend with
  | .memory => if user.hashable then .ok user else unhashable user
  | .tables => do
    let text ← Column.text user
    Column.encoded [text]
    return text

/-- A role of an assignment as it is kept; nothing where no role can have the identifier. -/
def assignedRole (store : RoleStore) (id : Value) : Except Error (Option Value) :=
  match store.backend with
  | .memory => if id.hashable then .ok (some id) else unhashable id
  | .tables => (store.backend.identifier id).map fun known => known.map Value.str

/-- Lets a user hold a role; the answer tells whether the user did not hold it before. -/
def assign (store : RoleStore) (user id : Value) : Except Error (RoleStore × Bool) := do
  match ← store.assignedRole id with
  | none => return (store, false)
  | some role =>
    let user ← store.userOf user
    if store.assignments.any (isHeldBy user role) then return (store, false)
    else
      if store.backend = .tables then let _ ← Column.required user
      return ({ store with assignments := store.assignments ++ [(user, role)] }, true)

/-- The assignments of a user. -/
def held (store : RoleStore) (user : Value) : List (Value × Value) :=
  store.assignments.filter fun assignment => assignment.1.equal user

/-- No role of tables can have an identifier that is none in any spelling. -/
def isForeign (store : RoleStore) (id : Value) : Bool :=
  store.backend = .tables && (id.text?.bind Text.Uuid.canonical?).isNone

/-- Takes a role from a user; the answer tells whether the user held it. -/
def revoke (store : RoleStore) (user id : Value) : Except Error (RoleStore × Bool) := do
  if store.isForeign id then return (store, false)
  let user ← store.userOf user
  if (store.held user).isEmpty then return (store, false)
  match ← store.assignedRole id with
  | none => return (store, false)
  | some role =>
    if store.assignments.any (isHeldBy user role) then
      return ({ store with
        assignments := store.assignments.filter fun found => !isHeldBy user role found }, true)
    else return (store, false)

/-- The roles that a user holds, in order. -/
def rolesHeldBy (store : RoleStore) (user : Value) : Except Error (List Value) := do
  let user ← store.userOf user
  match Value.sortEntries? ((store.held user).map fun found => (found.2, found.2)) with
  | some sorted => return sorted.map Prod.fst
  | none => fault .type "the roles of the user have no order"

/-- Every role that is held exists, as tables demand whenever a transaction ends. -/
def isConsistent (store : RoleStore) : Bool :=
  store.backend = .memory || store.assignments.all fun assignment =>
    assignment.2.asStr?.any store.roles.has

/-! ## Making a store -/

/-- The parameters of a store in memory. -/
def parameters : List Parameter :=
  [.optional "roles" .null, .optional "permissions" .null]

/-- The role that a value is. -/
def roleOf (value : Value) : Except Error Role :=
  match Role.ofValue? value with
  | some role => .ok role
  | none => fault .attribute ("'" ++ value.kindName ++ "' object has no attribute 'role_id'")

def addRole (store : RoleStore) (value : Value) : Except Error RoleStore := do
  let role ← roleOf value
  if store.roles.has role.id then throw (.inadmissible (.duplicateRoleId role.id))
  return { store with roles := store.roles ++ [(role.id, role)] }

/-- A store in memory with given roles and permissions; a later permission takes the place of an
earlier one with its slug. -/
def ofArguments (arguments : Arguments) : Except Error RoleStore := do
  let bindings ← arguments.bindTo parameters
  let permissions ← (← (bindings.value "permissions").itemsIfAny).mapM permissionOf
  let catalog : Keyed String Permission :=
    permissions.foldl (fun found permission => Keyed.put permission.slug permission found) []
  (← (bindings.value "roles").itemsIfAny).foldlM addRole { permissions := catalog }

end RoleStore

end Authorization
