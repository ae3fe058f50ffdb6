import Authorization.Administration.Cleaning

/-!
# Administration of roles

Administrators of an organization create, change and delete its roles, and let users hold them. A role
of another organization is not found. A role that is held is not deleted.
-/

namespace Authorization.RoleAdministration

open Service

/-- Saves a role; what the store does not take as a value counts as a duplicate. -/
def save (role : Role) : Service Unit := do
  match ← outcome (saveRole role) with
  | .ok _ => return ()
  | .error error =>
    if error.isValueError then throw (.duplicate .role "slug" role.slug role.organization)
    else throw error

/-- The slugs of permissions, all known to the catalog. -/
def permissionsOf (slugs : Value) : Service (List String) :=
  match slugs with
  | .str _ => throw (.invalidInput .permissionList)
  | _ => resolvePermissions slugs

/-- Creates a role of an organization. -/
def create (organization name slug permissions description isDefault actor : Value) :
    Service Role := do
  let organization ← orFail (Cleaning.text "organization_id" organization)
  let name ← orFail (Cleaning.text "name" name)
  let slug ← orFail (Cleaning.slug slug)
  let description ← orFail (Cleaning.optionalText "description" description)
  let isDefault ← orFail (Cleaning.flag "is_default" isDefault)
  let permissions ← permissionsOf permissions
  if (← roleBySlug? (.str slug) (.str organization)).isSome then
    throw (.duplicate .role "slug" slug organization)
  let role : Role :=
    { id := ← newId, name, slug, organization, permissions
      isDefault := .bool isDefault, description := Value.ofOption description }
  save role
  noteChange ("Role created: " ++ role.id ++ " slug=" ++ slug) (.str organization) actor
  return role

/-- The roles of an organization by slug. -/
def list (organization : Value) : Service (List Role) := do
  let organization ← orFail (Cleaning.text "organization_id" organization)
  return sortedBy (fun role => [role.slug, role.id]) (← rolesIn (.str organization))

/-- The role of an identifier in an organization. -/
def find (organization id : Value) : Service Role := do
  match ← role? id with
  | some role =>
    if organization.equal (.str role.organization) then return role
    else throw (.notFound .role id)
  | none => throw (.notFound .role id)

/-- The fields of a role that can be changed. -/
def changeable : List String :=
  ["name", "slug", "description", "permissions", "is_default"]

/-- A new slug of a role, which no other role of the organization has. -/
def newSlug (organization : Value) (role : Role) (changes : Bindings) :
    Service (Option String) := do
  match changes.lookup "slug" with
  | none => return none
  | some value =>
    let slug ← orFail (Cleaning.slug value)
    if slug != role.slug then
      if let some other := ← roleBySlug? (.str slug) organization then
        if other.id != role.id then
          throw (.duplicate .role "slug" slug role.organization)
    return some slug

/-- Changes some fields of a role. -/
def update (organization id actor : Value) (changes : Bindings) : Service Role := do
  orFail (Cleaning.knownFields changes changeable)
  let role ← find organization id
  let name ← orFail (Cleaning.change changes "name" (Cleaning.text "name"))
  let description ← orFail
    (Cleaning.change changes "description" (Cleaning.optionalText "description"))
  let isDefault ← orFail (Cleaning.change changes "is_default" (Cleaning.flag "is_default"))
  let permissions ← match changes.lookup "permissions" with
    | none => pure none
    | some slugs => some <$> permissionsOf slugs
  let slug ← newSlug organization role changes
  let updated : Role :=
    { role with
      name := name.getD role.name
      slug := slug.getD role.slug
      permissions := permissions.getD role.permissions
      isDefault := (isDefault.map Value.bool).getD role.isDefault
      description := (description.map Value.ofOption).getD role.description }
  save updated
  noteChange ("Role updated: " ++ id.text ++ " fields=" ++
    Cleaning.changedNames (changeable.map fun field => (field, (changes.lookup field).isSome)))
    organization actor
  return updated

/-- Deletes a role that nobody holds. -/
def delete (organization id actor : Value) : Service Unit := do
  let role ← find organization id
  let holders ← countHolders (.str role.id)
  match Value.related? .greater holders (.int 0) with
  | none => orFail (fault .type "the number of holders is no number")
  | some true => throw (.referenced .role role.id (.holders holders.text))
  | some false =>
    let _ ← deleteRole (.str role.id)
    noteChange ("Role deleted: " ++ id.text) organization actor

/-- Lets a user hold a role; the answer tells whether the user did not hold it before. -/
def assign (organization user id actor : Value) : Service Value := do
  let user ← orFail (Cleaning.text "user_id" user)
  let role ← find organization id
  let changed ← Service.assign (.str user) (.str role.id)
  if changed.truthy then
    noteChange ("Role assigned: " ++ id.text ++ " -> user " ++ user) organization actor
  return changed

/-- Takes a role from a user; the answer tells whether the user held it. -/
def revoke (organization user id actor : Value) : Service Value := do
  let user ← orFail (Cleaning.text "user_id" user)
  let role ← find organization id
  let changed ← Service.revoke (.str user) (.str role.id)
  if changed.truthy then
    noteChange ("Role revoked: " ++ id.text ++ " from user " ++ user) organization actor
  return changed

end Authorization.RoleAdministration
