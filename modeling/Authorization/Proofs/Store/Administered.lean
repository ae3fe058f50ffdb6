import Authorization.Proofs.Store.Interchange
import Authorization.Proofs.System.Slugs
import Authorization.Proofs.Tenancy.Roles
import Authorization.Proofs.Text.Case

/-!
# Administered role stores

Administrators give roles proper contents: permissions of the catalog, a slug that is a plain run, and
fields of the kinds of their columns. In a store where all roles are proper, slugs are apart and every role
that is held exists, what administrators do with the store leaves it so, in memory as in tables.
-/

namespace Authorization

/-- A role as administrators make them, with texts of some property. -/
structure Role.Proper (isText : String → Prop) (catalog : Keyed String Permission)
    (role : Role) : Prop where
  keeps : Backend.tables.Keeps role.id
  isRun : Key.isRun role.slug.toList = true
  granted : ∀ slug ∈ role.permissions, catalog.has slug = true
  texts : ∀ text, .str text ∈ [Value.str role.organization, .str role.name, role.description] →
    isText text
  isText : ∃ text? : Option String, role.description = Value.ofOption text?
  isFlag : ∃ flag, role.isDefault = .bool flag

variable {isText : String → Prop} {catalog : Keyed String Permission} {role : Role}

theorem Role.Proper.mono {grown : Keyed String Permission} (proper : role.Proper isText catalog)
    (grows : ∀ slug, catalog.has slug = true → grown.has slug = true) : role.Proper isText grown :=
  ⟨proper.keeps, proper.isRun, fun slug member => grows slug (proper.granted slug member),
    proper.texts, proper.isText, proper.isFlag⟩

/-- A proper role with proper changes. -/
theorem Role.Proper.updated (proper : role.Proper isText catalog) {name slug : Option String}
    {permissions : Option (List String)} {isDefault : Option Bool}
    {description : Option (Option String)} (isName : ∀ text, name = some text → isText text)
    (isSlug : ∀ text, slug = some text → Key.isRun text.toList = true)
    (granted : ∀ slugs, permissions = some slugs → ∀ slug ∈ slugs, catalog.has slug = true)
    (isDescription : ∀ text, description = some (some text) → isText text) :
    Role.Proper isText catalog
      { role with
        name := name.getD role.name
        slug := slug.getD role.slug
        permissions := permissions.getD role.permissions
        isDefault := (isDefault.map Value.bool).getD role.isDefault
        description := (description.map Value.ofOption).getD role.description } where
  keeps := proper.keeps
  isRun := by
    cases slug with
    | none => exact proper.isRun
    | some slug => exact isSlug slug rfl
  granted := by
    cases permissions with
    | none => exact proper.granted
    | some slugs => exact granted slugs rfl
  texts := by
    intro text member
    simp only [List.mem_cons, List.not_mem_nil, or_false] at member
    rcases member with isOrganization | isNamed | isDescribed
    · exact proper.texts text (isOrganization ▸ .head _)
    · cases name with
      | none => exact proper.texts text (isNamed ▸ .tail _ (.head _))
      | some name => exact isName text (congrArg some (Value.str.inj isNamed).symm)
    · cases description with
      | none => exact proper.texts text (isDescribed ▸ .tail _ (.tail _ (.head _)))
      | some described =>
          cases described with
          | none => cases isDescribed
          | some described =>
              cases isDescribed
              exact isDescription _ rfl
  isText := by
    cases description with
    | none => exact proper.isText
    | some described => exact ⟨described, rfl⟩
  isFlag := by
    cases isDefault with
    | none => exact proper.isFlag
    | some flag => exact ⟨flag, rfl⟩

namespace RoleStore

/-- The catalog and the roles stand under their own keys, roles are proper and their slugs apart, and
every role that is held exists. -/
structure Administered (isText : String → Prop) (store : RoleStore) : Prop where
  permissions : store.permissions.Indexed Permission.slug
  roles : store.roles.Indexed Role.id
  proper : ∀ role ∈ store.roles.values, role.Proper isText store.permissions
  apart : store.SlugsApart
  held : ∀ assignment ∈ store.assignments,
    ∃ role ∈ store.roles.values, assignment.2 = .str role.id

variable {store next : RoleStore}

/-- A store with a catalog and nothing else. -/
theorem administered_of_empty (indexed : store.permissions.Indexed Permission.slug)
    (noRoles : store.roles = []) (noAssignments : store.assignments = []) :
    store.Administered isText := by
  have noValues : store.roles.values = [] := by
    rw [noRoles]
    rfl
  refine ⟨indexed, ?_, ?_, ?_, ?_⟩
  · rw [noRoles]
    exact .nil
  · rw [noValues]
    exact List.forall_mem_nil _
  · intro role member
    rw [noValues] at member
    cases member
  · rw [noAssignments]
    exact List.forall_mem_nil _

namespace Administered

variable (administered : store.Administered isText)

include administered

theorem keeps (member : role ∈ store.roles.values) : store.backend.Keeps role.id :=
  Backend.keeps_of_tables (administered.proper role member).keeps store.backend

theorem sound : store.Sound where
  permissions := administered.permissions
  roles := administered.roles
  kept _ member := administered.keeps member
  consistent _ := administered.held

end Administered

/-! ## Saving roles -/

/-- Texts of a role that are written to columns; there are none in memory. -/
def writing (store : RoleStore) (role : Role) : Except Error Unit :=
  match store.backend with
  | .memory => .ok ()
  | .tables => do
    Column.encoded [.str role.organization, .str role.name, .str role.slug, role.description]
    Column.encoded (role.permissions.map .str)

/-- A proper role is kept as it is, when its texts can be written. -/
theorem keptRole_of_proper (proper : role.Proper isText store.permissions) :
    store.keptRole role = (store.writing role).map fun _ => role := by
  obtain ⟨text?, isText⟩ := proper.isText
  obtain ⟨flag, isFlag⟩ := proper.isFlag
  have described : Column.text role.description = .ok role.description := by
    rw [isText]
    cases text? <;> rfl
  have allGranted : role.permissions.filter store.permissions.has = role.permissions :=
    List.filter_eq_self.2 proper.granted
  unfold keptRole writing
  cases store.backend with
  | memory => rfl
  | tables =>
      dsimp only
      rw [described, isFlag, Column.flag_bool, allGranted, Except.ok_bind, Except.ok_bind]
      rcases Column.encoded [.str role.organization, .str role.name, .str role.slug, role.description]
        with error | done
      · rfl
      rw [Except.ok_bind, Except.ok_bind, Column.required_bool, Except.ok_bind]
      rcases Column.encoded (role.permissions.map .str) with error | done
      · rfl
      · exact congrArg (fun isDefault => Except.ok { role with isDefault }) isFlag.symm

theorem writing_of_whole
    (whole : ∀ text, .str text ∈ [Value.str role.organization, .str role.name, .str role.slug,
      role.description] → Text.holdsHalf text = false)
    (permissionsWhole : ∀ slug ∈ role.permissions, Text.holdsHalf slug = false) :
    store.writing role = .ok () := by
  have slugsWhole : ∀ text, Value.str text ∈ role.permissions.map Value.str →
      Text.holdsHalf text = false := by
    intro text member
    obtain ⟨slug, slugMember, same⟩ := List.mem_map.1 member
    cases same
    exact permissionsWhole text slugMember
  unfold writing
  cases store.backend with
  | memory => rfl
  | tables =>
      dsimp only
      rw [Column.encoded_eq_ok_iff.2 whole, Except.ok_bind, Column.encoded_eq_ok_iff.2 slugsWhole]

/-- A proper role that is saved is put in as it is. -/
theorem saveRole_eq_ok_of_proper (proper : role.Proper isText store.permissions)
    (saved : store.saveRole role = .ok next) :
    store.hasClash role = false ∧
      next = { store with roles := Keyed.put role.id role store.roles } := by
  have keeps := Backend.keeps_of_tables proper.keeps store.backend
  obtain ⟨kept, identified, isKept, _, _, noClash, grown⟩ := saveRole_eq_ok saved
  have sameId : kept.id = role.id := keeps.eq identified
  rw [sameId, keptRole_of_proper proper] at isKept
  obtain ⟨_, _, same⟩ := Except.map_eq_ok_iff.1 isKept
  rw [← same] at noClash grown
  exact ⟨noClash, grown⟩

theorem Administered.saveRole (administered : store.Administered isText)
    (proper : role.Proper isText store.permissions) (saved : store.saveRole role = .ok next) :
    next.Administered isText ∧ next.permissions = store.permissions := by
  obtain ⟨noClash, grown⟩ := saveRole_eq_ok_of_proper proper saved
  have apart := administered.apart.put administered.sound noClash
  rw [grown]
  refine ⟨⟨administered.permissions, administered.roles.put role, ?_, apart, ?_⟩, rfl⟩
  · intro other member
    rcases administered.roles.mem_values_put.1 member with isRole | ⟨old, _⟩
    · rw [isRole]
      exact proper
    · exact administered.proper other old
  · intro assignment member
    obtain ⟨holder, holderMember, isHeld⟩ := administered.held assignment member
    by_cases same : holder.id = role.id
    · rw [same] at isHeld
      exact ⟨role, administered.roles.mem_values_put.2 (.inl rfl), isHeld⟩
    · exact ⟨holder, administered.roles.mem_values_put.2 (.inr ⟨holderMember, same⟩), isHeld⟩

/-! ## Deleting roles -/

/-- Without a role that nobody holds, no role that is held is missing. -/
theorem Administered.erase (administered : store.Administered isText) {id : String}
    (unheld : store.assignmentsTo id = []) :
    Administered isText { store with roles := store.roles.erase id } := by
  have old {other : Role} (member : other ∈ Keyed.values (store.roles.erase id)) :
      other ∈ store.roles.values := (administered.roles.mem_values_erase.1 member).1
  refine ⟨administered.permissions, administered.roles.erase id, ?_, ?_, ?_⟩
  · exact fun other member => administered.proper other (old member)
  · exact administered.apart.of_subset fun other member => old member
  · intro assignment member
    obtain ⟨holder, holderMember, isHeld⟩ := administered.held assignment member
    have notGone : holder.id ≠ id := by
      intro same
      rw [same] at isHeld
      exact assignmentsTo_eq_nil_iff.1 unheld assignment member isHeld
    exact ⟨holder, administered.roles.mem_values_erase.2 ⟨holderMember, notGone⟩, isHeld⟩

/-! ## Assignments -/

theorem Administered.assign (administered : store.Administered isText)
    (member : role ∈ store.roles.values) {user : Value} {answer : Bool}
    (assigned : store.assign user (.str role.id) = .ok (next, answer)) :
    next.Administered isText ∧ next.permissions = store.permissions := by
  rcases assign_eq_ok assigned with ⟨same, _⟩ | ⟨given, kept, isRole, _, _, grown, _⟩
  · rw [same]
    exact ⟨administered, rfl⟩
  · rw [assignedRole_str (administered.keeps member)] at isRole
    cases isRole
    rw [grown]
    refine ⟨⟨administered.permissions, administered.roles, administered.proper, administered.apart,
      fun assignment assignmentMember => ?_⟩, rfl⟩
    rcases List.mem_append.1 assignmentMember with old | new
    · exact administered.held assignment old
    · rw [List.mem_singleton.1 new]
      exact ⟨role, member, rfl⟩

theorem Administered.revoke (administered : store.Administered isText) {user id : Value}
    {answer : Bool} (revoked : store.revoke user id = .ok (next, answer)) :
    next.Administered isText ∧ next.permissions = store.permissions := by
  rcases revoke_eq_ok revoked with ⟨same, _⟩ | ⟨_, _, _, _, _, shrunk, _⟩
  · rw [same]
    exact ⟨administered, rfl⟩
  · rw [shrunk]
    exact ⟨⟨administered.permissions, administered.roles, administered.proper, administered.apart,
      fun assignment member => administered.held assignment (List.mem_of_mem_filter member)⟩, rfl⟩

/-! ## The catalog -/

theorem Administered.addPermissions (administered : store.Administered isText)
    (values : List Value) : (store.addPermissions values).1.Administered isText := by
  obtain ⟨sound, permissions, grown⟩ := administered.sound.addPermissions values
  have grows := fun slug => @has_addPermissions store slug values
  have indexed := sound.permissions
  rw [grown] at grows indexed ⊢
  exact ⟨indexed, administered.roles, fun role member => (administered.proper role member).mono grows,
    administered.apart, administered.held⟩

end RoleStore

end Authorization
