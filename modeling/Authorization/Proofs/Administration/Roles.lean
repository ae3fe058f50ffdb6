import Authorization.Proofs.Administration.Upkeep
import Authorization.Proofs.Store.Administered
import Authorization.Proofs.Tenancy.RoleAdministration

/-!
# What administrators make of roles

Where new identifiers are canonical and the role store is an administered one, all that administrators do
with roles leaves it administered, whether it succeeds or fails. A role of the organization is deleted
exactly when nobody holds it.
-/

namespace Authorization

open Service

/-- Nothing is planned, new identifiers are canonical, and the role store, with a known catalog, is
administered. -/
structure System.Administered (isText : String → Prop) (catalog : Keyed String Permission)
    (system : System) : Prop where
  unplanned : system.plans = []
  ids : ∀ number, Backend.tables.Keeps (system.ids.spell number)
  catalog : system.roles.permissions = catalog
  roles : system.roles.Administered isText

variable {α : Type} {isText : String → Prop} {catalog : Keyed String Permission} {system : System}

theorem System.ofUnplanned_administered : OfUnplanned (System.Administered isText catalog) where
  unplanned _ administered := administered.unplanned
  journal _ _ administered :=
    ⟨administered.unplanned, administered.ids, administered.catalog, administered.roles⟩

/-- Another role store with the same catalog. -/
theorem System.Administered.withRoles (administered : system.Administered isText catalog)
    {next : RoleStore}
    (isNext : next.Administered isText ∧ next.permissions = system.roles.permissions) :
    System.Administered isText catalog { system with roles := next } :=
  ⟨administered.unplanned, administered.ids, isNext.2.trans administered.catalog, isNext.1⟩

theorem System.administered_answered {result : Except Error (RoleStore × α)}
    (administered : system.Administered isText catalog)
    (isNext : ∀ next value, result = .ok (next, value) →
      next.Administered isText ∧ next.permissions = system.roles.permissions) :
    (answered system result).2.Administered isText catalog := by
  rcases result with error | ⟨next, value⟩
  · exact administered
  · exact administered.withRoles (isNext next value rfl)

/-! ## Texts that are cleaned -/

namespace Cleaning

section

variable (trims : ∀ text, isText text → isText (Text.trim text))

include trims

theorem isText_of_text {field text : String} {value : Value}
    (spoken : ∀ given, value = .str given → isText given)
    (isClean : Cleaning.text field value = .ok text) : isText text := by
  obtain ⟨given, isGiven, isTrimmed⟩ := text_eq_ok isClean
  rw [isTrimmed]
  exact trims given (spoken given isGiven)

theorem isText_of_optionalText {field text : String} {value : Value} {text? : Option String}
    (spoken : ∀ given, value = .str given → isText given)
    (isClean : Cleaning.optionalText field value = .ok text?) (isThere : text? = some text) :
    isText text := by
  rw [isThere] at isClean
  unfold Cleaning.optionalText at isClean
  split at isClean
  · cases isClean
  · rename_i given
    have isOk := Except.ok.inj isClean
    split at isOk
    · cases isOk
    · rw [← Option.some.inj isOk]
      exact trims given (spoken given rfl)
  · cases isClean

end

theorem isRun_of_slug {value : Value} {slug : String} (isClean : Cleaning.slug value = .ok slug) :
    Key.isRun slug.toList = true := by
  obtain ⟨given, isGiven, isClean⟩ := Except.bind_eq_ok_iff.1 isClean
  obtain ⟨text, _, isTrimmed⟩ := text_eq_ok isGiven
  dsimp only at isClean
  split at isClean
  · rename_i isSlug
    rw [isTrimmed] at isClean isSlug
    rw [← Except.ok.inj isClean]
    exact Key.isRun_of_isSlug isSlug (Text.getLast?_lower_trim text)
  · cases isClean

/-- What a field is changed to is the clean form of a value that is given. -/
theorem change_eq_ok {changes : Bindings} {field : String} {clean : Value → Except Error α}
    {changed? : Option α} {changed : α} (isClean : change changes field clean = .ok changed?)
    (isThere : changed? = some changed) :
    ∃ value ∈ changes.map Prod.snd, clean value = .ok changed := by
  rw [isThere] at isClean
  unfold change at isClean
  split at isClean
  · cases isClean
  · rename_i value found
    obtain ⟨earlier, later, isListed, _⟩ := List.lookup_eq_some_iff.1 found
    obtain ⟨result, isResult, same⟩ := Except.map_eq_ok_iff.1 isClean
    refine ⟨value, ?_, ?_⟩
    · rw [isListed, List.map_append]
      exact List.mem_append_right _ (.head _)
    · rw [isResult, Option.some.inj same]

end Cleaning

namespace RoleAdministration

/-! ## What is known of the parts of a role -/

theorem keeps_newId : Keeps (System.Administered isText catalog) newId :=
  fun _ administered =>
    ⟨administered.unplanned, administered.ids, administered.catalog, administered.roles⟩

theorem yields_newId :
    Yields (System.Administered isText catalog) newId Backend.tables.Keeps := by
  intro system administered id succeeds
  cases succeeds
  exact administered.ids _

/-- Permissions that are resolved are those of the catalog. -/
theorem yields_permissionsOf (slugs : Value) :
    Yields (System.Administered isText catalog) (permissionsOf slugs) fun found =>
      ∀ slug ∈ found, catalog.has slug = true := by
  have ofUnplanned := @System.ofUnplanned_administered isText catalog
  have listed : Yields (System.Administered isText catalog) Service.listPermissions fun found =>
      ∀ slug ∈ found.map Permission.slug, catalog.has slug = true := by
    intro system administered found succeeds slug member
    rw [exec_listPermissions administered.unplanned] at succeeds
    cases succeeds
    obtain ⟨permission, isListed, isSlug⟩ := List.mem_map.1 member
    rw [RoleStore.listPermissions, mem_sortedBy] at isListed
    rw [← administered.catalog]
    exact administered.roles.permissions.has_iff.2 ⟨permission, isListed, isSlug⟩
  have resolved (items : List Value) : Yields (System.Administered isText catalog) (do
      let requested := Value.distinct items
      let known := (← Service.listPermissions).map Permission.slug
      let isKnown (item : Value) : Bool := item.asStr?.any known.contains
      let unknown ← orFail ((requested.filter fun item => !isKnown item).mapM slugText)
      if unknown.isEmpty then return requested.filterMap Value.asStr?
      else throw (.unknownPermissions (unknown.mergeSort textsInOrder)) : Service (List String))
      fun found => ∀ slug ∈ found, catalog.has slug = true := by
    refine listed.bind ofUnplanned.listPermissions fun permissions areKnown =>
      (yields_orFail _).bind (keeps_orFail _) fun unknown isUnknown => ?_
    split
    · rename_i noneUnknown
      refine yields_pure fun slug member => ?_
      obtain ⟨item, isRequested, isSlug⟩ := List.mem_filterMap.1 member
      by_contra notThere
      have isOther : item ∈ (Value.distinct items).filter fun item =>
          !item.asStr?.any (permissions.map Permission.slug).contains := by
        refine List.mem_filter.2 ⟨isRequested, ?_⟩
        rw [isSlug, Option.any_some, Bool.not_eq_true', Bool.eq_false_iff]
        intro isKnown
        exact notThere (areKnown slug (List.contains_iff_mem.1 isKnown))
      have lengths := (Except.mapM_eq_ok_iff.1 isUnknown).length_eq
      rw [List.isEmpty_iff.1 noneUnknown, List.length_nil, List.length_eq_zero_iff] at lengths
      rw [lengths] at isOther
      cases isOther
    · exact yields_throw _
  unfold permissionsOf
  split
  · exact yields_throw _
  · refine Yields.bind (fun _ _ _ _ => trivial) (ofUnplanned.ofDraw _) fun items (_ : True) => ?_
    dsimp only
    split
    · exact Yields.bind (fun _ _ _ _ => trivial) (keeps_orFail _) fun _ (_ : True) => resolved items
    · exact resolved items

theorem yields_somePermissionsOf (slugs : Value) :
    Yields (System.Administered isText catalog) (some <$> permissionsOf slugs) fun permissions =>
      ∀ found, permissions = some found → ∀ slug ∈ found, catalog.has slug = true := by
  refine (yields_permissionsOf slugs).map fun found granted slugs isFound => ?_
  rw [← Option.some.inj isFound]
  exact granted

/-- A role is found among the stored ones of the organization, and finding it changes nothing. -/
theorem find_cases (unplanned : system.plans = []) (organization id : Value) :
    (∃ error, exec (find organization id) system = (.error error, system)) ∨
      ∃ role ∈ system.roles.roles.values,
        (system.roles.role? id = .ok (some role) ∧ organization = .str role.organization) ∧
          exec (find organization id) system = (.ok role, system) := by
  unfold find
  rw [exec_bind, exec_role? unplanned]
  rcases isRole : system.roles.role? id with error | _ | role
  · exact .inl ⟨error, rfl⟩
  · exact .inl ⟨_, rfl⟩
  · dsimp only
    by_cases isHere : organization.equal (.str role.organization) = true
    · obtain ⟨known, _, isFound⟩ := Except.bind_eq_ok_iff.1 isRole
      obtain ⟨key, _, isStored⟩ := Option.bind_eq_some_iff.1 (Except.ok.inj isFound)
      have member := Keyed.mem_values_of_get? isStored
      rw [if_pos isHere]
      exact .inr ⟨role, member, ⟨rfl, (Value.equal_str_iff _ _).1 isHere⟩, rfl⟩
    · rw [if_neg isHere]
      exact .inl ⟨_, rfl⟩

theorem yields_find (organization id : Value) :
    Yields (System.Administered isText catalog) (find organization id)
      (Role.Proper isText catalog) := by
  intro system administered role succeeds
  rcases find_cases administered.unplanned organization id with
    ⟨error, fails⟩ | ⟨found, member, _, isFound⟩
  · rw [fails] at succeeds
    cases succeeds
  · rw [isFound] at succeeds
    cases succeeds
    rw [← administered.catalog]
    exact administered.roles.proper role member

theorem yields_newSlug (organization : Value) (role : Role) (changes : Bindings) :
    Yields (System.Administered isText catalog) (newSlug organization role changes) fun slug? =>
      ∀ slug, slug? = some slug → Key.isRun slug.toList = true := by
  have ofUnplanned := @System.ofUnplanned_administered isText catalog
  unfold newSlug
  split
  · exact yields_pure nofun
  · refine (yields_orFail _).bind (keeps_orFail _) fun slug isClean => ?_
    have isRun : ∀ found, some slug = some found → Key.isRun found.toList = true := by
      intro found same
      rw [← Option.some.inj same]
      exact Cleaning.isRun_of_slug isClean
    dsimp only
    split
    · refine Yields.bind (fun _ _ _ _ => trivial) (ofUnplanned.roleBySlug? _ _) fun other (_ : True) => ?_
      split
      · split
        · exact Yields.bind (yields_throw _) (keeps_throw _) fun _ (_ : True) => yields_pure isRun
        · exact yields_pure isRun
      · exact yields_pure isRun
    · exact yields_pure isRun

/-! ## Saving roles -/

theorem keeps_saveProper {role : Role} (proper : role.Proper isText catalog) :
    Keeps (System.Administered isText catalog) (save role) := by
  have saving : Keeps (System.Administered isText catalog) (saveRole role) := by
    refine System.ofUnplanned_administered.performedValue (fun system administered => ?_) _ _
    rw [exec_changeRoles]
    refine System.administered_answered administered fun next value made => ?_
    obtain ⟨_, saved, same⟩ := Except.map_eq_ok_iff.1 made
    cases same
    rw [← administered.catalog] at proper
    exact administered.roles.saveRole proper saved
  exact keeps_save saving

/-! ## Making and changing roles -/

section

variable (trims : ∀ text, isText text → isText (Text.trim text))

include trims

theorem proper_created {organization name description slug : Value}
    {cleanOrganization cleanName cleanSlug id : String} {text? : Option String}
    {permissions : List String}
    (spoken : ∀ text, .str text ∈ [organization, name, description] → isText text)
    (isOrganization : Cleaning.text "organization_id" organization = .ok cleanOrganization)
    (isName : Cleaning.text "name" name = .ok cleanName)
    (isSlug : Cleaning.slug slug = .ok cleanSlug)
    (isDescription : Cleaning.optionalText "description" description = .ok text?)
    (granted : ∀ slug ∈ permissions, catalog.has slug = true) (keeps : Backend.tables.Keeps id)
    (isDefault : Bool) :
    Role.Proper isText catalog
      ⟨id, cleanName, cleanSlug, cleanOrganization, permissions, .bool isDefault, .ofOption text?⟩ := by
  refine ⟨keeps, Cleaning.isRun_of_slug isSlug, granted, ?_, ⟨text?, rfl⟩, ⟨isDefault, rfl⟩⟩
  intro text member
  simp only [List.mem_cons, List.not_mem_nil, or_false, Value.str.injEq] at member
  rcases member with rfl | rfl | isDescribed
  · exact Cleaning.isText_of_text trims (fun given same => spoken given (same ▸ .head _))
      isOrganization
  · exact Cleaning.isText_of_text trims (fun given same => spoken given (same ▸ .tail _ (.head _)))
      isName
  · cases text? with
    | none => cases isDescribed
    | some described =>
        cases isDescribed
        exact Cleaning.isText_of_optionalText trims
          (fun given same => spoken given (same ▸ .tail _ (.tail _ (.head _)))) isDescription rfl

theorem proper_updated {role : Role} (proper : role.Proper isText catalog) {changes : Bindings}
    (spoken : ∀ text, .str text ∈ changes.map Prod.snd → isText text)
    {name slug : Option String} {description : Option (Option String)}
    {permissions : Option (List String)}
    (isName : Cleaning.change changes "name" (Cleaning.text "name") = .ok name)
    (isDescription : Cleaning.change changes "description" (Cleaning.optionalText "description") =
      .ok description)
    (isSlug : ∀ text, slug = some text → Key.isRun text.toList = true)
    (granted : ∀ slugs, permissions = some slugs → ∀ slug ∈ slugs, catalog.has slug = true)
    (isDefault : Option Bool) :
    Role.Proper isText catalog
      { role with
        name := name.getD role.name
        slug := slug.getD role.slug
        permissions := permissions.getD role.permissions
        isDefault := (isDefault.map Value.bool).getD role.isDefault
        description := (description.map Value.ofOption).getD role.description } := by
  refine proper.updated (fun text isThere => ?_) isSlug granted fun text isThere => ?_
  · obtain ⟨value, member, isClean⟩ := Cleaning.change_eq_ok isName isThere
    exact Cleaning.isText_of_text trims (fun given same => spoken given (same ▸ member)) isClean
  · obtain ⟨value, member, isClean⟩ := Cleaning.change_eq_ok isDescription isThere
    exact Cleaning.isText_of_optionalText trims (fun given same => spoken given (same ▸ member))
      isClean rfl

theorem keeps_createProper {organization name description : Value}
    (spoken : ∀ text, .str text ∈ [organization, name, description] → isText text)
    (slug permissions isDefault actor : Value) :
    Keeps (System.Administered isText catalog)
      (create organization name slug permissions description isDefault actor) := by
  have ofUnplanned := @System.ofUnplanned_administered isText catalog
  refine (keeps_orFail _).followed (yields_orFail _) fun organization isOrganization =>
    (keeps_orFail _).followed (yields_orFail _) fun name isName =>
      (keeps_orFail _).followed (yields_orFail _) fun slug isSlug =>
        (keeps_orFail _).followed (yields_orFail _) fun description isDescription =>
          (keeps_orFail _).bind fun isDefault => (keeps_permissionsOf ofUnplanned _).followed
            (yields_permissionsOf _) fun permissions granted => ?_
  refine (ofUnplanned.roleBySlug? _ _).bind fun other => .guarded (keeps_throw _) fun _ =>
    keeps_newId.followed yields_newId fun id keeps => ?_
  have proper := proper_created trims spoken isOrganization isName isSlug isDescription granted keeps
    isDefault
  exact (keeps_saveProper proper).bind fun _ => (keeps_noteChange ofUnplanned _ _ _).bind fun _ =>
    keeps_pure _

theorem keeps_updateProper {changes : Bindings}
    (spoken : ∀ text, .str text ∈ changes.map Prod.snd → isText text)
    (organization id actor : Value) :
    Keeps (System.Administered isText catalog) (update organization id actor changes) := by
  have ofUnplanned := @System.ofUnplanned_administered isText catalog
  refine (keeps_orFail _).bind fun _ => (keeps_find ofUnplanned _ _).followed (yields_find _ _)
    fun role proper => (keeps_orFail _).followed (yields_orFail _) fun name isName =>
      (keeps_orFail _).followed (yields_orFail _) fun description isDescription =>
        (keeps_orFail _).bind fun isDefault => ?_
  have saving (permissions : Option (List String)) (granted : ∀ slugs, permissions = some slugs →
      ∀ slug ∈ slugs, catalog.has slug = true) : Keeps (System.Administered isText catalog) (do
      let slug ← newSlug organization role changes
      let updated : Role :=
        { role with
          name := name.getD role.name
          slug := slug.getD role.slug
          permissions := permissions.getD role.permissions
          isDefault := (isDefault.map Value.bool).getD role.isDefault
          description := (description.map Value.ofOption).getD role.description }
      save updated
      noteChange ("Role updated: " ++ id.text ++ " fields=" ++
        Cleaning.changedNames
          (changeable.map fun field => (field, (changes.lookup field).isSome)))
        organization actor
      return updated : Service Role) :=
    (keeps_newSlug ofUnplanned _ _ _).followed (yields_newSlug _ _ _) fun slug isSlug =>
      (keeps_saveProper (proper_updated trims proper spoken isName isDescription isSlug granted
        isDefault)).bind fun _ =>
        (keeps_noteChange ofUnplanned _ _ _).bind fun _ => keeps_pure _
  dsimp only
  split
  · exact (keeps_pure none).followed (yields_pure nofun) saving
  · exact ((keeps_permissionsOf ofUnplanned _).map some).followed (yields_somePermissionsOf _) saving

end

/-! ## Deleting roles -/

/-- What is done with a role that is found keeps roles administered when it does so for every stored
role. -/
theorem keeps_found {organization id : Value} {next : Role → Service α}
    (rest : ∀ system, system.Administered isText catalog → ∀ role ∈ system.roles.roles.values,
      (exec (next role) system).2.Administered isText catalog) :
    Keeps (System.Administered isText catalog) (find organization id >>= next) := by
  intro system administered
  rcases find_cases administered.unplanned organization id with
    ⟨error, fails⟩ | ⟨role, member, _, isFound⟩
  · rw [exec_bind_of_error fails]
    exact administered
  · rw [exec_bind_of_ok isFound]
    exact rest system administered role member

theorem keeps_deleteProper (organization id actor : Value) :
    Keeps (System.Administered isText catalog) (delete organization id actor) := by
  intro system administered
  rcases find_cases administered.unplanned organization id with
    ⟨error, fails⟩ | ⟨role, member, _, isFound⟩
  · unfold delete
    rw [exec_bind_of_error fails]
    exact administered
  · rw [exec_delete administered.unplanned administered.roles.sound member isFound]
    split
    · rename_i unheld
      refine keeps_noteChange System.ofUnplanned_administered _ _ _ _ ?_
      exact administered.withRoles ⟨administered.roles.erase unheld, rfl⟩
    · exact administered

/-! ## Assignments -/

theorem keeps_assignProper (organization user id actor : Value) :
    Keeps (System.Administered isText catalog) (assign organization user id actor) := by
  have ofUnplanned := @System.ofUnplanned_administered isText catalog
  refine (keeps_orFail _).bind fun user => keeps_found fun system administered role member =>
    holds_bind ?_ fun changed => .guarded (keeps_noteChange ofUnplanned _ _ _) fun _ => keeps_pure _
  have run := exec_assign administered.roles.sound member (.str user)
  unfold Service.assign
  rw [exec_performedValue administered.unplanned, run]
  exact System.administered_answered administered fun next value assigned =>
    administered.roles.assign member assigned

theorem keeps_revokeProper (organization user id actor : Value) :
    Keeps (System.Administered isText catalog) (revoke organization user id actor) := by
  have ofUnplanned := @System.ofUnplanned_administered isText catalog
  refine (keeps_orFail _).bind fun user => keeps_found fun system administered role member =>
    holds_bind ?_ fun changed => .guarded (keeps_noteChange ofUnplanned _ _ _) fun _ => keeps_pure _
  unfold Service.revoke
  rw [exec_performedValue administered.unplanned, exec_changeRoles]
  exact System.administered_answered administered fun next value revoked =>
    administered.roles.revoke revoked

end RoleAdministration

/-! ## Requests -/

namespace AdminCall

/-- The call concerns roles or who holds them. -/
def isOnRoles : AdminCall → Bool
  | .createRole .. | .listRoles | .getRole _ | .updateRole .. | .deleteRole .. | .assignRole ..
  | .revokeRole .. => true
  | _ => false

/-- What a call on roles stores or looks up other than identifiers: organizations, names, descriptions,
changed values and users. -/
def words (organization : Value) : AdminCall → List Value
  | .createRole name _ _ description _ _ => [organization, name, description]
  | .listRoles => [organization]
  | .updateRole _ _ changes => changes.map Prod.snd
  | .assignRole user _ _ | .revokeRole user _ _ => [user]
  | _ => []

theorem keeps_administered [Host] (trims : ∀ text, isText text → isText (Text.trim text))
    {organization : Value} {call : AdminCall} (onRoles : call.isOnRoles = true)
    (spoken : ∀ text, .str text ∈ call.words organization → isText text) :
    Keeps (System.Administered isText catalog) (call.perform organization) := by
  have ofUnplanned := @System.ofUnplanned_administered isText catalog
  cases call with
  | createRole => exact (RoleAdministration.keeps_createProper trims spoken _ _ _ _).map _
  | listRoles => exact (RoleAdministration.keeps_list ofUnplanned _).map _
  | getRole => exact (RoleAdministration.keeps_find ofUnplanned _ _).map _
  | updateRole => exact (RoleAdministration.keeps_updateProper trims spoken _ _ _).map _
  | deleteRole => exact (RoleAdministration.keeps_deleteProper _ _ _).map _
  | assignRole => exact (RoleAdministration.keeps_assignProper _ _ _ _).map _
  | revokeRole => exact (RoleAdministration.keeps_revokeProper _ _ _ _).map _
  | _ => cases onRoles

end AdminCall

namespace AdminRequest

/-- The request concerns roles, who holds them, or which permissions there are. -/
def isOnRoles : AdminRequest → Bool
  | .call _ made => made.isOnRoles
  | .listPermissions | .rolesHeldBy _ => true
  | .ruleTypes => false

/-- What a request on roles stores or looks up other than identifiers. -/
def words : AdminRequest → List Value
  | .call organization made => made.words organization
  | .rolesHeldBy user => [user]
  | _ => []

/-- Requests on roles leave them administered, whatever comes of them. -/
theorem keeps_administered [Host] (trims : ∀ text, isText text → isText (Text.trim text))
    {request : AdminRequest} (onRoles : request.isOnRoles = true)
    (spoken : ∀ text, .str text ∈ request.words → isText text) :
    Keeps (System.Administered isText catalog) request.perform := by
  have ofUnplanned := @System.ofUnplanned_administered isText catalog
  cases request with
  | call organization made => exact made.keeps_administered trims onRoles spoken
  | listPermissions => exact ofUnplanned.listPermissions.map _
  | rolesHeldBy user => exact (ofUnplanned.rolesHeldBy user).map _
  | ruleTypes => cases onRoles

end AdminRequest

end Authorization
