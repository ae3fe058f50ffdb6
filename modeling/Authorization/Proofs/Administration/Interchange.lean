import Authorization.Proofs.System.RoleInterchange
import Authorization.Proofs.System.Roles

/-!
# Administration of roles on either backend

Where the role store is administered and texts can be written, requests on roles do the same whether
roles are kept in memory or in tables. They keep the store administered, so any number of them has the
same results on either backend, and the gate says the same after them.
-/

namespace Authorization

open Service

variable {α : Type} {backend : Backend}

/-! ## Administration of roles -/

namespace RoleAdministration

section

variable {isText : String → Prop} {catalog : Keyed String Permission}

theorem neutral_permissionsOf (slugs : Value) :
    Neutral backend (System.Administered isText catalog) (permissionsOf slugs) := by
  have ofUnplanned := @System.ofUnplanned_administered isText catalog
  have resolved (items : List Value) : Neutral backend (System.Administered isText catalog) (do
      let requested := Value.distinct items
      let known := (← Service.listPermissions).map Permission.slug
      let isKnown (item : Value) : Bool := item.asStr?.any known.contains
      let unknown ← orFail ((requested.filter fun item => !isKnown item).mapM slugText)
      if unknown.isEmpty then return requested.filterMap Value.asStr?
      else throw (.unknownPermissions (unknown.mergeSort textsInOrder)) : Service (List String)) :=
    neutral_listPermissions.bind ofUnplanned.listPermissions fun known => .checked fun unknown _ =>
      .ite (neutral_pure _) (neutral_throw _)
  unfold permissionsOf
  split
  · exact neutral_throw _
  · refine (neutral_ofDraw _).bind (ofUnplanned.ofDraw _) fun items => ?_
    dsimp only
    split
    · exact .checked fun _ _ => resolved items
    · exact resolved items

theorem neutral_find (organization : Value) {id : String} (spells : Text.Uuid.SpellsItself id) :
    Neutral backend (System.Administered isText catalog) (find organization (.str id)) := by
  have ofUnplanned := @System.ofUnplanned_administered isText catalog
  refine (neutral_role? spells).bind (ofUnplanned.role? _) fun found => ?_
  split
  · exact .ite (neutral_pure _) (neutral_throw _)
  · exact neutral_throw _

/-- What is done with a role that is found is neutral when it is for every stored role of the
organization. -/
theorem neutral_found {organization : Value} {id : String} (spells : Text.Uuid.SpellsItself id)
    {next : Role → Service α}
    (rest : ∀ system, system.Administered isText catalog → ∀ role ∈ system.roles.roles.values,
      organization = .str role.organization → NeutralAt backend system (next role)) :
    Neutral backend (System.Administered isText catalog) (find organization (.str id) >>= next) := by
  intro system administered
  refine (neutral_find organization spells system administered).bind fun role after run => ?_
  rcases find_cases administered.unplanned organization (.str id) with
    ⟨error, fails⟩ | ⟨found, member, ⟨_, isHere⟩, isFound⟩
  · rw [fails] at run
    cases run
  · rw [isFound] at run
    cases run
    exact rest system administered role member isHere

theorem neutral_delete (organization : Value) {id : String} (spells : Text.Uuid.SpellsItself id)
    (actor : Value) :
    Neutral backend (System.Administered isText catalog) (delete organization (.str id) actor) := by
  intro system administered
  have same : NeutralAt backend system (find organization (.str id)) :=
    neutral_find organization spells system administered
  rcases find_cases administered.unplanned organization (.str id) with
    ⟨error, fails⟩ | ⟨role, member, _, isFound⟩
  · refine same.bind fun role after run => ?_
    rw [fails] at run
    cases run
  · have otherFound : exec (find organization (.str id)) (system.onRoles backend) =
        (.ok role, system.onRoles backend) := by
      unfold NeutralAt at same
      rw [same, isFound]
    have otherSound := (administered.roles.on backend).sound
    have deleted := exec_delete administered.unplanned administered.roles.sound member isFound actor
    have otherDeleted := @exec_delete (system.onRoles backend) administered.unplanned otherSound
      organization (.str id) role member otherFound actor
    have sameAssigned : (system.onRoles backend).roles.assignmentsTo role.id =
        system.roles.assignmentsTo role.id := rfl
    unfold NeutralAt
    rw [deleted, otherDeleted, sameAssigned]
    split
    · exact neutralAt_noteChange _ organization actor { system with
        roles := { system.roles with roles := system.roles.roles.erase role.id } }
    · rfl

end

section

variable {catalog : Keyed String Permission}

theorem isWhole_trim (text : String) (whole : Text.IsWhole text) : Text.IsWhole (Text.trim text) :=
  Text.holdsHalf_trim whole

theorem neutral_list {organization : Value}
    (whole : ∀ text, organization = .str text → Text.IsWhole text) :
    Neutral backend (System.Administered Text.IsWhole catalog) (list organization) :=
  .checked fun _ isText =>
    (neutral_rolesIn (Cleaning.isText_of_text isWhole_trim whole isText)).bind
      (System.ofUnplanned_administered.rolesIn _) fun _ => neutral_pure _

theorem neutral_newSlug {role : Role} (whole : Text.IsWhole role.organization) (changes : Bindings) :
    Neutral backend (System.Administered Text.IsWhole catalog)
      (newSlug (.str role.organization) role changes) := by
  have ofUnplanned := @System.ofUnplanned_administered Text.IsWhole catalog
  unfold newSlug
  split
  · exact neutral_pure _
  · refine .checked fun slug isSlug => .ite ?_ (neutral_pure _)
    have slugWhole := Key.holdsHalf_of_isRun (Cleaning.isRun_of_slug isSlug)
    refine (neutral_roleBySlug? slugWhole whole).bind (ofUnplanned.roleBySlug? _ _) fun other => ?_
    split
    · exact .guarded (neutral_throw _) (keeps_throw _) fun _ => neutral_pure _
    · exact neutral_pure _

theorem neutral_assign (organization : Value) {user : Value}
    (whole : ∀ text, user = .str text → Text.IsWhole text) {id : String}
    (spells : Text.Uuid.SpellsItself id) (actor : Value) :
    Neutral backend (System.Administered Text.IsWhole catalog)
      (assign organization user (.str id) actor) := by
  refine .checked fun name isName => neutral_found spells fun system administered role member _ => ?_
  have isWhole := Cleaning.isText_of_text isWhole_trim whole isName
  refine (neutralAt_assign administered member isWhole).bind fun changed after _ => ?_
  split
  · exact (neutralAt_noteChange _ _ _ after).bind fun _ _ _ => rfl
  · rfl

theorem neutral_revoke (organization : Value) {user : Value}
    (whole : ∀ text, user = .str text → Text.IsWhole text) {id : String}
    (spells : Text.Uuid.SpellsItself id) (actor : Value) :
    Neutral backend (System.Administered Text.IsWhole catalog)
      (revoke organization user (.str id) actor) := by
  refine .checked fun name isName => neutral_found spells fun system administered role member _ => ?_
  have isWhole := Cleaning.isText_of_text isWhole_trim whole isName
  refine (neutralAt_revoke administered member isWhole).bind fun changed after _ => ?_
  split
  · exact (neutralAt_noteChange _ _ _ after).bind fun _ _ _ => rfl
  · rfl

variable (wholeCatalog : ∀ slug, catalog.has slug = true → Text.IsWhole slug)

include wholeCatalog

theorem neutral_save {role : Role} (proper : role.Proper Text.IsWhole catalog) :
    Neutral backend (System.Administered Text.IsWhole catalog) (save role) := by
  intro system administered
  refine ((neutral_saveRole wholeCatalog proper).outcome system administered).bind
    fun saved after _ => ?_
  split
  · rfl
  · split <;> rfl

theorem neutral_create {organization name description : Value}
    (spoken : ∀ text, .str text ∈ [organization, name, description] → Text.IsWhole text)
    (slug permissions isDefault actor : Value) :
    Neutral backend (System.Administered Text.IsWhole catalog)
      (create organization name slug permissions description isDefault actor) := by
  have ofUnplanned := @System.ofUnplanned_administered Text.IsWhole catalog
  refine .checked fun cleanOrganization isOrganization => .checked fun name isName =>
    .checked fun slug isSlug => .checked fun description isDescription => .checked fun isDefault _ =>
      (neutral_permissionsOf _).followed (keeps_permissionsOf ofUnplanned _) (yields_permissionsOf _)
        fun permissions granted => ?_
  have whole := Cleaning.isText_of_text isWhole_trim (fun given same => spoken given (same ▸ .head _))
    isOrganization
  have slugWhole := Key.holdsHalf_of_isRun (Cleaning.isRun_of_slug isSlug)
  refine (neutral_roleBySlug? slugWhole whole).bind (ofUnplanned.roleBySlug? _ _) fun other =>
    .guarded (neutral_throw _) (keeps_throw _) fun _ =>
      Neutral.followed (fun _ _ => rfl) keeps_newId yields_newId fun id keeps => ?_
  have proper := proper_created isWhole_trim spoken isOrganization isName isSlug isDescription granted
    keeps isDefault
  exact (neutral_save wholeCatalog proper).bind (keeps_saveProper proper) fun _ =>
    (neutral_noteChange _ _ _).bind (keeps_noteChange ofUnplanned _ _ _) fun _ => neutral_pure _

theorem neutral_update {changes : Bindings}
    (spoken : ∀ text, .str text ∈ changes.map Prod.snd → Text.IsWhole text) (organization : Value)
    {id : String} (spells : Text.Uuid.SpellsItself id) (actor : Value) :
    Neutral backend (System.Administered Text.IsWhole catalog)
      (update organization (.str id) actor changes) := by
  have ofUnplanned := @System.ofUnplanned_administered Text.IsWhole catalog
  refine .checked fun _ _ => neutral_found spells fun system administered role member isHere => ?_
  have proper := administered.roles.proper role member
  rw [administered.catalog] at proper
  rw [isHere]
  refine Neutral.checked (fun name isName => .checked fun description isDescription =>
    .checked fun isDefault _ => ?_) system administered
  have whole := proper.texts role.organization (.head _)
  have saving (permissions : Option (List String)) (granted : ∀ slugs, permissions = some slugs →
      ∀ slug ∈ slugs, catalog.has slug = true) :
      Neutral backend (System.Administered Text.IsWhole catalog) (do
      let slug ← newSlug (.str role.organization) role changes
      let updated : Role :=
        { role with
          name := name.getD role.name
          slug := slug.getD role.slug
          permissions := permissions.getD role.permissions
          isDefault := (isDefault.map Value.bool).getD role.isDefault
          description := (description.map Value.ofOption).getD role.description }
      save updated
      noteChange ("Role updated: " ++ (Value.str id).text ++ " fields=" ++
        Cleaning.changedNames
          (changeable.map fun field => (field, (changes.lookup field).isSome)))
        (.str role.organization) actor
      return updated : Service Role) := by
    refine (neutral_newSlug whole _).followed (keeps_newSlug ofUnplanned _ _ _) (yields_newSlug _ _ _)
      fun slug isSlug => ?_
    have updated := proper_updated isWhole_trim proper spoken isName isDescription isSlug granted
      isDefault
    exact (neutral_save wholeCatalog updated).bind (keeps_saveProper updated) fun _ =>
      (neutral_noteChange _ _ _).bind (keeps_noteChange ofUnplanned _ _ _) fun _ => neutral_pure _
  dsimp only
  split
  · exact (neutral_pure none).followed (keeps_pure none) (yields_pure nofun) saving
  · exact ((neutral_permissionsOf _).map some).followed ((keeps_permissionsOf ofUnplanned _).map some)
      (yields_somePermissionsOf _) saving

end

end RoleAdministration

/-! ## Requests -/

/-- The identifier that is given with a call on roles. -/
def AdminCall.roleId? : AdminCall → Option Value
  | .getRole id | .updateRole id _ _ | .deleteRole id _ | .assignRole _ id _ | .revokeRole _ id _ =>
    some id
  | _ => none

namespace AdminRequest

/-- The identifier that is given with a request on roles. -/
def roleId? : AdminRequest → Option Value
  | .call _ made => made.roleId?
  | _ => none

/-- A request on roles that either backend understands: identifiers are texts that spell themselves, the
user whose roles are asked for is a text, and what is stored or looked up can be written. -/
structure Fits (request : AdminRequest) : Prop where
  onRoles : request.isOnRoles = true
  isRoleId : ∀ id, request.roleId? = some id → id.IsRoleId
  isText : ∀ user, request = .rolesHeldBy user → ∃ text, user = .str text
  whole : ∀ text, .str text ∈ request.words → Text.IsWhole text

variable {catalog : Keyed String Permission}

theorem neutral_perform [Host] (wholeCatalog : ∀ slug, catalog.has slug = true → Text.IsWhole slug)
    {request : AdminRequest} (fits : request.Fits) :
    Neutral backend (System.Administered Text.IsWhole catalog) request.perform := by
  cases request with
  | call organization made =>
      have whole : ∀ text, .str text ∈ made.words organization → Text.IsWhole text := fits.whole
      have onRoles := fits.onRoles
      have isRoleId := fits.isRoleId
      cases made with
      | createRole => exact (RoleAdministration.neutral_create wholeCatalog whole _ _ _ _).map _
      | listRoles =>
          have isWhole (text : String) (same : organization = .str text) := whole text (same ▸ .head _)
          exact (RoleAdministration.neutral_list isWhole).map _
      | getRole id =>
          obtain ⟨text, isText, spellsItself⟩ := isRoleId id rfl
          rw [isText]
          exact (RoleAdministration.neutral_find _ spellsItself).map _
      | updateRole id =>
          obtain ⟨text, isText, spellsItself⟩ := isRoleId id rfl
          rw [isText]
          exact (RoleAdministration.neutral_update wholeCatalog whole _ spellsItself _).map _
      | deleteRole id =>
          obtain ⟨text, isText, spellsItself⟩ := isRoleId id rfl
          rw [isText]
          exact (RoleAdministration.neutral_delete _ spellsItself _).map _
      | assignRole user id =>
          obtain ⟨text, isText, spellsItself⟩ := isRoleId id rfl
          have userWhole (given : String) (same : user = .str given) := whole given (same ▸ .head _)
          rw [isText]
          exact (RoleAdministration.neutral_assign _ userWhole spellsItself _).map _
      | revokeRole user id =>
          obtain ⟨text, isText, spellsItself⟩ := isRoleId id rfl
          have userWhole (given : String) (same : user = .str given) := whole given (same ▸ .head _)
          rw [isText]
          exact (RoleAdministration.neutral_revoke _ userWhole spellsItself _).map _
      | _ => cases onRoles
  | listPermissions => exact neutral_listPermissions.map _
  | rolesHeldBy user =>
      obtain ⟨text, isText⟩ := fits.isText user rfl
      have whole := fits.whole text (isText ▸ .head _)
      rw [isText]
      exact (neutral_rolesHeldBy whole).map _
  | ruleTypes => cases fits.onRoles

/-- On a system that starts with a catalog and without roles, requests that fit have the same results
whether roles are kept in tables or in memory, one after the other: the same answers and the same errors.
After them the gate says the same of every principal whose roles are identifiers for both. -/
theorem interchangeable_role_stores [Host] {requests : List AdminRequest}
    (fit : ∀ request ∈ requests, request.Fits) {system : System} (unplanned : system.plans = [])
    (canonical : ∀ number, Backend.tables.Keeps (system.ids.spell number))
    (indexed : system.roles.permissions.Indexed Permission.slug)
    (wholeCatalog : ∀ slug, system.roles.permissions.has slug = true → Text.IsWhole slug)
    (noRoles : system.roles.roles = []) (noAssignments : system.roles.assignments = []) :
    (inTurn (requests.map perform) (system.onRoles .tables)).1 =
        (inTurn (requests.map perform) (system.onRoles .memory)).1 ∧
      ∀ (principal : Principal) (resource action : Value),
        (∀ id ∈ principal.roles, id.IsRoleId) →
          (exec (evaluatePermissions principal.toValue resource action)
            (inTurn (requests.map perform) (system.onRoles .tables)).2).1 =
              (exec (evaluatePermissions principal.toValue resource action)
                (inTurn (requests.map perform) (system.onRoles .memory)).2).1 := by
  have start : (system.onRoles .memory).Administered Text.IsWhole system.roles.permissions :=
    ⟨unplanned, canonical, rfl, RoleStore.administered_of_empty indexed noRoles noAssignments⟩
  have neutral : ∀ action ∈ requests.map perform,
      Neutral .tables (System.Administered Text.IsWhole system.roles.permissions) action := by
    intro action member
    obtain ⟨request, isThere, isAction⟩ := List.mem_map.1 member
    rw [← isAction]
    exact neutral_perform wholeCatalog (fit request isThere)
  have keeps : ∀ action ∈ requests.map perform,
      Keeps (System.Administered Text.IsWhole system.roles.permissions) action := by
    intro action member
    obtain ⟨request, isThere, isAction⟩ := List.mem_map.1 member
    have fits := fit request isThere
    rw [← isAction]
    exact keeps_administered RoleAdministration.isWhole_trim fits.onRoles fits.whole
  have sameTables : (system.onRoles .memory).onRoles .tables = system.onRoles .tables := rfl
  obtain ⟨same, last⟩ := inTurn_onRoles neutral keeps start
  rw [sameTables] at same
  rw [same]
  refine ⟨rfl, fun principal resource action areIds => ?_⟩
  have sameGate : NeutralAt .tables (inTurn (requests.map perform) (system.onRoles .memory)).2
      (evaluatePermissions principal.toValue resource action) :=
    neutral_evaluatePermissions areIds resource action _ last
  unfold NeutralAt at sameGate
  dsimp only
  rw [sameGate]

/-- The shop makes a role and gives it to a user. It cannot delete it as long as the user holds it, and
does not find a role under a text that is no identifier. -/
def shopRequests : List AdminRequest :=
  [.call (.str "shop") (.createRole (.str "Sales") (.str " SALES") (.list [.str "deal:read"]) .null
     (.bool false) .null),
   .call (.str "shop") (.assignRole (.str "u1") (.str System.shopId) .null),
   .call (.str "shop") (.deleteRole (.str System.shopId) .null),
   .call (.str "shop") (.getRole (.str "sales")),
   .call (.str "shop") (.revokeRole (.str "u1") (.str System.shopId) .null),
   .call (.str "shop") (.deleteRole (.str System.shopId) .null),
   .rolesHeldBy (.str "u1")]

theorem isRoleId_shopId : (Value.str System.shopId).IsRoleId := by
  refine ⟨System.shopId, rfl, fun id isCanonical => ?_⟩
  have isOwn : Text.Uuid.canonical? System.shopId = some System.shopId := by decide +kernel
  exact Option.some.inj (isCanonical.symm.trans isOwn)

theorem isRoleId_sales : (Value.str "sales").IsRoleId := by
  refine ⟨"sales", rfl, fun id isCanonical => ?_⟩
  have isNone : Text.Uuid.canonical? "sales" = none := by decide +kernel
  rw [isNone] at isCanonical
  cases isCanonical

/-- A request fits when its identifier does and its texts are written without an error. -/
theorem fits_of_encoded {organization : Value} {made : AdminCall} (onRoles : made.isOnRoles = true)
    (isRoleId : ∀ id, made.roleId? = some id → id.IsRoleId)
    (written : Column.encoded (made.words organization) = .ok ()) :
    (call organization made).Fits :=
  ⟨onRoles, isRoleId, nofun, Column.encoded_eq_ok_iff.1 written⟩

theorem fit_shopRequests : ∀ request ∈ shopRequests, request.Fits := by
  have ofShop (id : Value) (same : some (Value.str System.shopId) = some id) : id.IsRoleId :=
    Option.some.inj same ▸ isRoleId_shopId
  have ofSales (id : Value) (same : some (Value.str "sales") = some id) : id.IsRoleId :=
    Option.some.inj same ▸ isRoleId_sales
  intro request member
  simp only [shopRequests, List.mem_cons, List.not_mem_nil, or_false] at member
  rcases member with rfl | rfl | rfl | rfl | rfl | rfl | rfl
  · exact fits_of_encoded rfl nofun rfl
  · exact fits_of_encoded rfl ofShop rfl
  · exact fits_of_encoded rfl ofShop rfl
  · exact fits_of_encoded rfl ofSales rfl
  · exact fits_of_encoded rfl ofShop rfl
  · exact fits_of_encoded rfl ofShop rfl
  · exact ⟨rfl, nofun, fun user same => ⟨"u1", (rolesHeldBy.inj same).symm⟩,
      Column.encoded_eq_ok_iff.1 rfl⟩

open scoped Host in
theorem shopRequests_interchangeable :
    (inTurn (shopRequests.map perform) (System.shopSystem.onRoles .tables)).1 =
        (inTurn (shopRequests.map perform) (System.shopSystem.onRoles .memory)).1 ∧
      (inTurn (shopRequests.map perform) (System.shopSystem.onRoles .tables)).1.map Except.isOk =
        [true, true, false, false, true, true, true] := by
  have indexed : System.shopSystem.roles.permissions.Indexed Permission.slug :=
    ⟨List.nodup_singleton _, List.forall_mem_singleton.2 rfl⟩
  have wholeCatalog (slug : String) (isThere : System.shopSystem.roles.permissions.has slug = true) :
      Text.IsWhole slug := by
    have isDeal : slug = "deal:read" := List.mem_singleton.1 (Keyed.has_iff_mem_keys.1 isThere)
    have dealWhole : Text.holdsHalf "deal:read" = false := by decide
    rw [isDeal]
    exact dealWhole
  have same := interchangeable_role_stores fit_shopRequests rfl System.keeps_shop indexed wholeCatalog
    rfl rfl
  exact ⟨same.1, by decide +kernel⟩

/-! ### Where the backends differ -/

/-- A name with half of a pair, and a user that is no text. -/
def oddRequests : List AdminRequest :=
  [.call (.str "shop") (.createRole (.str (String.singleton (Text.ofCode 0xD800))) (.str "sales")
     (.list []) .null (.bool false) .null),
   .rolesHeldBy (.list [])]

open scoped Host in
/-- Tables refuse a name that cannot be written and look up any user; memory keeps the name and looks up
only what can be a key. -/
theorem oddRequests_differ :
    (∀ request ∈ oddRequests, request.isOnRoles = true ∧ request.roleId? = none) ∧
      (inTurn (oddRequests.map perform) (System.shopSystem.onRoles .memory)).1.map Except.isOk =
        [true, false] ∧
      (inTurn (oddRequests.map perform) (System.shopSystem.onRoles .tables)).1.map Except.isOk =
        [false, true] := by
  refine ⟨?_, by decide +kernel, by decide +kernel⟩
  intro request member
  simp only [oddRequests, List.mem_cons, List.not_mem_nil, or_false] at member
  rcases member with rfl | rfl
  · exact ⟨rfl, rfl⟩
  · exact ⟨rfl, rfl⟩

end AdminRequest

end Authorization
