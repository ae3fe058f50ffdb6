import Authorization.Proofs.Administration.Roles
import Authorization.Proofs.Decision.Gate
import Authorization.Proofs.Store.Administered
import Authorization.Proofs.Store.Assignments

/-!
# Administered role stores in memory and in tables

A role store in memory takes every value as it is and refers to roles by equality. Tables read
identifiers, drop permissions that the catalog does not hold and refuse what refers to nothing. In an
administered store whose texts can be written both come to the same, as long as the texts that are given as
identifiers stand for nothing but themselves.
-/

namespace Authorization

/-- A text that spells no identifier, or spells one as it is kept. -/
def Text.Uuid.SpellsItself (text : String) : Prop :=
  ∀ id, canonical? text = some id → id = text

/-- A value that names the same role in memory and in tables, or none: a text that spells itself. -/
def Value.IsRoleId (value : Value) : Prop :=
  ∃ text, value = .str text ∧ Text.Uuid.SpellsItself text

/-- No half of a pair stands alone in a text. -/
def Text.IsWhole (text : String) : Prop :=
  holdsHalf text = false

theorem Backend.named?_eq_some_iff (backend : Backend) {given id : String}
    (spells : Text.Uuid.SpellsItself given) (keeps : Backend.tables.Keeps id) :
    backend.named? given = some id ↔ given = id := by
  cases backend with
  | memory => exact Option.some_inj
  | tables =>
      have isCanonical : Text.Uuid.canonical? id = some id := by
        rw [Backend.Keeps, Backend.identifier_eq_named?] at keeps
        exact Except.ok.inj keeps
      constructor
      · intro isNamed
        exact (spells id isNamed).symm
      · intro same
        rw [same]
        exact isCanonical

namespace RoleStore

/-- The store with another backend and the same records. -/
def on (store : RoleStore) (backend : Backend) : RoleStore :=
  { store with backend }

variable {isText : String → Prop} {store : RoleStore} {role : Role}

theorem Administered.on (administered : store.Administered isText) (backend : Backend) :
    (store.on backend).Administered isText :=
  ⟨administered.permissions, administered.roles, administered.proper, administered.apart,
    administered.held⟩

namespace Administered

section

variable (administered : store.Administered isText)

include administered

/-! ## Looking roles up -/

/-- Under a text that spells itself stands the role with that identifier, if there is one. -/
theorem role?_str {id : String} (spells : Text.Uuid.SpellsItself id) :
    store.role? (.str id) = .ok (store.roles.get? id) := by
  have sameRole : (store.backend.named? id).bind store.roles.get? = store.roles.get? id := by
    refine Option.ext fun role => ?_
    rw [Option.bind_eq_some_iff, administered.roles.get?_eq_some_iff]
    constructor
    · rintro ⟨known, isNamed, isStored⟩
      obtain ⟨member, isKnown⟩ := administered.roles.get?_eq_some_iff.1 isStored
      rw [← isKnown, Backend.named?_eq_some_iff _ spells (administered.proper role member).keeps]
        at isNamed
      exact ⟨member, isNamed.symm⟩
    · rintro ⟨member, isId⟩
      have isNamed := (Backend.named?_eq_some_iff store.backend spells
        (administered.proper role member).keeps).2 isId.symm
      exact ⟨role.id, isNamed, administered.roles.mem_values_iff.1 member⟩
  unfold RoleStore.role?
  rw [Backend.identifier_eq_named?, Except.ok_bind, sameRole]
  rfl

/-- The roles of texts that spell themselves are those with the identifiers. -/
theorem rolesOf_strs {ids : List String} (spell : ∀ id ∈ ids, Text.Uuid.SpellsItself id) :
    store.rolesOf (ids.map .str) = .ok (sortedBy Role.sortKey
      (store.roles.values.filter fun role => ids.contains role.id)) := by
  have known : (ids.map Value.str).mapM store.backend.identifier =
      .ok (ids.map store.backend.named?) := by
    rw [Except.mapM_eq_ok_iff, List.forall₂_map_left_iff, List.forall₂_map_right_iff,
      List.forall₂_same]
    exact fun id _ => Backend.identifier_eq_named? _ id
  have sameFound : (store.roles.values.filter fun role =>
      (ids.map store.backend.named?).contains (some role.id)) =
        store.roles.values.filter fun role => ids.contains role.id := by
    refine List.filter_congr fun role member => ?_
    have keeps := (administered.proper role member).keeps
    rw [Bool.eq_iff_iff, List.contains_iff_mem, List.contains_iff_mem, List.mem_map]
    constructor
    · rintro ⟨id, isThere, isNamed⟩
      rw [← (Backend.named?_eq_some_iff _ (spell id isThere) keeps).1 isNamed]
      exact isThere
    · intro isThere
      exact ⟨role.id, isThere, (Backend.named?_eq_some_iff _ (spell role.id isThere) keeps).2 rfl⟩
  have noObstacle (roles : List Role) (stored : ∀ role ∈ roles, role ∈ store.roles.values) :
      roles.findSome? obstacle? = none := by
    rw [List.findSome?_eq_none_iff]
    intro role member
    have proper := administered.proper role (stored role member)
    obtain ⟨text?, isText⟩ := proper.isText
    obtain ⟨flag, isFlag⟩ := proper.isFlag
    rw [obstacle?_eq_none_iff, isText, isFlag]
    exact ⟨rfl, Value.hashable_ofOption text?⟩
  unfold RoleStore.rolesOf
  rw [known, Except.ok_bind]
  dsimp only
  rw [sameFound, noObstacle _ fun role member => List.mem_of_mem_filter member]
  cases store.backend <;> rfl

end

/-! ## Saving roles -/

/-- A proper role whose texts can be written is saved unless another one has its slug. -/
theorem saveRole_of_proper (proper : role.Proper Text.IsWhole store.permissions)
    (wholeCatalog : ∀ slug, store.permissions.has slug = true → Text.IsWhole slug) :
    store.saveRole role =
      if store.hasClash role then .error (.inadmissible (.roleSlugTaken role.slug role.organization))
      else .ok { store with roles := Keyed.put role.id role store.roles } := by
  have identified : store.roleIdentifier role.id = .ok role.id :=
    roleIdentifier_eq_ok_iff.2 (Backend.keeps_of_tables proper.keeps store.backend)
  have written : store.writing role = .ok () := by
    refine writing_of_whole (fun text member => ?_) fun slug isGranted =>
      wholeCatalog slug (proper.granted slug isGranted)
    simp only [List.mem_cons, List.not_mem_nil, or_false] at member
    rcases member with isOrganization | isName | isSlug | isDescription
    · exact proper.texts text (isOrganization ▸ .head _)
    · exact proper.texts text (isName ▸ .tail _ (.head _))
    · rw [Value.str.inj isSlug]
      exact Key.holdsHalf_of_isRun proper.isRun
    · exact proper.texts text (isDescription ▸ .tail _ (.tail _ (.head _)))
  unfold RoleStore.saveRole
  rw [identified, Except.ok_bind]
  dsimp only
  rw [keptRole_of_proper proper, written]
  split <;> rfl

end Administered

/-! ## Assignments -/

theorem userOf_str {user : String} (whole : Text.IsWhole user) :
    store.userOf (.str user) = .ok (.str user) :=
  userOf_text fun _ => whole

theorem assign_str {user id : String} (keeps : store.backend.Keeps id) (whole : Text.IsWhole user) :
    store.assign (.str user) (.str id) =
      if store.assignments.any (isHeldBy (.str user) (.str id)) then .ok (store, false)
      else .ok ({ store with assignments := store.assignments ++ [(.str user, .str id)] }, true) := by
  rw [assign_texts keeps, userOf_str whole]
  dsimp only [Except.map]
  split <;> rfl

theorem rolesHeldBy_str {user : String} (whole : Text.IsWhole user) (backend : Backend) :
    (store.on backend).rolesHeldBy (.str user) = store.rolesHeldBy (.str user) := by
  unfold RoleStore.rolesHeldBy
  rw [userOf_str whole, userOf_str whole]
  rfl

end RoleStore

end Authorization

/-!
## Role stores at work on either backend

An action is neutral where it does the same whether roles are kept in memory or in tables. Where the role
store is administered, its operations are neutral, and so is the gate of permissions.
-/

namespace Authorization

open Service

/-- The system with another backend of the role store and the same records. -/
def System.onRoles (system : System) (backend : Backend) : System :=
  { system with roles := system.roles.on backend }

variable {α β : Type} {backend : Backend} {invariant : System → Prop} {system : System}

theorem System.Administered.onRoles {isText : String → Prop} {catalog : Keyed String Permission}
    (administered : system.Administered isText catalog) (backend : Backend) :
    (system.onRoles backend).Administered isText catalog :=
  ⟨administered.unplanned, administered.ids, administered.catalog, administered.roles.on backend⟩

namespace Service

/-- An action on a system does the same with another backend of the role store. -/
def NeutralAt (backend : Backend) (system : System) (action : Service α) : Prop :=
  exec action (system.onRoles backend) =
    ((exec action system).1, (exec action system).2.onRoles backend)

/-- An action does the same with another backend on every system with an invariant. -/
def Neutral (backend : Backend) (invariant : System → Prop) (action : Service α) : Prop :=
  ∀ system, invariant system → NeutralAt backend system action

/-! ### Actions in sequence -/

theorem NeutralAt.bind {action : Service α} {next : α → Service β}
    (first : NeutralAt backend system action)
    (rest : ∀ value after, exec action system = (.ok value, after) →
      NeutralAt backend after (next value)) : NeutralAt backend system (action >>= next) := by
  unfold NeutralAt at first ⊢
  rw [exec_bind, exec_bind, first]
  rcases run : exec action system with ⟨error | value, after⟩
  · rfl
  · exact rest value after run

theorem NeutralAt.map {action : Service α} (neutral : NeutralAt backend system action)
    (write : α → β) : NeutralAt backend system (write <$> action) := by
  unfold NeutralAt at neutral ⊢
  rw [exec_map, exec_map, neutral]

theorem neutral_pure (value : α) : Neutral backend invariant (pure value) :=
  fun _ _ => rfl

theorem neutral_throw (error : Error) : Neutral backend invariant (throw error : Service α) :=
  fun _ _ => rfl

theorem neutralAt_orFail (result : Except Error α) (system : System) :
    NeutralAt backend system (orFail result) := by
  cases result with
  | error error => rfl
  | ok value => rfl

theorem neutral_orFail (result : Except Error α) : Neutral backend invariant (orFail result) :=
  fun system _ => neutralAt_orFail result system

theorem neutral_journaled (action : Journaled α) : Neutral backend invariant (journaled action) :=
  fun _ _ => rfl

theorem Neutral.bind {action : Service α} {next : α → Service β}
    (first : Neutral backend invariant action) (keeps : Keeps invariant action)
    (rest : ∀ value, Neutral backend invariant (next value)) :
    Neutral backend invariant (action >>= next) := by
  intro system holds
  refine (first system holds).bind fun value after run => rest value after ?_
  have middle := keeps system holds
  rw [run] at middle
  exact middle

/-- What follows an action may rely on what the action gives. -/
theorem Neutral.followed {action : Service α} {next : α → Service β} {good : α → Prop}
    (first : Neutral backend invariant action) (keeps : Keeps invariant action)
    (yields : Yields invariant action good)
    (rest : ∀ value, good value → Neutral backend invariant (next value)) :
    Neutral backend invariant (action >>= next) := by
  intro system holds
  refine (first system holds).bind fun value after run => ?_
  have middle := keeps system holds
  have isGood := yields system holds value
  rw [run] at middle isGood
  exact rest value (isGood rfl) after middle

theorem Neutral.checked {result : Except Error α} {next : α → Service β}
    (rest : ∀ value, result = .ok value → Neutral backend invariant (next value)) :
    Neutral backend invariant (orFail result >>= next) :=
  (neutral_orFail result).followed (keeps_orFail result) (yields_orFail result) rest

theorem Neutral.map {action : Service α} (neutral : Neutral backend invariant action)
    (write : α → β) : Neutral backend invariant (write <$> action) :=
  fun system holds => (neutral system holds).map write

theorem Neutral.outcome {action : Service α} (neutral : Neutral backend invariant action) :
    Neutral backend invariant (outcome action) := by
  intro system holds
  have same := neutral system holds
  unfold NeutralAt at same ⊢
  rw [exec_outcome, exec_outcome, same]

theorem Neutral.ite {condition : Prop} [Decidable condition] {first second : Service α}
    (isTrue : Neutral backend invariant first) (isFalse : Neutral backend invariant second) :
    Neutral backend invariant (if condition then first else second) := by
  split
  · exact isTrue
  · exact isFalse

theorem Neutral.guarded {condition : Prop} [Decidable condition] {check : Service PUnit}
    {rest : PUnit → Service α} (checks : Neutral backend invariant check)
    (keeps : Keeps invariant check) (neutral : ∀ done, Neutral backend invariant (rest done)) :
    Neutral backend invariant (if condition then check >>= rest else rest ⟨⟩) :=
  .ite (checks.bind keeps neutral) (neutral ⟨⟩)

/-- What is read of the system may depend on anything but the backend of the role store. -/
theorem neutral_get {next : System → Service α}
    (same : ∀ system : System, next (system.onRoles backend) = next system)
    (rest : ∀ system, Neutral backend invariant (next system)) :
    Neutral backend invariant (get >>= next) := by
  intro system holds
  unfold NeutralAt
  rw [exec_get_bind, exec_get_bind, same]
  exact rest system system holds

theorem neutral_filterM {test : α → Service Bool}
    (neutral : ∀ item, Neutral backend invariant (test item))
    (keeps : ∀ item, Keeps invariant (test item)) (items : List α) :
    Neutral backend invariant (items.filterM test) := by
  have picks (found : List α) : Neutral backend invariant (items.filterAuxM test found) ∧
      Keeps invariant (items.filterAuxM test found) := by
    induction items generalizing found with
    | nil => exact ⟨neutral_pure found, keeps_pure found⟩
    | cons item rest inductionHypothesis =>
        exact ⟨(neutral item).bind (keeps item) fun isKept => (inductionHypothesis _).1,
          (keeps item).bind fun isKept => (inductionHypothesis _).2⟩
  exact (picks []).1.bind (picks []).2 fun found => neutral_pure found.reverse

theorem neutral_ofDraw (draw : Draw α) : Neutral backend invariant (ofDraw draw) :=
  fun system holds => (neutral_journaled (Journaled.ofDraw draw) system holds).bind
    fun result after _ => neutralAt_orFail result after

theorem neutralAt_noteChange (message : String) (organization actor : Value) (system : System) :
    NeutralAt backend system (noteChange message organization actor) :=
  (neutralAt_orFail actor.toText system).bind fun _ _ _ => rfl

theorem neutral_noteChange (message : String) (organization actor : Value) :
    Neutral backend invariant (noteChange message organization actor) :=
  fun system _ => neutralAt_noteChange message organization actor system

/-! ### Any number of actions -/

/-- Neutral actions that keep the invariant come to the same in turn, and keep it. -/
theorem inTurn_onRoles {actions : List (Service α)}
    (neutral : ∀ action ∈ actions, Neutral backend invariant action)
    (keeps : ∀ action ∈ actions, Keeps invariant action) (holds : invariant system) :
    inTurn actions (system.onRoles backend) =
        ((inTurn actions system).1, (inTurn actions system).2.onRoles backend) ∧
      invariant (inTurn actions system).2 := by
  induction actions generalizing system with
  | nil => exact ⟨rfl, holds⟩
  | cons action rest inductionHypothesis =>
      obtain ⟨isNeutral, restNeutral⟩ := List.forall_mem_cons.1 neutral
      obtain ⟨isKept, restKept⟩ := List.forall_mem_cons.1 keeps
      obtain ⟨same, last⟩ := inductionHypothesis restNeutral restKept (isKept system holds)
      have first : exec action (system.onRoles backend) =
        ((exec action system).1, (exec action system).2.onRoles backend) := isNeutral system holds
      simp only [inTurn]
      rw [first, same]
      exact ⟨rfl, last⟩

/-! ### The role store at work -/

section

variable {isText : String → Prop} {catalog : Keyed String Permission}

theorem neutral_role? {id : String} (spells : Text.Uuid.SpellsItself id) :
    Neutral backend (System.Administered isText catalog) (role? (.str id)) := by
  intro system administered
  have unplanned := (administered.onRoles backend).unplanned
  have otherStore := (administered.onRoles backend).roles.role?_str spells
  unfold NeutralAt
  rw [exec_role? administered.unplanned, exec_role? unplanned, administered.roles.role?_str spells]
  exact congrArg (·, system.onRoles backend) otherStore

theorem neutral_listPermissions :
    Neutral backend (System.Administered isText catalog) listPermissions := by
  intro system administered
  have unplanned := (administered.onRoles backend).unplanned
  unfold NeutralAt
  rw [exec_listPermissions administered.unplanned, exec_listPermissions unplanned]
  rfl

theorem neutral_rolesIn {organization : String} (whole : Text.IsWhole organization) :
    Neutral backend (System.Administered isText catalog) (rolesIn (.str organization)) := by
  intro system administered
  have unplanned := (administered.onRoles backend).unplanned
  have asked (backend : Backend) : backend.asks [.str organization] = .ok () :=
    @Backend.asks_texts backend [some organization] fun text member =>
      Option.some.inj (List.mem_singleton.1 member) ▸ whole
  have sameRoles : (system.onRoles backend).roles.rolesIn (.str organization) =
      system.roles.rolesIn (.str organization) := by
    unfold RoleStore.rolesIn
    simp only [Backend.matchesText_str]
    rfl
  unfold NeutralAt
  rw [exec_rolesIn administered.unplanned, exec_rolesIn unplanned, asked, asked, sameRoles]

theorem neutral_roleBySlug? {slug organization : String} (slugWhole : Text.IsWhole slug)
    (whole : Text.IsWhole organization) :
    Neutral backend (System.Administered isText catalog)
      (roleBySlug? (.str slug) (.str organization)) := by
  intro system administered
  have unplanned := (administered.onRoles backend).unplanned
  have areWhole : ∀ text, some text ∈ [some slug, some organization] → Text.holdsHalf text = false := by
    intro text member
    simp only [List.mem_cons, List.not_mem_nil, or_false, Option.some.injEq] at member
    rcases member with rfl | rfl
    · exact slugWhole
    · exact whole
  have asked (backend : Backend) : backend.asks [.str slug, .str organization] = .ok () :=
    @Backend.asks_texts backend [some slug, some organization] areWhole
  have sameRole : (system.onRoles backend).roles.roleBySlug? (.str slug) (.str organization) =
      system.roles.roleBySlug? (.str slug) (.str organization) := by
    unfold RoleStore.roleBySlug?
    simp only [Backend.matchesText_str]
    rfl
  unfold NeutralAt
  rw [exec_roleBySlug? administered.unplanned, exec_roleBySlug? unplanned, asked, asked, sameRole]

theorem NeutralAt.performedValue {action : Service α} (unplanned : system.plans = [])
    (neutral : NeutralAt backend system action) (operation : StoreOperation) (write : α → Value) :
    NeutralAt backend system (performedValue operation write action) := by
  have stillUnplanned : (system.onRoles backend).plans = [] := unplanned
  unfold NeutralAt at neutral ⊢
  rw [exec_performedValue unplanned, exec_performedValue stillUnplanned, neutral]

theorem neutral_rolesHeldBy {user : String} (whole : Text.IsWhole user) :
    Neutral backend (System.Administered isText catalog) (rolesHeldBy (.str user)) := by
  intro system administered
  refine NeutralAt.performedValue administered.unplanned ?_ _ _
  have sameRoles : (system.onRoles backend).roles.rolesHeldBy (.str user) =
      system.roles.rolesHeldBy (.str user) := RoleStore.rolesHeldBy_str whole backend
  unfold NeutralAt
  rw [exec_get_bind, exec_get_bind, sameRoles, exec_orFail, exec_orFail]

theorem neutralAt_changeRoles {change : RoleStore → Except Error (RoleStore × α)}
    (commutes : change (system.roles.on backend) =
      (change system.roles).map fun changed => (changed.1.on backend, changed.2)) :
    NeutralAt backend system (changeRoles change) := by
  have same : change (system.onRoles backend).roles =
    (change system.roles).map fun changed => (changed.1.on backend, changed.2) := commutes
  unfold NeutralAt
  rw [exec_changeRoles, exec_changeRoles, same]
  rcases change system.roles with error | ⟨next, result⟩
  · rfl
  · rfl

theorem neutral_saveRole (wholeCatalog : ∀ slug, catalog.has slug = true → Text.IsWhole slug)
    {role : Role} (proper : role.Proper Text.IsWhole catalog) :
    Neutral backend (System.Administered Text.IsWhole catalog) (saveRole role) := by
  intro system administered
  refine (neutralAt_changeRoles ?_).performedValue administered.unplanned _ _
  have sameCatalog := administered.catalog
  rw [← sameCatalog] at proper wholeCatalog
  have sameClash : (system.roles.on backend).hasClash role = system.roles.hasClash role := rfl
  have otherSaved := @RoleStore.Administered.saveRole_of_proper (system.roles.on backend) role proper
    wholeCatalog
  rw [otherSaved, RoleStore.Administered.saveRole_of_proper proper wholeCatalog, sameClash]
  split <;> rfl

theorem neutralAt_assign (administered : system.Administered isText catalog) {role : Role}
    (member : role ∈ system.roles.roles.values) {user : String} (whole : Text.IsWhole user) :
    NeutralAt backend system (assign (.str user) (.str role.id)) := by
  have otherStore := (administered.onRoles backend).roles
  have run := exec_assign administered.roles.sound member (.str user)
  have otherRun := @exec_assign (system.onRoles backend) otherStore.sound role member (.str user)
  have sameAnswer : (system.onRoles backend).roles.assign (.str user) (.str role.id) =
      (system.roles.assign (.str user) (.str role.id)).map fun changed =>
        (changed.1.on backend, changed.2) := by
    have keeps := administered.roles.keeps member
    have otherKeeps : (system.onRoles backend).roles.backend.Keeps role.id := otherStore.keeps member
    have sameHeld : (system.onRoles backend).roles.assignments = system.roles.assignments := rfl
    rw [RoleStore.assign_str keeps whole, RoleStore.assign_str otherKeeps whole, sameHeld]
    split <;> rfl
  refine NeutralAt.performedValue administered.unplanned ?_ _ _
  unfold NeutralAt
  rw [run, otherRun, sameAnswer]
  rcases system.roles.assign (.str user) (.str role.id) with error | ⟨next, isNew⟩
  · rfl
  · rfl

theorem neutralAt_revoke (administered : system.Administered isText catalog) {role : Role}
    (member : role ∈ system.roles.roles.values) {user : String} (whole : Text.IsWhole user) :
    NeutralAt backend system (revoke (.str user) (.str role.id)) := by
  refine (neutralAt_changeRoles ?_).performedValue administered.unplanned _ _
  have otherStore := administered.roles.on backend
  rw [RoleStore.revoke_str (administered.roles.keeps member),
    RoleStore.revoke_str (otherStore.keeps member), RoleStore.userOf_str whole,
    RoleStore.userOf_str whole]
  have sameHeld : (system.roles.on backend).assignments = system.roles.assignments := rfl
  dsimp only [Except.map]
  rw [sameHeld]
  split <;> rfl

/-! ### The gate -/

theorem exists_texts {values : List Value} (each : ∀ value ∈ values, value.IsRoleId) :
    ∃ texts : List String, values = texts.map .str ∧ ∀ text ∈ texts, Text.Uuid.SpellsItself text := by
  induction values with
  | nil => exact ⟨[], rfl, List.forall_mem_nil _⟩
  | cons value rest inductionHypothesis =>
      obtain ⟨⟨text, isText, spells⟩, others⟩ := List.forall_mem_cons.1 each
      obtain ⟨texts, areTexts, othersSpell⟩ := inductionHypothesis others
      refine ⟨text :: texts, ?_, List.forall_mem_cons.2 ⟨spells, othersSpell⟩⟩
      rw [isText, areTexts, List.map_cons]

theorem neutral_rolesOf {ids : List Value} (areIds : ∀ id ∈ ids, id.IsRoleId) :
    Neutral backend (System.Administered isText catalog) (rolesOf (.tuple ids)) := by
  obtain ⟨texts, areTexts, textsSpell⟩ := exists_texts areIds
  have run {system : System} (administered : system.Administered isText catalog) :
      exec (rolesOf (.tuple ids)) system = (.ok (sortedBy Role.sortKey
        (system.roles.roles.values.filter fun role => texts.contains role.id)), system) := by
    have items : exec (ofDraw (Value.tuple ids).items) system = (.ok ids, system) := rfl
    unfold rolesOf
    rw [exec_performed administered.unplanned, exec_bind_of_ok items, exec_get_bind,
      exec_orFail, areTexts, administered.roles.rolesOf_strs textsSpell]
  intro system administered
  unfold NeutralAt
  rw [run administered, run (administered.onRoles backend)]
  rfl

theorem neutral_readAttribute (value : Value) (name : String) :
    Neutral backend invariant (readAttribute value name) := by
  unfold readAttribute
  split
  · exact neutral_pure _
  · exact neutral_orFail _

theorem neutral_letsPass (principal resource action : Value) (role : Role) :
    Neutral backend invariant (letsPass principal resource action role) :=
  (neutral_readAttribute _ _).bind (keeps_readAttribute _ _) fun _ =>
    .ite (.checked fun _ _ => .checked fun _ _ => neutral_pure _) (neutral_pure _)

/-- The gate says the same of a principal whose roles are texts that spell themselves. -/
theorem neutral_evaluatePermissions {principal : Principal}
    (areIds : ∀ id ∈ principal.roles, id.IsRoleId) (resource action : Value) :
    Neutral backend (System.Administered isText catalog)
      (evaluatePermissions principal.toValue resource action) := by
  have ofUnplanned := @System.ofUnplanned_administered isText catalog
  have held : readAttribute principal.toValue "roles" = pure (.tuple principal.roles) := rfl
  unfold evaluatePermissions
  refine (neutral_readAttribute _ _).bind (keeps_readAttribute _ _) fun account =>
    .guarded (neutral_orFail _) (keeps_orFail _) fun _ => neutral_get (fun _ => rfl) fun _ =>
      .ite (neutral_pure _) ?_
  rw [held, pure_bind]
  refine .ite ((neutral_readAttribute _ _).bind (keeps_readAttribute _ _) fun _ => neutral_pure _) ?_
  refine (neutral_rolesOf areIds).bind (ofUnplanned.rolesOf _) fun found =>
    (neutral_filterM (neutral_letsPass _ resource action) (keeps_letsPass _ resource action) found).bind
      (keeps_filterM (keeps_letsPass _ resource action) found) fun granting =>
        .ite (neutral_pure _) ?_
  exact (neutral_readAttribute _ _).bind (keeps_readAttribute _ _) fun _ =>
    .checked fun _ _ => neutral_pure _

end

end Service

end Authorization
