import Authorization.Proofs.Administration.RoleEffects
import Authorization.Proofs.Store.Assignments
import Authorization.Proofs.System.SavedRoles

/-!
# Assignments as a relation

Who holds which role is what has been settled last: of all calls that have assigned a role to a user or
revoked it, the last one counts, whatever has become of roles in between and whichever calls have failed.
The roles of a user are listed in order, the holders of a role are counted, and a call answers whether it
has changed anything.
-/

namespace Authorization

open Service

/-! ## What calls settle -/

/-- What has been settled, one after the other: whether a user holds the role of an identifier. -/
abbrev Settlements := List ((String × String) × Bool)

/-- The users and the roles that they hold, by what has been settled last of each. -/
def Settlements.holding (history : Settlements) : Set (String × String) :=
  {held | history.reverse.lookup held = some true}

theorem Settlements.mem_holding_append {history : Settlements} {held settled : String × String}
    {isHeld : Bool} : held ∈ Settlements.holding (history ++ [(settled, isHeld)]) ↔
      if held = settled then isHeld = true else held ∈ history.holding := by
  rw [holding, Set.mem_ofPred_eq, List.reverse_append, List.reverse_singleton, List.singleton_append]
  by_cases same : held = settled
  · rw [if_pos same, same, List.lookup_cons_self, Option.some_inj]
  · rw [if_neg same, List.lookup_cons, beq_false_of_ne same]
    rfl

/-- What is settled changes nothing when it has been so before. -/
theorem Settlements.holding_append_eq_iff {history : Settlements} {settled : String × String}
    {isHeld : Bool} : Settlements.holding (history ++ [(settled, isHeld)]) = history.holding ↔
      (settled ∈ history.holding ↔ isHeld = true) := by
  rw [Set.ext_iff]
  simp only [mem_holding_append]
  constructor
  · intro same
    rw [← same settled, if_pos rfl]
  · intro already held
    by_cases isSame : held = settled
    · rw [if_pos isSame, isSame]
      exact already.symm
    · rw [if_neg isSame]

/-- By one settlement that assigns a role, one user holds one role. -/
theorem Settlements.mem_holding_singleton {held settled : String × String} :
    held ∈ Settlements.holding [(settled, true)] ↔ held = settled := by
  rw [← List.nil_append [(settled, true)], mem_holding_append]
  simp [holding]

namespace AdminCall

/-- The call makes or deletes a role, or it assigns or revokes one under an identifier as it is kept, in
the name of an actor that can be written. -/
inductive OnAssignments (backend : Backend) : AdminCall → Prop
  | createRole (name slug permissions description isDefault actor : Value) :
      OnAssignments backend (.createRole name slug permissions description isDefault actor)
  | deleteRole (id actor : Value) : OnAssignments backend (.deleteRole id actor)
  | assignRole {id written : String} {actor : Value} (keeps : backend.Keeps id)
      (isWritten : actor.toText = .ok written) (user : Value) :
      OnAssignments backend (.assignRole user (.str id) actor)
  | revokeRole {id written : String} {actor : Value} (keeps : backend.Keeps id)
      (isWritten : actor.toText = .ok written) (user : Value) :
      OnAssignments backend (.revokeRole user (.str id) actor)

/-- What a call settles when it succeeds: that the clean user holds a role, or does not. -/
def settled? (call : AdminCall) (result : Except Error Reply) : Option ((String × String) × Bool) :=
  match result, call with
  | .ok _, .assignRole (.str user) (.str id) _ => some ((Text.trim user, id), true)
  | .ok _, .revokeRole (.str user) (.str id) _ => some ((Text.trim user, id), false)
  | _, _ => none

/-- To make a role settles nothing about who holds it. -/
theorem settled?_createRole (name slug permissions description isDefault actor : Value)
    (result : Except Error Reply) :
    (createRole name slug permissions description isDefault actor).settled? result = none := by
  cases result <;> rfl

/-- To delete a role settles nothing, since nobody holds a role that can be deleted. -/
theorem settled?_deleteRole (id actor : Value) (result : Except Error Reply) :
    (deleteRole id actor).settled? result = none := by
  cases result <;> rfl

end AdminCall

namespace System

/-- Calls on assignments lead to a system, whether they succeed or fail, and settle a history. -/
inductive Assigns [Host] (system : System) : Settlements → System → Prop
  | refl : Assigns system [] system
  | call {history : Settlements} {middle after : System} {organization : Value} {made : AdminCall}
      {result : Except Error Reply} (earlier : Assigns system history middle)
      (onAssignments : made.OnAssignments system.roles.backend)
      (runs : exec (made.perform organization) middle = (result, after)) :
      Assigns system (history ++ (made.settled? result).toList) after

/-- The assignments of a system are those that a history has settled. -/
structure Records (backend : Backend) (history : Settlements) (system : System) : Prop where
  unplanned : system.plans = []
  sound : system.roles.Sound
  sameBackend : system.roles.backend = backend
  heldOnce : system.roles.HeldOnce
  held : ∀ user id, (Value.str user, Value.str id) ∈ system.roles.assignments ↔
    (user, id) ∈ history.holding

variable {α : Type} {backend : Backend} {history : Settlements} {system after : System}
  {user id : String}

theorem ofStores_records : OfStores (Records backend history) where
  unplanned _ records := records.unplanned
  journal _ _ records := { records with unplanned := records.unplanned }
  others _ _ _ _ _ _ _ records := { records with unplanned := records.unplanned }

/-- Other roles with the same assignments keep to the history. -/
theorem Records.keeps_changeRoles {change : RoleStore → Except Error (RoleStore × α)}
    (spares : ∀ store next value, store.Sound → change store = .ok (next, value) →
      next.Sound ∧ next.backend = store.backend ∧ next.assignments = store.assignments) :
    Keeps (Records backend history) (changeRoles change) := by
  intro system records
  rw [exec_changeRoles]
  rcases changed : change system.roles with error | ⟨next, value⟩
  · exact records
  · obtain ⟨sound, sameBackend, sameAssignments⟩ := spares _ _ _ records.sound changed
    refine ⟨records.unplanned, sound, sameBackend.trans records.sameBackend,
      ⟨?_, ?_⟩, fun user id => ?_⟩
    · exact sameAssignments ▸ records.heldOnce.texts
    · exact sameAssignments ▸ records.heldOnce.once
    · exact (sameAssignments ▸ records.held user id :)

theorem Records.keeps_saveRole (role : Role) : Keeps (Records backend history) (saveRole role) := by
  refine ofStores_records.performedValue (keeps_changeRoles fun store next value sound saved => ?_) _ _
  obtain ⟨saved, isSaved, same⟩ := Except.map_eq_ok_iff.1 saved
  cases same
  obtain ⟨kept, _, _, _, _, _, rfl⟩ := RoleStore.saveRole_eq_ok isSaved
  exact ⟨sound.saveRole isSaved, rfl, rfl⟩

theorem Records.keeps_deleteRole (id : Value) : Keeps (Records backend history) (deleteRole id) := by
  refine ofStores_records.performedValue (keeps_changeRoles fun store next value sound deleted => ?_) _ _
  have stillSound := sound.deleteRole deleted
  rcases RoleStore.deleteRole_eq_ok deleted with ⟨_, _, _, rfl, _⟩ | ⟨_, _, _, _, _, rfl, _⟩
  · exact ⟨stillSound, rfl, rfl⟩
  · exact ⟨stillSound, rfl, rfl⟩

/-- What is settled last is added to the history. -/
theorem Records.settle (records : system.Records backend history) {next : RoleStore}
    {isHeld answer : Bool} (settles : system.roles.Settles next user id isHeld answer)
    (journal : Journal) :
    Records backend (history ++ [((user, id), isHeld)]) { system with roles := next, journal } := by
  refine ⟨records.unplanned, settles.sound, settles.sameBackend.trans records.sameBackend,
    settles.heldOnce, fun holder held => ?_⟩
  rw [Settlements.mem_holding_append]
  by_cases isSettled : (holder, held) = (user, id)
  · rw [if_pos isSettled]
    cases isSettled
    exact settles.here
  · rw [if_neg isSettled, ← records.held]
    exact settles.others _ fun same => isSettled (RoleStore.assignmentOf_injective same)

/-- The answer of a change tells whether the relation is another one. -/
theorem Records.tells (records : system.Records backend history) {next : RoleStore}
    {isHeld answer : Bool} (settles : system.roles.Settles next user id isHeld answer) :
    answer = true ↔
      Settlements.holding (history ++ [((user, id), isHeld)]) ≠ history.holding := by
  rw [settles.tells, records.held, ne_eq, Settlements.holding_append_eq_iff]

end System

/-! ## Calls that settle who holds a role -/

namespace RoleAdministration

variable {system : System} {id written : String} {organization user actor : Value}

/-- Under a kept identifier the role that has it is found, or nothing is. -/
theorem find_str_cases (unplanned : system.plans = []) (sound : system.roles.Sound)
    (keeps : system.roles.backend.Keeps id) (organization : Value) :
    (∃ error, exec (find organization (.str id)) system = (.error error, system)) ∨
      ∃ role ∈ system.roles.roles.values, role.id = id ∧
        exec (find organization (.str id)) system = (.ok role, system) := by
  have isRead : system.roles.role? (.str id) = .ok (system.roles.roles.get? id) := by
    rw [RoleStore.role?, keeps.identifier]
    rfl
  refine (find_cases unplanned organization (.str id)).imp_right ?_
  rintro ⟨role, member, ⟨isRole, _⟩, isFound⟩
  rw [isRead] at isRole
  exact ⟨role, member, (sound.roles.get?_eq_some_iff.1 (Except.ok.inj isRole)).2, isFound⟩

/-- A change of who holds a role comes to nothing, or it is made for the clean user, told and logged. -/
inductive Comes (system : System) (user : Value) (id : String) (isHeld : Bool) :
    Except Error Value × System → Prop
  | fails (error : Error) : Comes system user id isHeld (.error error, system)
  | changes {given : String} {next : RoleStore} {answer : Bool} (journal : Journal)
      (isUser : user = .str given)
      (settles : system.roles.Settles next (Text.trim given) id isHeld answer) :
      Comes system user id isHeld (.ok (.bool answer), { system with roles := next, journal })

/-- An answer is logged when it tells of a change. -/
theorem exec_logged (isWritten : actor.toText = .ok written) (message : String) (organization : Value)
    (answer : Bool) (system : System) : ∃ journal,
      exec (do
        if (Value.bool answer).truthy then noteChange message organization actor
        return Value.bool answer) system = (.ok (.bool answer), { system with journal }) := by
  cases answer with
  | false => exact ⟨system.journal, rfl⟩
  | true => exact ⟨_, exec_bind_of_ok (exec_noteChange isWritten message organization system)⟩

section

variable (unplanned : system.plans = []) (sound : system.roles.Sound)
  (heldOnce : system.roles.HeldOnce) (keeps : system.roles.backend.Keeps id)
  (isWritten : actor.toText = .ok written)

include unplanned sound keeps isWritten

/-- What becomes of a call that cleans the user, finds the role and has the store make a change. -/
theorem comes_of_runs {operation : Value → Value → Service Value} {isHeld : Bool}
    {change : RoleStore → Value → Value → Except Error (RoleStore × Bool)}
    (runs : ∀ user, ∀ role ∈ system.roles.roles.values, exec (operation user (.str role.id)) system =
      ((answered system (change system.roles user (.str role.id))).1.map .bool,
        (answered system (change system.roles user (.str role.id))).2))
    (settles : ∀ user, ∀ role ∈ system.roles.roles.values, ∀ next answer,
      change system.roles (.str user) (.str role.id) = .ok (next, answer) →
        system.roles.Settles next user role.id isHeld answer)
    (message : String → String) :
    Comes system user id isHeld (exec (do
      let user ← orFail (Cleaning.text "user_id" user)
      let role ← find organization (.str id)
      let changed ← operation (.str user) (.str role.id)
      if changed.truthy then noteChange (message user) organization actor
      return changed) system) := by
  rw [exec_bind, exec_orFail]
  cases isClean : Cleaning.text "user_id" user with
  | error error => exact .fails error
  | ok clean =>
      obtain ⟨given, isUser, rfl⟩ := Cleaning.text_eq_ok isClean
      dsimp only
      rcases find_str_cases unplanned sound keeps organization with
        ⟨error, fails⟩ | ⟨role, member, rfl, isFound⟩
      · rw [exec_bind_of_error fails]
        exact .fails error
      · rw [exec_bind_of_ok isFound, exec_bind, runs _ role member]
        cases changed : change system.roles (.str (Text.trim given)) (.str role.id) with
        | error error => exact .fails error
        | ok result =>
            obtain ⟨next, answer⟩ := result
            obtain ⟨journal, logged⟩ := exec_logged isWritten (message (Text.trim given)) organization
              answer { system with roles := next }
            have comes : Comes system user role.id isHeld
                (.ok (.bool answer), { system with roles := next, journal }) :=
              .changes journal isUser (settles _ role member _ _ changed)
            rw [← logged] at comes
            exact comes

include heldOnce

theorem comes_of_assign :
    Comes system user id true (exec (assign organization user (.str id) actor) system) := by
  refine comes_of_runs unplanned sound keeps isWritten (fun user role member => ?_)
    (fun user role member next answer => RoleStore.settles_of_assign sound heldOnce member) _
  unfold Service.assign
  rw [exec_performedValue unplanned, exec_assign sound member]

theorem comes_of_revoke :
    Comes system user id false (exec (revoke organization user (.str id) actor) system) := by
  refine comes_of_runs unplanned sound keeps isWritten (fun user role member => ?_)
    (fun user role member next answer => RoleStore.settles_of_revoke sound heldOnce member) _
  unfold Service.revoke
  rw [exec_performedValue unplanned, exec_changeRoles]

end

end RoleAdministration

namespace System

/-! ## Histories -/

variable {backend : Backend} {history : Settlements} {system after : System} {made : AdminCall}
  {organization user : Value} {id : String}

/-- What follows a history when something is settled or nothing is, and what is answered. -/
structure Continues (backend : Backend) (history : Settlements) (settled : Settlements)
    (ran : Except Error Reply × System) : Prop where
  records : Records backend (history ++ settled) ran.2
  answer : settled ≠ [] → ∃ changes, ran.1 = .ok (.value (.bool changes)) ∧
    (changes = true ↔ Settlements.holding (history ++ settled) ≠ history.holding)

theorem Records.continues_of_comes (records : system.Records backend history) {action : Service Value}
    {isHeld : Bool} (comes : RoleAdministration.Comes system user id isHeld (exec action system))
    {settled? : Except Error Reply → Option ((String × String) × Bool)}
    (unsettled : ∀ error, settled? (.error error) = none)
    (settles : ∀ given reply, user = .str given →
      settled? (.ok reply) = some ((Text.trim given, id), isHeld)) :
    Continues backend history (settled? (exec (Reply.value <$> action) system).1).toList
      (exec (Reply.value <$> action) system) := by
  rw [exec_map]
  generalize exec action system = ran at comes
  cases comes with
  | fails error =>
      dsimp only [Except.map]
      rw [unsettled, Option.toList_none]
      exact ⟨by rwa [List.append_nil], fun isSettled => absurd rfl isSettled⟩
  | changes journal isUser changed =>
      dsimp only [Except.map]
      rw [settles _ _ isUser, Option.toList_some]
      exact ⟨records.settle changed journal, fun _ => ⟨_, rfl, records.tells changed⟩⟩

theorem Records.continues_of_keeps (records : system.Records backend history)
    {action : Service Reply} (keeps : Keeps (Records backend history) action)
    (unsettled : made.settled? (exec action system).1 = none) :
    Continues backend history (made.settled? (exec action system).1).toList (exec action system) := by
  rw [unsettled, Option.toList_none]
  refine ⟨?_, fun isSettled => absurd rfl isSettled⟩
  rw [List.append_nil]
  exact keeps system records

/-- A call on assignments continues the history, whatever comes of it. -/
theorem Records.continues [Host] (records : system.Records backend history)
    (onAssignments : made.OnAssignments backend) (organization : Value) :
    Continues backend history (made.settled? (exec (made.perform organization) system).1).toList
      (exec (made.perform organization) system) := by
  have sameBackend := records.sameBackend
  cases onAssignments with
  | createRole name slug permissions description isDefault actor =>
      exact records.continues_of_keeps (.map (RoleAdministration.keeps_create ofStores_records
        Records.keeps_saveRole organization name slug permissions description isDefault actor) _)
        (AdminCall.settled?_createRole ..)
  | deleteRole id actor =>
      exact records.continues_of_keeps (.map (RoleAdministration.keeps_delete
        ofStores_records.toOfUnplanned Records.keeps_deleteRole organization id actor) _)
        (AdminCall.settled?_deleteRole ..)
  | assignRole keeps isWritten user =>
      have comes := @RoleAdministration.comes_of_assign system _ _ organization user _
        records.unplanned records.sound records.heldOnce (sameBackend ▸ keeps) isWritten
      exact records.continues_of_comes comes (fun _ => rfl) (by rintro given reply rfl; rfl)
  | revokeRole keeps isWritten user =>
      have comes := @RoleAdministration.comes_of_revoke system _ _ organization user _
        records.unplanned records.sound records.heldOnce (sameBackend ▸ keeps) isWritten
      exact records.continues_of_comes comes (fun _ => rfl) (by rintro given reply rfl; rfl)

/-- The assignments of a system are what a history has settled: the roles of a clean user are listed in
order, each once, the holders of a role are counted, and a call that settles anything next answers whether
it makes another relation of it. -/
structure AccordsWith [Host] (history : Settlements) (system : System) : Prop where
  listed : ∀ given, (system.roles.backend = .tables → Text.holdsHalf (Text.trim given) = false) →
    ∃ ids : List String,
      exec (AdminRequest.rolesHeldBy (.str (Text.trim given))).perform system =
        (.ok (.value (.tuple (ids.map .str))), system) ∧
      (ids.Pairwise fun id later => codesOf id < codesOf later) ∧
      ∀ id, id ∈ ids ↔ (Text.trim given, id) ∈ history.holding
  counted : ∀ id, system.roles.backend.Keeps id → ∃ users : List String,
    exec (countHolders (.str id)) system = (.ok (.int users.length), system) ∧ users.Nodup ∧
      ∀ user, user ∈ users ↔ (user, id) ∈ history.holding
  answered : ∀ (organization : Value) (made : AdminCall) (settled : (String × String) × Bool),
    made.OnAssignments system.roles.backend →
      made.settled? (exec (made.perform organization) system).1 = some settled →
        ∃ changes, (exec (made.perform organization) system).1 = .ok (.value (.bool changes)) ∧
          (changes = true ↔ Settlements.holding (history ++ [settled]) ≠ history.holding)

theorem Records.accordsWith [Host] (records : system.Records backend history) :
    system.AccordsWith history where
  listed given isWhole := by
    obtain ⟨ids, areIds, ordered, mem_iff⟩ :=
      records.heldOnce.exists_rolesHeldBy (RoleStore.userOf_text isWhole)
    refine ⟨ids, ?_, ordered, fun id => (mem_iff id).trans (records.held _ id)⟩
    unfold AdminRequest.perform
    rw [exec_map, exec_rolesHeldBy records.unplanned, areIds]
    rfl
  counted id keeps := by
    obtain ⟨users, areUsers, apart, mem_iff⟩ := records.heldOnce.exists_holders id
    refine ⟨users, ?_, apart, fun user => (mem_iff user).trans (records.held user id)⟩
    rw [exec_countHolders records.unplanned, RoleStore.countHolders_str keeps, areUsers]
    rfl
  answered organization made settled onAssignments isSettled := by
    have continues := records.continues (records.sameBackend ▸ onAssignments) organization
    rw [isSettled, Option.toList_some] at continues
    exact continues.answer (List.cons_ne_nil _ _)

theorem Assigns.records [Host] (unplanned : system.plans = []) (sound : system.roles.Sound)
    (noAssignments : system.roles.assignments = []) (assigns : system.Assigns history after) :
    after.Records system.roles.backend history := by
  induction assigns with
  | refl =>
      refine ⟨unplanned, sound, rfl, ⟨?_, ?_⟩, fun user id => ?_⟩
      · rw [noAssignments]
        exact List.forall_mem_nil _
      · rw [noAssignments]
        exact List.nodup_nil
      · rw [noAssignments]
        exact iff_of_false List.not_mem_nil nofun
  | @call _ _ _ organization _ _ _ onAssignments runs inductionHypothesis =>
      have continues := inductionHypothesis.continues onAssignments organization
      rw [runs] at continues
      exact continues.records

/-- Assignments are a relation. From a system without assignments, in memory or in tables, whatever calls
make, delete, assign and revoke roles of any organizations, successfully or not, users hold the roles that
have been settled so last: they are listed and counted so, and each next call answers whether it changes
this. -/
theorem assignments_are_a_relation [Host] (unplanned : system.plans = []) (sound : system.roles.Sound)
    (noAssignments : system.roles.assignments = []) (assigns : system.Assigns history after) :
    after.AccordsWith history :=
  (assigns.records unplanned sound noAssignments).accordsWith

theorem sound_shopSystem : shopSystem.roles.Sound :=
  ⟨⟨List.nodup_singleton _, List.forall_mem_singleton.2 rfl⟩, .nil, List.forall_mem_nil _, nofun⟩

theorem Assigns.perform [Host] {middle : System} (earlier : system.Assigns history middle)
    (onAssignments : made.OnAssignments system.roles.backend) (organization : Value) :
    system.Assigns (history ++ (made.settled? (exec (made.perform organization) middle).1).toList)
      (exec (made.perform organization) middle).2 :=
  earlier.call onAssignments rfl

open scoped Host in
/-- The shop makes a role and assigns it to a user. -/
theorem assigns_shopAfter : shopSystem.Assigns [(("u1", shopId), true)] shopAfter := by
  have created := (@Assigns.refl _ shopSystem).perform (.createRole (.str "Sales") (.str " SALES")
    (.list [.str "deal:read"]) .null (.bool false) .null) (.str "shop")
  have assigned := created.perform (@AdminCall.OnAssignments.assignRole .memory shopId "None" .null
    rfl rfl (.str "u1")) (.str "shop")
  have isSettled : (AdminCall.assignRole (.str "u1") (.str shopId) .null).settled?
      (exec ((AdminCall.assignRole (.str "u1") (.str shopId) .null).perform (.str "shop"))
        (exec ((AdminCall.createRole (.str "Sales") (.str " SALES") (.list [.str "deal:read"]) .null
          (.bool false) .null).perform (.str "shop")) shopSystem).2).1 =
      some (("u1", shopId), true) := by decide +kernel
  rw [AdminCall.settled?_createRole, isSettled] at assigned
  exact assigned

open scoped Host in
theorem assignments_are_a_relation_shop :
    shopSystem.plans = [] ∧ shopSystem.roles.Sound ∧ shopSystem.roles.assignments = [] ∧
      shopSystem.Assigns [(("u1", shopId), true)] shopAfter ∧
      exec (AdminRequest.rolesHeldBy (.str "u1")).perform shopAfter =
        (.ok (.value (.tuple [.str shopId])), shopAfter) := by
  have accords := assignments_are_a_relation rfl sound_shopSystem rfl assigns_shopAfter
  obtain ⟨ids, areListed, ordered, mem_iff⟩ := accords.listed "u1" fun _ => by decide +kernel
  have isClean : Text.trim "u1" = "u1" := by decide +kernel
  have areIds : ids = [shopId] := by
    refine eq_of_pairwise_lt ordered (List.pairwise_singleton _ _) fun id => ?_
    rw [mem_iff, isClean, Settlements.mem_holding_singleton, List.mem_singleton, Prod.mk.injEq]
    exact and_iff_right rfl
  rw [isClean, areIds] at areListed
  exact ⟨rfl, sound_shopSystem, rfl, assigns_shopAfter, areListed⟩

/-- A half of a pair that stands alone. -/
def halfText : String :=
  String.singleton (Text.ofCode 0xD800)

open scoped Host in
/-- The roles of a user are looked up under the text as it is given: with blanks around it there are none,
and tables fail where it cannot be written. -/
theorem users_are_looked_up_as_given :
    shopSystem.plans = [] ∧ shopSystem.roles.Sound ∧ shopSystem.roles.assignments = [] ∧
      shopSystem.Assigns [(("u1", shopId), true)] shopAfter ∧
      (Text.trim " u1 ", shopId) ∈ Settlements.holding [(("u1", shopId), true)] ∧
      exec (AdminRequest.rolesHeldBy (.str " u1 ")).perform shopAfter =
        (.ok (.value (.tuple [])), shopAfter) ∧
      shopInTables.plans = [] ∧ shopInTables.roles.Sound ∧ shopInTables.roles.assignments = [] ∧
      shopInTables.Assigns [] shopInTables ∧
      ∃ error, exec (AdminRequest.rolesHeldBy (.str halfText)).perform shopInTables =
        (.error error, shopInTables) := by
  have records := assigns_shopAfter.records rfl sound_shopSystem rfl
  have isUser : shopAfter.roles.userOf (.str " u1 ") = .ok (.str " u1 ") :=
    RoleStore.userOf_text fun _ => by decide +kernel
  obtain ⟨ids, areIds, _, mem_iff⟩ := records.heldOnce.exists_rolesHeldBy isUser
  have isNone : ids = [] := by
    refine List.eq_nil_iff_forall_not_mem.2 fun id isThere => ?_
    have held := (records.held _ _).1 ((mem_iff id).1 isThere)
    rw [Settlements.mem_holding_singleton, Prod.mk.injEq] at held
    exact absurd held.1 (by decide)
  have isClean : Text.trim " u1 " = "u1" := by decide +kernel
  have isBroken : Column.encoded [.str halfText] =
      fault .unencodable "half of a pair stands alone" := by
    rw [Column.encoded, if_pos (by decide +kernel)]
  refine ⟨rfl, sound_shopSystem, rfl, assigns_shopAfter, ?_, ?_, rfl, accepted_shopInTables.sound, rfl,
    .refl, ?_⟩
  · rw [Settlements.mem_holding_singleton, isClean]
  · unfold AdminRequest.perform
    rw [exec_map, exec_rolesHeldBy records.unplanned, areIds, isNone]
    rfl
  · have unwritable : ∃ error, shopInTables.roles.rolesHeldBy (.str halfText) = .error error := by
      unfold RoleStore.rolesHeldBy RoleStore.userOf
      dsimp only [shopInTables]
      rw [Column.text_str, Except.ok_bind, isBroken]
      exact ⟨_, rfl⟩
    obtain ⟨error, fails⟩ := unwritable
    unfold AdminRequest.perform
    rw [exec_map, exec_rolesHeldBy rfl, fails]
    exact ⟨error, rfl⟩

end System

end Authorization
