import Authorization.Proofs.Decision.Question
import Authorization.Proofs.System.Session
import Authorization.Proofs.Tenancy.Confidentiality

/-!
# Integrity of organizations

What an administrator of an organization does changes no decision about principals of other
organizations. A decision depends on the settings, on the roles of the principal's organization, on the
chain that is in charge there, and on whether the roles that the principal holds can be looked up at all;
this last point is where a role of another organization can matter.
-/

namespace Authorization

open Service

variable {catalog : RuleCatalog} {fixed : Keyed String PolicyChain} {within : String → Prop}
  {system after : System} {principal : Principal} {question : Question} {given : String}

/-! ## Looking roles up -/

namespace RoleStore

variable {store next : RoleStore} {ids : List Value}

/-- One of some values asks for a role. -/
def AskedFor (store : RoleStore) (ids : List Value) (id : String) : Prop :=
  ∃ value ∈ ids, store.backend.identifier value = .ok (some id)

/-- Roles are found unless an identifier is refused, or a role that is asked for cannot be a member of a
set where roles are kept as they are. -/
theorem exists_rolesOf_iff : (∃ found, store.rolesOf ids = .ok found) ↔
    (∃ known, ids.mapM store.backend.identifier = .ok known) ∧
      store.Plain fun _ id => store.AskedFor ids id := by
  unfold rolesOf
  rcases identified : ids.mapM store.backend.identifier with error | known
  · rw [Except.error_bind]
    exact ⟨nofun, nofun⟩
  · rw [Except.ok_bind]
    have asked (role : Role) : known.contains (some role.id) = true ↔ store.AskedFor ids role.id := by
      rw [List.contains_iff_mem, Except.mem_of_mapM_eq_ok identified, AskedFor]
    have noObstacle : (store.roles.values.filter fun role =>
        known.contains (some role.id)).findSome? obstacle? = none ↔
        ∀ role ∈ store.roles.values, store.AskedFor ids role.id → obstacle? role = none := by
      simp only [List.findSome?_eq_none_iff, List.mem_filter, and_imp, asked]
    rw [Plain, ← noObstacle]
    dsimp only
    generalize (store.roles.values.filter fun role => known.contains (some role.id)).findSome?
      obstacle? = part?
    cases store.backend with
    | tables => exact ⟨fun _ => ⟨⟨known, rfl⟩, nofun⟩, fun _ => ⟨_, rfl⟩⟩
    | memory =>
        cases part? with
        | none => exact ⟨fun _ => ⟨⟨known, rfl⟩, fun _ => rfl⟩, fun _ => ⟨_, rfl⟩⟩
        | some part =>
            refine ⟨fun ⟨_, impossible⟩ => ?_, fun ⟨_, noPart⟩ => ?_⟩
            · cases impossible
            · cases noPart rfl

/-- Stores that agree on all but some organizations find roles under the same conditions, when no role of
these that is asked for stands in the way. -/
theorem AgreesOn.exists_rolesOf
    (spared : store.AgreesOn (fun organization => ¬within organization) next)
    (plain : store.Plain fun organization id => within organization ∧ store.AskedFor ids id)
    (nextPlain : next.Plain fun organization id => within organization ∧ store.AskedFor ids id) :
    (∃ found, store.rolesOf ids = .ok found) ↔ ∃ found, next.rolesOf ids = .ok found := by
  have asked (id : String) : store.AskedFor ids id ↔ next.AskedFor ids id := by
    rw [AskedFor, AskedFor, spared.backend]
  rw [exists_rolesOf_iff, exists_rolesOf_iff, spared.backend]
  -- The organizations may hold different roles: these are plain by assumption, all others are the same.
  refine and_congr_right fun _ => ⟨fun allPlain isMemory role member isAsked => ?_,
    fun allPlain isMemory role member isAsked => ?_⟩
  · by_cases isWithin : within role.organization
    · exact nextPlain isMemory role member ⟨isWithin, (asked role.id).2 isAsked⟩
    · exact allPlain (spared.backend ▸ isMemory) role ((spared.roles role isWithin).2 member)
        ((asked role.id).2 isAsked)
  · by_cases isWithin : within role.organization
    · exact plain isMemory role member ⟨isWithin, isAsked⟩
    · exact allPlain (spared.backend ▸ isMemory) role ((spared.roles role isWithin).1 member)
        ((asked role.id).1 isAsked)

end RoleStore

/-- The stored roles that let a principal pass are the same where its organization is spared. -/
theorem Principal.exists_opens_iff {store next : RoleStore}
    (spared : store.AgreesOn (fun organization => ¬within organization) next)
    (foreign : ∀ name, principal.organization = some name → ¬within name)
    (resource action : String) : (∃ role, principal.Opens store resource action role) ↔
      ∃ role, principal.Opens next resource action role := by
  refine exists_congr fun role => ⟨fun opens => ?_, fun opens => ?_⟩
  · exact ⟨(spared.roles role (foreign _ opens.own)).1 opens.stored, spared.backend ▸ opens.held,
      opens.own, opens.grants⟩
  · exact ⟨(spared.roles role (foreign _ opens.own)).2 opens.stored, spared.backend ▸ opens.held,
      opens.own, opens.grants⟩

/-! ## Decisions -/

/-- Why the gate failed makes no difference to a decision, as long as it can be written, nor does what the
log holds. -/
theorem Decision.verdict_congr [Host] {key action : String} {instance? context : Value}
    {journal other : Journal} {gate otherGate : Except Error Bool} {chain? : Option PolicyChain}
    (sameCursors : journal.cursors = other.cursors) (sameGate : gate.toOption = otherGate.toOption)
    (written : gate.FailsWith Error.HasText) (otherWritten : otherGate.FailsWith Error.HasText) :
    verdict key principal action instance? context journal gate chain? =
      verdict key principal action instance? context other otherGate chain? := by
  have sameAnswer (chain : PolicyChain) (attributes : DecisionAttributes) :
      chain.answer attributes journal = chain.answer attributes other :=
    (chain.blind_evaluate attributes journal other sameCursors).1
  rcases gate with error | passed <;> rcases otherGate with another | otherPassed
  · unfold verdict
    dsimp only
    rw [Error.toLogged_of_hasText written, Error.toLogged_of_hasText otherWritten]
    rfl
  · cases sameGate
  · cases sameGate
  · cases sameGate
    unfold verdict
    simp only [sameAnswer]

namespace System.Spares

variable (spares : system.Spares within after)
  (foreign : ∀ name, question.principal.organization = some name → ¬within name)
  (plain : system.roles.Plain fun organization id =>
    within organization ∧ system.roles.AskedFor question.principal.roles id)

include spares foreign plain

/-- The gate lets the same principals of other organizations pass. -/
theorem gateAnswer (unplanned : system.plans = []) (afterUnplanned : after.plans = []) :
    (question.gateAnswer system).toOption = (question.gateAnswer after).toOption := by
  have answer := rolesAnswer_of_unplanned unplanned question.principal.roles
  have afterAnswer := rolesAnswer_of_unplanned afterUnplanned question.principal.roles
  have sameFound := spares.roles.exists_rolesOf plain (spares.plain _ plain)
  unfold Question.gateAnswer System.gate
  rw [spares.settings, answer, afterAnswer]
  split
  · rfl
  split
  · rfl
  -- Two lookups that fail may name different parts of different roles.
  · rcases found : system.roles.rolesOf question.principal.roles with error | roles <;>
      rcases afterFound : after.roles.rolesOf question.principal.roles with another | others
    · rfl
    · obtain ⟨_, impossible⟩ := sameFound.2 ⟨others, afterFound⟩
      rw [found] at impossible
      cases impossible
    · obtain ⟨_, impossible⟩ := sameFound.1 ⟨roles, found⟩
      rw [afterFound] at impossible
      cases impossible
    · have accepts : roles.any (question.principal.accepts question.resource question.action) =
          others.any (question.principal.accepts question.resource question.action) := by
        rw [Bool.eq_iff_iff, any_accepts_iff (answer.trans found),
          any_accepts_iff (afterAnswer.trans afterFound)]
        exact question.principal.exists_opens_iff spares.roles foreign _ _
      exact congrArg some accepts

/-- Questions of principals of other organizations are answered in the same way, as far as the same items
have been taken. -/
theorem explained [Host] (orderly : system.Orderly catalog fixed)
    (afterOrderly : after.Orderly catalog fixed) {journal other : Journal}
    (sameCursors : journal.cursors = other.cursors) :
    (exec question.explained { system with journal }).1 =
      (exec question.explained { after with journal := other }).1 := by
  have sameGate := spares.gateAnswer foreign plain orderly.unplanned afterOrderly.unplanned
  have sameChain : question.chain? system = question.chain? after :=
    Registry.chainFor_eq orderly.agrees afterOrderly.agrees spares.policies question.key foreign
  have notForged : ({ system with journal } : System).RolesNotForged :=
    rolesNotForged_of_unplanned orderly.unplanned
  have afterNotForged : ({ after with journal := other } : System).RolesNotForged :=
    rolesNotForged_of_unplanned afterOrderly.unplanned
  rw [Question.explained_result notForged, Question.explained_result afterNotForged]
  exact sameChain ▸ Decision.verdict_congr sameCursors sameGate
    (Question.failsWith_gateAnswer orderly.unplanned)
    (Question.failsWith_gateAnswer afterOrderly.unplanned)

end System.Spares

/-! ## Calls of administrators -/

/-- No role and no policy is stored for an organization. -/
structure System.StoresNothing (system : System) (organization : String) : Prop where
  roles : ∀ role ∈ system.roles.roles.values, role.organization ≠ organization
  policies : ∀ policy ∈ system.policies.policies.values, policy.organization ≠ organization

theorem System.AgreesOn.refl [Host] (orderly : system.Orderly catalog fixed) (fresh : system.FreshIds) :
    system.AgreesOn catalog fixed within system :=
  ⟨orderly, orderly, fresh, fresh, rfl, rfl, .refl _, .refl _⟩

/-- The organizations that a text names, apart from the own one of a principal. -/
def NamesApart (own : Option String) (given organization : String) : Prop :=
  organization = Text.trim given ∨ organization = given ∧ own ≠ some given

theorem System.covers_namesApart {own : Option String}
    (unused : own = some given → system.StoresNothing given) :
    system.Covers (NamesApart own given) given := by
  refine ⟨.inl rfl, fun role member isHere => .inr ⟨rfl, fun isOwn => ?_⟩,
    fun policy member isHere => .inr ⟨rfl, fun isOwn => ?_⟩⟩
  · exact (unused isOwn).roles role member isHere
  · exact (unused isOwn).policies policy member isHere

namespace AdminCall

/-- A call for an organization leaves all others as they are, and the system orderly. -/
theorem spares_perform [Host] (orderly : system.Orderly catalog fixed) (fresh : system.FreshIds)
    (covers : system.Covers within given) (call : AdminCall) :
    system.Spares within (exec (call.perform (.str given)) system).2 ∧
      (exec (call.perform (.str given)) system).2.Orderly catalog fixed :=
  have advance := (call.alike_perform (.refl orderly fresh) covers covers).advance
  ⟨advance.spares, advance.agree.orderly⟩

/-- In a system that has been put together and used, a call for an organization changes no answer to a
question of a principal of another one, as far as the same items have been taken. When the principal
belongs to the organization that the text spells before it is trimmed, nothing may be stored there; and no
role of the two that the principal holds may be one that cannot be a member of a set. -/
theorem explained_of_perform [Host] {parts : Parts} {start system : System} (roles : parts.roles.Accepted)
    (policies : parts.policies.Accepted) (assembled : assemble parts = .ok start) (ids : IdSource)
    (reaches : System.Reaches { start with ids } system) (fresh : system.FreshIds)
    (given : String) (call : AdminCall) (question : Question)
    (isOther : question.principal.organization ≠ some (Text.trim given))
    (unused : question.principal.organization = some given → system.StoresNothing given)
    (plain : system.roles.Plain fun organization id =>
      Names given organization ∧ system.roles.AskedFor question.principal.roles id)
    {journal other : Journal} (sameCursors : journal.cursors = other.cursors) :
    (exec question.explained { system with journal }).1 =
      (exec question.explained
        { (exec (call.perform (.str given)) system).2 with journal := other }).1 := by
  obtain ⟨catalog, fixed, started⟩ := orderly_of_assemble roles.sound policies.sound assembled
  have orderly : system.Orderly catalog fixed :=
    reaches.orderly (System.ofStores_orderly.others start _ _ _ _ _ _ started)
  have foreign : ∀ name, question.principal.organization = some name →
      ¬NamesApart question.principal.organization given name := by
    rintro name isOwn (rfl | ⟨rfl, isApart⟩)
    · exact isOther isOwn
    · exact isApart isOwn
  obtain ⟨spares, afterOrderly⟩ :=
    call.spares_perform orderly fresh (System.covers_namesApart unused)
  refine spares.explained foreign (fun isMemory role member isAmong => ?_) orderly afterOrderly
    sameCursors
  exact plain isMemory role member ⟨isAmong.1.elim .inr fun isGiven => .inl isGiven.1, isAmong.2⟩

end AdminCall

/-! ## Sales departments -/

namespace System

/-- A role of an organization that covers changes of customers. -/
def salesRole (id organization : String) (isDefault : Value) : Role :=
  ⟨id, "Sales", "sales", organization, ["customer:update"], isDefault, .null⟩

/-- The parts of a system in memory with some roles. -/
def salesParts (roles : List Role) : Parts :=
  { roles := { roles := roles.map fun role => (role.id, role) }, clock := ⟨0, some 0⟩
    isSeeded := false }

/-- The system of these parts. -/
def salesSystem (roles : List Role) (registry : Registry) (counted : Nat) (journal : Journal) :
    System :=
  { roles := (salesParts roles).roles, policies := {}, registry, clock := ⟨0, some 0⟩
    listeners := [.registry], counted, journal }

/-- A role store can be made of some roles, none of which is named like a new record. -/
structure CanEmploy (roles : List Role) : Prop where
  isMade : RoleStore.ofArguments ⟨[.list (roles.map Role.toValue)], []⟩ = .ok (salesParts roles).roles
  unlike : ∀ role ∈ roles, ¬"id-".toList <+: role.id.toList

/-- Whether a user of an organization who holds some roles may change customers. -/
def salesQuestion (organization : String) (held : List Value) : Question :=
  { principal := ⟨"u1", "user", some organization, held, []⟩
    resource := "customer", action := "update" }

variable {roles : List Role} {registry : Registry} {counted : Nat} {journal : Journal}

theorem exists_salesSystem [Host] (canEmploy : CanEmploy roles) : ∃ registry counted journal,
    assemble (salesParts roles) = .ok (salesSystem roles registry counted journal) :=
  exists_assemble rfl (RoleStore.sound_of_ofArguments canEmploy.isMade) PolicyStore.sound_empty

theorem values_salesSystem :
    (salesSystem roles registry counted journal).roles.roles.values = roles := by
  rw [salesSystem, salesParts, Keyed.values, List.map_map]
  exact List.map_id _

theorem freshIds_salesSystem (canEmploy : CanEmploy roles) (registry : Registry) (counted : Nat)
    (journal : Journal) :
    (salesSystem roles registry counted journal).FreshIds := by
  refine ⟨IdSource.avoids_numbered rfl ?_, IdSource.avoids_numbered rfl ?_⟩
  · rintro id (⟨policy, member, _⟩ | ⟨rule, member, _⟩)
    · cases member
    · cases member
  · rintro id (⟨role, member, rfl⟩ | ⟨assignment, member, _⟩)
    · have isEmployed := member
      rw [values_salesSystem] at isEmployed
      exact canEmploy.unlike role isEmployed
    · cases member

theorem plain_salesSystem {among : String → String → Prop}
    (plain : ∀ role ∈ roles, RoleStore.obstacle? role = none) :
    (salesSystem roles registry counted journal).roles.Plain among := by
  intro _ role member _
  rw [values_salesSystem] at member
  exact plain role member

theorem not_bypasses_salesQuestion {organization : String} {held : List Value} :
    ¬(salesQuestion organization held).Bypasses (salesSystem roles registry counted journal) := by
  have notMember : "user" ∉ ({} : Settings).bypassRoles := by decide
  exact notMember

/-- Deleting a role leaves the others. -/
theorem exists_deleted_salesSystem [Host] (canEmploy : CanEmploy roles) {given : String} {role : Role}
    {others : List Role} (isFound : (salesParts roles).roles.found given (.str role.id) = .ok role)
    (remaining : (salesParts roles).roles.roles.erase role.id = (salesParts others).roles.roles)
    (registry : Registry) (counted : Nat) (journal : Journal) : ∃ afterwards,
      (exec ((AdminCall.deleteRole (.str role.id) .null).perform (.str given))
        (salesSystem roles registry counted journal)).2 =
      salesSystem others registry counted afterwards := by
  have sound : (salesSystem roles registry counted journal).roles.Sound :=
    RoleStore.sound_of_ofArguments canEmploy.isMade
  have isWritten : Value.toText .null = .ok "None" := rfl
  obtain ⟨afterwards, deleted⟩ :=
    RoleAdministration.exec_delete_of_unheld rfl sound isWritten isFound rfl
  refine ⟨afterwards, ?_⟩
  rw [AdminCall.perform, exec_map, deleted]
  exact congrArg (fun roles => { salesSystem others registry counted afterwards with
    roles := { (salesParts others).roles with roles } }) remaining

/-- A question is answered differently after a role is deleted when other conditions settle it. -/
theorem explained_differs_of_settles [Host] (canEmploy : CanEmploy roles) {given : String}
    (role : Role) (others : List Role)
    (isFound : (salesParts roles).roles.found given (.str role.id) = .ok role)
    (remaining : (salesParts roles).roles.roles.erase role.id = (salesParts others).roles.roles)
    {question : Question} {reason other : DecisionReason} (proper : question.Proper)
    (nothing : question.instance? = .null)
    (settles : ∀ registry counted journal,
      question.Settles (salesSystem roles registry counted journal) reason)
    (otherSettles : ∀ registry counted journal,
      question.Settles (salesSystem others registry counted journal) other)
    (differ : reason ≠ other) :
    ∃ start, assemble (salesParts roles) = .ok start ∧ start.FreshIds ∧
      (exec question.explained start).1 ≠
        (exec question.explained
          (exec ((AdminCall.deleteRole (.str role.id) .null).perform (.str given)) start).2).1 := by
  obtain ⟨registry, counted, journal, assembled⟩ := exists_salesSystem canEmploy
  obtain ⟨afterwards, deleted⟩ :=
    exists_deleted_salesSystem canEmploy isFound remaining registry counted journal
  refine ⟨_, assembled, freshIds_salesSystem canEmploy _ _ _, fun same => differ ?_⟩
  -- Without a resource no chain is asked.
  have canBeNoted (roles : List Role) (journal : Journal) :
      question.CanBeNoted (salesSystem roles registry counted journal) :=
    ⟨fun _ failed => (Question.failsWith_gateAnswer rfl).holds failed, (absurd nothing ·)⟩
  have answer := Question.explained_of_settles (rolesNotForged_of_unplanned rfl) proper
    (canBeNoted _ _) (settles registry counted journal)
  have otherAnswer := Question.explained_of_settles (rolesNotForged_of_unplanned rfl) proper
    (canBeNoted _ _) (otherSettles registry counted afterwards)
  rw [deleted, answer, otherAnswer] at same
  have sameReason := congrArg Decision.reason (Except.ok.inj same)
  rwa [Question.reason_decision, Question.reason_decision] at sameReason

end System

namespace AdminCall

open scoped Host in
/-- Deleting a role of another organization takes nothing from a user. -/
theorem explained_of_perform_acme : ∃ start,
    assemble (System.salesParts
      [System.salesRole "r1" "acme" (.bool false), System.salesRole "r2" "globex" (.bool false)]) =
        .ok start ∧
    start.FreshIds ∧
    (start.roles.Plain fun organization id =>
      Names "acme" organization ∧ start.roles.AskedFor [.str "r1", .str "r2"] id) ∧
    (exec (System.salesQuestion "globex" [.str "r1", .str "r2"]).explained
        { start with journal := {} }).1 =
      (exec (System.salesQuestion "globex" [.str "r1", .str "r2"]).explained
        { (exec ((deleteRole (.str "r1") .null).perform (.str "acme")) start).2 with
          journal := {} }).1 := by
  have canEmploy : System.CanEmploy
      [System.salesRole "r1" "acme" (.bool false), System.salesRole "r2" "globex" (.bool false)] :=
    ⟨rfl, by decide⟩
  obtain ⟨registry, counted, journal, assembled⟩ := System.exists_salesSystem canEmploy
  have fresh := System.freshIds_salesSystem canEmploy registry counted journal
  have plainRoles : ∀ role ∈ [System.salesRole "r1" "acme" (.bool false),
      System.salesRole "r2" "globex" (.bool false)], RoleStore.obstacle? role = none := by
    decide
  refine ⟨_, assembled, fresh, System.plain_salesSystem plainRoles, ?_⟩
  exact explained_of_perform (.made _ canEmploy.isMade) (.made ⟨[], []⟩ rfl) assembled _ .refl fresh
    "acme" (deleteRole (.str "r1") .null) _ (by decide)
    (fun isOwn => absurd isOwn (by decide)) (System.plain_salesSystem plainRoles) rfl

open scoped Host in
/-- Principals of another organization do notice a call when the organization is spelled as theirs before
it is trimmed, and when a role that they hold is one that cannot be a member of a set. -/
theorem explained_differs_of_perform :
    (some " A " ≠ some (Text.trim " A ") ∧
      ∃ start, assemble (System.salesParts [System.salesRole "r1" " A " (.bool false)]) = .ok start ∧
        start.FreshIds ∧ (exec (System.salesQuestion " A " [.str "r1"]).explained start).1 ≠
          (exec (System.salesQuestion " A " [.str "r1"]).explained
            (exec ((deleteRole (.str "r1") .null).perform (.str " A ")) start).2).1) ∧
    (some "B" ≠ some (Text.trim "A") ∧
      ∃ start, assemble (System.salesParts
          [System.salesRole "r1" "A" (.list []), System.salesRole "r2" "B" (.bool false)]) = .ok start ∧
        start.FreshIds ∧ (exec (System.salesQuestion "B" [.str "r1", .str "r2"]).explained start).1 ≠
          (exec (System.salesQuestion "B" [.str "r1", .str "r2"]).explained
            (exec ((deleteRole (.str "r1") .null).perform (.str "A")) start).2).1) := by
  constructor
  · have proper : (System.salesQuestion " A " [.str "r1"]).Proper :=
      ⟨⟨⟨[.str "u1", .str "user", .str " A ", .tuple [.str "r1"]], []⟩, rfl⟩, .inl rfl⟩
    have settles (registry : Registry) (counted : Nat) (journal : Journal) :
        (System.salesQuestion " A " [.str "r1"]).Settles (System.salesSystem
          [System.salesRole "r1" " A " (.bool false)] registry counted journal) .gateOnly :=
      .gateOnly (.inr ⟨⟨_, rfl⟩, System.salesRole "r1" " A " (.bool false), .head _,
        ⟨.str "r1", .head _, rfl⟩, rfl, .inl (.head _)⟩) rfl
    have otherSettles (registry : Registry) (counted : Nat) (journal : Journal) :
        (System.salesQuestion " A " [.str "r1"]).Settles
          (System.salesSystem [] registry counted journal) .gateDenied := by
      refine .gateDenied System.not_bypasses_salesQuestion (.inr ⟨_, rfl⟩) ?_
      rintro ⟨role, opens⟩
      cases opens.stored
    exact ⟨by decide, System.explained_differs_of_settles ⟨rfl, by decide⟩
      (System.salesRole "r1" " A " (.bool false)) [] rfl rfl proper rfl settles otherSettles (by decide)⟩
  · have proper : (System.salesQuestion "B" [.str "r1", .str "r2"]).Proper :=
      ⟨⟨⟨[.str "u1", .str "user", .str "B", .tuple [.str "r1", .str "r2"]], []⟩, rfl⟩, .inl rfl⟩
    have settles (registry : Registry) (counted : Nat) (journal : Journal) :
        (System.salesQuestion "B" [.str "r1", .str "r2"]).Settles (System.salesSystem
          [System.salesRole "r1" "A" (.list []), System.salesRole "r2" "B" (.bool false)] registry
          counted journal) .gateError := by
      refine .gateError System.not_bypasses_salesQuestion (List.cons_ne_nil _ _) ?_
      rintro ⟨_, impossible⟩
      cases impossible
    have otherSettles (registry : Registry) (counted : Nat) (journal : Journal) :
        (System.salesQuestion "B" [.str "r1", .str "r2"]).Settles (System.salesSystem
          [System.salesRole "r2" "B" (.bool false)] registry counted journal) .gateOnly :=
      .gateOnly (.inr ⟨⟨_, rfl⟩, System.salesRole "r2" "B" (.bool false), .head _,
        ⟨.str "r2", .tail _ (.head _), rfl⟩, rfl, .inl (.head _)⟩) rfl
    exact ⟨by decide, System.explained_differs_of_settles ⟨rfl, by decide⟩
      (System.salesRole "r1" "A" (.list [])) [System.salesRole "r2" "B" (.bool false)] rfl rfl proper
      rfl settles otherSettles (by decide)⟩

end AdminCall

end Authorization
