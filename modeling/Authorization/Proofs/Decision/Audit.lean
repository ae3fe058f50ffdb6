import Authorization.Proofs.Administration.Heedless
import Authorization.Proofs.Decision.Question
import Authorization.Proofs.Decision.Steady
import Authorization.Proofs.System.Session

/-!
# What is recorded of decisions

A call that asks for access by an identifier is answered, whatever becomes of loading and recording. Each
call leaves one entry, which holds what was asked and what was decided on the instance that was found, and
nothing else in a session writes entries. What decisions are recorded to settles no answer.
-/

namespace Authorization

open Service

variable {system : System}

/-- What a loader finds: in memory, the instance under the resource type and the written identifier. A
loader that fails finds nothing. -/
def Loader.found (loader : Loader) (resource : String) (id : Value) : Value :=
  match loader with
  | .memory instances =>
    (Value.lookup? instances (.tuple [.str resource, .str id.text])).getD .null
  | _ => .null

/-! ## What can be noted -/

/-- In an orderly system all that comes up in a decision can be noted, where it can be for the fixed
chains. -/
theorem Question.canBeNoted_of_orderly [Host] {catalog : RuleCatalog} {fixed : Keyed String PolicyChain}
    (orderly : system.Orderly catalog fixed)
    (notable : ∀ attributes, ∀ entry ∈ fixed, entry.2.IsNotable attributes) (question : Question) :
    question.CanBeNoted system where
  gate _ failed := (failsWith_gateAnswer orderly.unplanned).holds failed
  chain _ chain inCharge := by
    have governs := (orderly.agrees.chainFor _ _ _).1 inCharge
    generalize question.principal.organization = organization at governs
    generalize same : some chain = found at governs
    cases governs with
    | stored inCharge isKey chains =>
        cases same
        obtain ⟨active, _, builds⟩ := chains
        exact builds.isNotable _
    | fixed noOther => exact notable _ _ (Keyed.mem_of_get? same.symm)

/-! ## Calls -/

/-- A call that asks for access to the resource of an identifier. -/
structure AccessCall where
  principal? : Option Principal
  resource : String
  action : String
  id : Value := .null
  context : Value := .null

namespace AccessCall

/-- A principal is one that can be made, the identifier can be written, and the context is nothing or a
mapping. -/
structure Proper (call : AccessCall) : Prop where
  principal : ∀ principal, call.principal? = some principal →
    ∃ arguments, Principal.ofArguments arguments = .ok principal
  id : call.id.holdsLongInt = false
  context : call.context = .null ∨ call.context.entries?.isSome

/-- The call as it is carried out. -/
def perform [Host] (call : AccessCall) : Service Bool :=
  canAccess ((call.principal?.map Principal.toValue).getD .null) (.str call.resource)
    (.str call.action) call.id call.context

/-- The instance that is decided on, which is none without an identifier. -/
def instance? (call : AccessCall) (loader : Loader) : Value :=
  match call.id with
  | .null => .null
  | id => loader.found call.resource id

/-- The question that a principal puts with the call. -/
def question (call : AccessCall) (principal : Principal) (loader : Loader) : Question :=
  ⟨principal, call.resource, call.action, call.instance? loader, call.context⟩

/-- The identifier as it is recorded. -/
def idText (call : AccessCall) : Value :=
  match call.id with
  | .null => .null
  | id => .str id.text

/-- The entry of a denied call without a principal. -/
def anonymousEntry (call : AccessCall) (time : Time.Instant) : AccessEntry :=
  ⟨anonymousUser, .str call.resource, .str call.action, false, time, call.idText, .null,
    [(.str "reason", .str "No authenticated user")]⟩

/-- The entry of a call that has been decided. -/
def entry (call : AccessCall) (time : Time.Instant) (principal : Principal) (decision : Decision) :
    AccessEntry :=
  ⟨principal.id, .str call.resource, .str call.action, decision.allowed, time, call.idText,
    Value.ofOption principal.organization,
    [(.str "reason", .str decision.reason.label), (.str "policy_key", .str decision.key),
     (.str "chain_source", Value.ofOption (decision.source.map ChainSource.label))]⟩

/-- What an entry has to say of a call in a system. -/
inductive IsRecordedBy [Host] (call : AccessCall) (system : System) : AccessEntry → Prop
  | anonymous (absent : call.principal? = none) :
      IsRecordedBy call system (call.anonymousEntry system.clock)
  | decided {principal : Principal} {decision : Decision} (present : call.principal? = some principal)
      (explained : (exec (call.question principal system.loader).explained system).1 = .ok decision) :
      IsRecordedBy call system (call.entry system.clock principal decision)

end AccessCall

/-! ## Loading -/

theorem AccessCall.instance?_of_ne_null {call : AccessCall} (isThere : call.id ≠ .null)
    (loader : Loader) : call.instance? loader = loader.found call.resource call.id := by
  cases given : call.id with
  | null => exact absurd given isThere
  | _ =>
      unfold AccessCall.instance?
      rw [given]

theorem AccessCall.idText_of_ne_null {call : AccessCall} (isThere : call.id ≠ .null) :
    call.idText = .str call.id.text := by
  cases given : call.id with
  | null => exact absurd given isThere
  | _ =>
      unfold AccessCall.idText
      rw [given]

theorem Value.toText_of_isShort {value : Value} (isShort : value.holdsLongInt = false) :
    value.toText = .ok value.text := by
  rw [toText, text?, isShort]
  rfl

/-- A loader gives what it finds, or fails for a reason that can be written. -/
theorem exec_loadInstance (resource : String) {id : Value} (isShort : id.holdsLongInt = false)
    (system : System) :
    ∃ result, exec (loadInstance (.str resource) id) system = (result, system) ∧
      result.FailsWith Error.HasText ∧
      result.toOption.getD .null = system.loader.found resource id := by
  have key : instanceKey (.str resource) id = .ok (.tuple [.str resource, .str id.text]) := by
    rw [instanceKey, Value.toText_of_isShort isShort]
    rfl
  unfold loadInstance
  rw [exec_get_bind]
  cases system.loader with
  | absent => exact ⟨_, rfl, ⟨_, rfl⟩, rfl⟩
  | failing => exact ⟨_, rfl, ⟨_, rfl⟩, rfl⟩
  | memory instances =>
      dsimp only
      rw [key, exec_orFail_ok]
      exact ⟨_, rfl, trivial, rfl⟩

/-- Where there is no loader, nothing is found. -/
theorem Loader.found_of_not_hasLoader {loader : Loader} (absent : ¬hasLoader loader = true)
    (resource : String) (id : Value) : loader.found resource id = .null := by
  cases loader with
  | absent => rfl
  | _ => exact absurd rfl absent

/-- Where the identifier can be written, loading never fails, and at most a warning is logged. -/
theorem exec_instanceFor (principal : Principal) {call : AccessCall}
    (isShort : call.id.holdsLongInt = false) (system : System) :
    ∃ journal, exec (instanceFor principal.toValue (.str call.resource) call.id) system =
        (.ok (call.instance? system.loader), { system with journal }) ∧
      system.journal.cursors = journal.cursors := by
  unfold instanceFor
  rw [exec_get_bind]
  by_cases isNull : call.id = .null
  · have noId : call.id.equal .null = true := (Value.equal_null_iff _).2 isNull
    rw [noId, AccessCall.instance?, isNull]
    exact ⟨system.journal, rfl, rfl⟩
  · have isThere : call.id.equal .null = false :=
      Bool.eq_false_iff.2 fun same => isNull ((Value.equal_null_iff _).1 same)
    rw [AccessCall.instance?_of_ne_null isNull, isThere, Bool.false_or]
    by_cases works : hasLoader system.loader = true
    · have organization := exec_readAttribute system principal.attribute_organization
      obtain ⟨result, loaded, told, found⟩ := exec_loadInstance call.resource isShort system
      have loading : exec (do
          let _ ← readAttribute principal.toValue "organization_id"
          loadInstance (.str call.resource) call.id : Service Value) system = (result, system) := by
        rw [exec_bind_of_ok organization, loaded]
      rw [works, if_neg (by decide), ← found]
      dsimp only
      rw [exec_outcome_bind loading]
      cases result with
      | error error =>
          have resource : (Value.str call.resource).toText = .ok call.resource := rfl
          dsimp only
          rw [resource, Value.toText_of_isShort isShort, Error.toLogged_of_hasText told,
            exec_orFail_ok, exec_orFail_ok, exec_orFail_ok]
          exact ⟨_, rfl, rfl⟩
      | ok value => exact ⟨system.journal, rfl, rfl⟩
    · rw [Loader.found_of_not_hasLoader works, Bool.eq_false_iff.2 works]
      exact ⟨system.journal, rfl, rfl⟩

/-! ## Recording -/

theorem System.SameBut.recorded {log other : AccessLog} {first second : System}
    (same : System.SameBut log other first second) (last : AccessLog) :
    System.SameBut log last first { second with accessLog := last } := by
  refine ⟨same.log, ?_, same.cursors⟩
  rw [same.twin]

theorem System.SameBut.noted {log other : AccessLog} {first second : System}
    (same : System.SameBut log other first second) (level : LogLevel) (source : LogSource)
    (message : String) :
    System.SameBut log other first (exec (note level source message) second).2 := by
  refine ⟨same.log, ?_, same.cursors⟩
  rw [exec_note, same.twin]

/-- The entry of a decision is made when the user is named. -/
theorem AccessEntry.ofBindings_eq (user resource action : Value) (allowed : Bool) (time : Time.Instant)
    (idText organization : Value) (metadata : List (Value × Value)) :
    ofBindings
        [("user_id", user), ("resource", resource), ("action", action), ("allowed", .bool allowed),
         ("timestamp", .instant time), ("resource_id", idText), ("organization_id", organization),
         ("metadata", .dict metadata)] =
      (user.nonEmptyText "user_id").map fun name =>
        ⟨name, resource, action, allowed, time, idText, organization, metadata⟩ := by
  have shape (rest : Bindings) : Bindings.value (("user_id", user) :: rest) "user_id" = user := rfl
  rw [ofBindings, shape]
  cases user.nonEmptyText "user_id" <;> rfl

section Recording

variable {latestFirst : List AccessEntry}

theorem exec_recordEntry (inMemory : system.accessLog = .memory latestFirst) (entry : AccessEntry) :
    exec (recordEntry entry) system =
      (.ok (), { system with accessLog := .memory (entry :: latestFirst) }) := by
  unfold recordEntry
  rw [exec_get_bind, inMemory]
  rfl

/-- A decision about a named user is recorded in memory as it is given. -/
theorem exec_recordDecision (inMemory : system.accessLog = .memory latestFirst) {user : String}
    (isNamed : user.isEmpty = false) (organization : Value) {call : AccessCall}
    (isShort : call.id.holdsLongInt = false) (allowed : Bool) (metadata : List (String × Value)) :
    exec (recordDecision (.str user) organization (.str call.resource) (.str call.action) call.id
        allowed metadata) system =
      (.ok (), { system with
        accessLog := .memory (⟨user, .str call.resource, .str call.action, allowed, system.clock,
          call.idText, organization,
          metadata.map fun field => (.str field.1, field.2)⟩ :: latestFirst) }) := by
  have hasLog : hasLog system.accessLog = true := by
    rw [inMemory]
    rfl
  have named : (Value.str user).nonEmptyText "user_id" = .ok user :=
    Value.nonEmptyText_eq_ok_iff.2 ⟨rfl, isNamed⟩
  have entered : exec (enterDecision (.str user) organization (.str call.resource) (.str call.action)
      call.id allowed metadata) system =
      (.ok (), { system with accessLog := .memory (⟨user, .str call.resource, .str call.action,
        allowed, system.clock, call.idText, organization,
        metadata.map fun field => (.str field.1, field.2)⟩ :: latestFirst) }) := by
    unfold enterDecision
    rw [exec_get_bind]
    dsimp only
    split
    · rename_i isNull
      rw [pure_bind, AccessEntry.ofBindings_eq, named, Except.map, exec_orFail_ok,
        exec_recordEntry inMemory, AccessCall.idText, isNull]
    · rename_i isThere
      rw [Value.toText_of_isShort isShort, Except.map, exec_orFail_ok, AccessEntry.ofBindings_eq,
        named, Except.map, exec_orFail_ok, exec_recordEntry inMemory,
        AccessCall.idText_of_ne_null isThere]
  unfold recordDecision
  rw [exec_get_bind, if_pos hasLog]
  exact exec_outcome_bind entered

end Recording

theorem Principal.id_isEmpty {arguments : Arguments} {principal : Principal}
    (made : Principal.ofArguments arguments = .ok principal) : principal.id.isEmpty = false := by
  obtain ⟨bindings, _, given⟩ := Except.bind_eq_ok_iff.1 made
  obtain ⟨id, isText, given⟩ := Except.bind_eq_ok_iff.1 given
  obtain ⟨role, _, given⟩ := Except.bind_eq_ok_iff.1 given
  obtain ⟨organization, _, given⟩ := Except.bind_eq_ok_iff.1 given
  obtain ⟨roles, _, given⟩ := Except.bind_eq_ok_iff.1 given
  obtain ⟨attributes, _, given⟩ := Except.bind_eq_ok_iff.1 given
  cases given
  exact (Value.nonEmptyText_eq_ok_iff.1 isText).2

/-- Nothing planned, and a time on the clock. -/
theorem ofUnplanned_clock (time : Time.Instant) :
    OfUnplanned fun system => system.plans = [] ∧ system.clock = time where
  unplanned _ := And.left
  journal _ _ := id

section Shapes

variable [Host] {call : AccessCall}

theorem AccessCall.perform_of_none (absent : call.principal? = none) :
    call.perform = (do
      recordDecision (.str anonymousUser) .null (.str call.resource) (.str call.action) call.id false
        [("reason", .str "No authenticated user")]
      return false) := by
  rw [perform, absent]
  rfl

theorem AccessCall.perform_of_some {principal : Principal} (present : call.principal? = some principal) :
    call.perform = (do
      let found ← instanceFor principal.toValue (.str call.resource) call.id
      let decision ← explain principal.toValue (.str call.resource) (.str call.action) found call.context
      recordDecision (.str principal.id) (Value.ofOption principal.organization) (.str call.resource)
        (.str call.action) call.id decision.allowed (metadataOf decision)
      return decision.allowed) := by
  rw [perform, present]
  rfl

end Shapes

/-- In an orderly system every call is answered, and is recorded in memory by one entry with the answer. -/
theorem AccessCall.exec_perform [Host] {catalog : RuleCatalog} {fixed : Keyed String PolicyChain}
    {call : AccessCall} (proper : call.Proper) {latestFirst : List AccessEntry}
    (orderly : system.Orderly catalog fixed)
    (notable : ∀ attributes, ∀ entry ∈ fixed, entry.2.IsNotable attributes)
    (inMemory : system.accessLog = .memory latestFirst) :
    ∃ entry, call.IsRecordedBy system entry ∧
      (exec call.perform system).1 = .ok entry.allowed ∧
      (exec call.perform system).2.accessLog = .memory (entry :: latestFirst) := by
  cases given : call.principal? with
  | none =>
      have isNamed : anonymousUser.isEmpty = false := by decide
      have recorded := exec_recordDecision inMemory isNamed .null proper.id false
        [("reason", .str "No authenticated user")]
      rw [perform_of_none given, exec_bind_of_ok recorded]
      exact ⟨_, .anonymous given, rfl, rfl⟩
  | some principal =>
      have isMade := proper.principal principal given
      have notForged := System.rolesNotForged_of_unplanned orderly.unplanned
      obtain ⟨decision, answered⟩ := (call.question principal system.loader).exists_isAnsweredBy
        system notForged ⟨isMade, proper.context⟩ (Question.canBeNoted_of_orderly orderly notable _)
      obtain ⟨journal, loaded, sameCursors⟩ := exec_instanceFor principal proper.id system
      have loading := System.sameBut_twin system system.accessLog sameCursors
      have heedless : Heedless (call.question principal system.loader).explained :=
        heedless_explain _ _ _ _ _
      have timeless : Keeps (fun after => after.plans = [] ∧ after.clock = system.clock)
          (call.question principal system.loader).explained :=
        (ofUnplanned_clock system.clock).explain _ _ _ _ _
      obtain ⟨after, asked, untouched, sameTime⟩ :
          ∃ after, exec (explain principal.toValue (.str call.resource) (.str call.action)
              (call.instance? system.loader) call.context) { system with journal } =
              (.ok decision, after) ∧
            after.accessLog = .memory latestFirst ∧ after.clock = system.clock :=
        ⟨_, Prod.ext ((heedless _ _ _ _ loading).1.symm.trans answered.explained) rfl,
          (heedless.accessLog_eq _).trans inMemory,
          (timeless { system with journal } ⟨orderly.unplanned, rfl⟩).2⟩
      have recorded := exec_recordDecision untouched
        (Principal.id_isEmpty isMade.choose_spec) (Value.ofOption principal.organization) proper.id
        decision.allowed (metadataOf decision)
      rw [perform_of_some given, exec_bind_of_ok loaded, exec_bind_of_ok asked,
        exec_bind_of_ok recorded]
      refine ⟨_, .decided given answered.explained, rfl, ?_⟩
      rw [exec_pure, sameTime]
      rfl

/-! ## Calls with other sinks -/

namespace Service

variable {α β : Type}

/-- A service gives the same result whatever decisions are recorded to, and leaves systems that differ in
nothing else, apart from the log. -/
def Unswayed (action : Service α) : Prop :=
  ∀ (log other : AccessLog) (first second : System), System.SameBut log other first second →
    (exec action first).1 = (exec action second).1 ∧
      ∃ log other, System.SameBut log other (exec action first).2 (exec action second).2

theorem Heedless.unswayed {action : Service α} (heedless : Heedless action) : Unswayed action := by
  intro log other first second same
  obtain ⟨sameResult, after⟩ := heedless log other first second same
  exact ⟨sameResult, log, other, after⟩

theorem Unswayed.bind {action : Service α} {next : α → Service β} (unswayed : Unswayed action)
    (rest : ∀ value, Unswayed (next value)) : Unswayed (action >>= next) := by
  intro log other first second same
  obtain ⟨sameResult, firstLog, secondLog, after⟩ := unswayed log other first second same
  rw [exec_bind, exec_bind]
  revert sameResult after
  rcases exec action first with ⟨result, last⟩
  rcases exec action second with ⟨otherResult, otherLast⟩
  intro sameResult after
  cases sameResult
  cases result with
  | error error => exact ⟨rfl, firstLog, secondLog, after⟩
  | ok value => exact rest value firstLog secondLog last otherLast after

theorem Unswayed.map {action : Service α} (unswayed : Unswayed action) (write : α → β) :
    Unswayed (write <$> action) := by
  rw [← bind_pure_comp]
  exact unswayed.bind fun value => (heedless_pure (write value)).unswayed

end Service

/-! ## Sessions -/

/-- One step of a session: a call, a request of an administrator, or a change of what can be loaded or of
the time. -/
inductive SessionStep where
  | access (call : AccessCall)
  | administer (request : AdminRequest)
  | addInstance (resource id found : Value)
  | removeInstance (resource id : Value)
  | advanceClock (seconds : Value)

namespace SessionStep

/-- Carries a step out. -/
def perform [Host] : SessionStep → Service Reply
  | .access call => .flag <$> call.perform
  | .administer request => request.perform
  | .addInstance resource id found => (fun _ => .nothing) <$> Service.addInstance resource id found
  | .removeInstance resource id => .flag <$> Service.removeInstance resource id
  | .advanceClock seconds => (fun _ => .nothing) <$> Service.advanceClock seconds

/-- The call that a step makes. -/
def call? : SessionStep → Option AccessCall
  | .access call => some call
  | _ => none

/-- Only calls are recorded. -/
theorem accessLog_of_call?_eq_none [Host] {step : SessionStep} (noCall : step.call? = none)
    (system : System) : (exec step.perform system).2.accessLog = system.accessLog := by
  cases step with
  | access call => cases noCall
  | administer request => exact request.heedless_perform.accessLog_eq system
  | addInstance => exact ((heedless_addInstance _ _ _).map _).accessLog_eq system
  | removeInstance => exact ((heedless_removeInstance _ _).map _).accessLog_eq system
  | advanceClock => exact ((heedless_advanceClock _).map _).accessLog_eq system

theorem keeps_perform [Host] {catalog : RuleCatalog} {fixed : Keyed String PolicyChain}
    (step : SessionStep) : Keeps (System.Orderly catalog fixed) step.perform := by
  have ofStores : OfStores (System.Orderly catalog fixed) := System.ofStores_orderly
  cases step with
  | access call => exact (ofStores.canAccess _ _ _ _ _).map _
  | administer request => exact request.keeps_perform lasting_orderly.vetting
  | addInstance => exact (ofStores.addInstance _ _ _).map _
  | removeInstance => exact (ofStores.removeInstance _ _).map _
  | advanceClock => exact (ofStores.advanceClock _).map _

end SessionStep

/-- The calls of a session, in order, each with the system that it is made in. -/
def System.visits [Host] (system : System) : List SessionStep → List (AccessCall × System)
  | [] => []
  | step :: rest =>
    let others := System.visits (exec step.perform system).2 rest
    match step.call? with
    | some call => (call, system) :: others
    | none => others

theorem visits_of_call?_eq_none [Host] {step : SessionStep} (noCall : step.call? = none)
    (rest : List SessionStep) (system : System) :
    system.visits (step :: rest) = (exec step.perform system).2.visits rest := by
  rw [System.visits, noCall]

/-- A session in an orderly system writes one entry for each of its calls, in order. -/
theorem exists_entries [Host] {catalog : RuleCatalog} {fixed : Keyed String PolicyChain}
    {session : List SessionStep} (proper : ∀ call, .access call ∈ session → call.Proper)
    (notable : ∀ attributes, ∀ entry ∈ fixed, entry.2.IsNotable attributes)
    {latestFirst : List AccessEntry} (orderly : system.Orderly catalog fixed)
    (inMemory : system.accessLog = .memory latestFirst) :
    ∃ entries, (inTurn (session.map SessionStep.perform) system).2.accessLog =
        .memory (entries.reverse ++ latestFirst) ∧
      List.Forall₂ (fun visit entry => visit.1.IsRecordedBy visit.2 entry ∧
        (exec visit.1.perform visit.2).1 = .ok entry.allowed) (system.visits session) entries := by
  induction session generalizing system latestFirst with
  | nil => exact ⟨[], inMemory, .nil⟩
  | cons step rest inductionHypothesis =>
      have restProper : ∀ call, .access call ∈ rest → call.Proper := fun call member =>
        proper call (List.mem_cons_of_mem _ member)
      have after := step.keeps_perform system orderly
      simp only [List.map_cons, inTurn]
      cases given : step.call? with
      | none =>
          have untouched := (SessionStep.accessLog_of_call?_eq_none given system).trans inMemory
          obtain ⟨entries, last, recorded⟩ := inductionHypothesis restProper after untouched
          rw [visits_of_call?_eq_none given]
          exact ⟨entries, last, recorded⟩
      | some call =>
          cases step with
          | access made =>
              cases given
              obtain ⟨entry, isRecorded, answered, written⟩ :=
                call.exec_perform (proper call List.mem_cons_self) orderly notable inMemory
              have logged : (exec (SessionStep.access call).perform system).2.accessLog =
                  .memory (entry :: latestFirst) := by
                rw [SessionStep.perform, exec_map]
                exact written
              obtain ⟨entries, last, recorded⟩ := inductionHypothesis restProper after logged
              refine ⟨entry :: entries, ?_, .cons ⟨isRecorded, answered⟩ recorded⟩
              rw [last, List.reverse_cons, List.append_assoc, List.singleton_append]
          | _ => cases given

end Authorization
