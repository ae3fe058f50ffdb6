import Authorization.Proofs.Service.Run

/-!
# What services keep

A service keeps an invariant when every system that has it still has it after the service, whether the
service succeeds or fails. Services put together of others that keep an invariant keep it too.
-/

namespace Authorization.Service

variable {α β : Type} {invariant : System → Prop}

/-- An action keeps an invariant of systems, whatever comes of it. -/
def Keeps (invariant : System → Prop) (action : Service α) : Prop :=
  ∀ system, invariant system → invariant (exec action system).2

theorem keeps_pure (value : α) : Keeps invariant (pure value) :=
  fun _ holds => holds

theorem keeps_throw (error : Error) : Keeps invariant (throw error : Service α) :=
  fun _ holds => holds

theorem keeps_get : Keeps invariant (get : Service System) :=
  fun _ holds => holds

theorem keeps_orFail (result : Except Error α) : Keeps invariant (orFail result) := by
  intro system holds
  rw [exec_orFail]
  exact holds

/-- What holds after an action holds after what follows, if that keeps it. -/
theorem holds_bind {action : Service α} {next : α → Service β} {system : System}
    (middle : invariant (exec action system).2) (rest : ∀ value, Keeps invariant (next value)) :
    invariant (exec (action >>= next) system).2 := by
  rw [exec_bind]
  revert middle
  rcases exec action system with ⟨error | value, after⟩ <;> intro middle
  · exact middle
  · exact rest value after middle

theorem Keeps.bind {action : Service α} {next : α → Service β} (first : Keeps invariant action)
    (rest : ∀ value, Keeps invariant (next value)) : Keeps invariant (action >>= next) :=
  fun system holds => holds_bind (first system holds) rest

theorem Keeps.map {action : Service α} (keeps : Keeps invariant action) (write : α → β) :
    Keeps invariant (write <$> action) := by
  intro system holds
  rw [exec_map]
  exact keeps system holds

theorem Keeps.outcome {action : Service α} (keeps : Keeps invariant action) :
    Keeps invariant (outcome action) :=
  fun system holds => keeps system holds

theorem Keeps.ite {condition : Prop} [Decidable condition] {first second : Service α}
    (isTrue : Keeps invariant first) (isFalse : Keeps invariant second) :
    Keeps invariant (if condition then first else second) := by
  split
  · exact isTrue
  · exact isFalse

theorem Keeps.guarded {condition : Prop} [Decidable condition] {check : Service PUnit}
    {rest : PUnit → Service α} (checks : Keeps invariant check)
    (keeps : ∀ done, Keeps invariant (rest done)) :
    Keeps invariant (if condition then check >>= rest else rest ⟨⟩) :=
  .ite (checks.bind keeps) (keeps ⟨⟩)

/-- What only reads the system keeps everything. -/
theorem keeps_gets (read : System → Except Error α) :
    Keeps invariant (do orFail (read (← get))) :=
  keeps_get.bind fun system => keeps_orFail (read system)

theorem keeps_modify {change : System → System}
    (keeps : ∀ system, invariant system → invariant (change system)) :
    Keeps invariant (modify change) :=
  keeps

theorem keeps_filterM {test : α → Service Bool} (keeps : ∀ item, Keeps invariant (test item))
    (items : List α) : Keeps invariant (items.filterM test) := by
  have picks (found : List α) : Keeps invariant (items.filterAuxM test found) := by
    induction items generalizing found with
    | nil => exact keeps_pure found
    | cons item rest inductionHypothesis =>
        exact (keeps item).bind fun isKept => inductionHypothesis _
  exact (picks []).bind fun found => keeps_pure found.reverse

theorem keeps_mapM {step : α → Service β} (keeps : ∀ item, Keeps invariant (step item))
    (items : List α) : Keeps invariant (items.mapM step) := by
  rw [← List.mapM'_eq_mapM]
  induction items with
  | nil => exact keeps_pure []
  | cons item rest inductionHypothesis =>
      exact (keeps item).bind fun first => inductionHypothesis.bind fun others =>
        keeps_pure (first :: others)

/-! ## What services give -/

/-- Whenever an action succeeds on a system with an invariant, something holds of what it gives. -/
def Yields (invariant : System → Prop) (action : Service α) (good : α → Prop) : Prop :=
  ∀ system, invariant system → ∀ value, (exec action system).1 = .ok value → good value

theorem yields_pure {good : α → Prop} {value : α} (isGood : good value) :
    Yields invariant (pure value) good := by
  intro system _ result succeeds
  cases succeeds
  exact isGood

theorem yields_orFail (result : Except Error α) :
    Yields invariant (orFail result) fun value => result = .ok value := by
  intro system _ value succeeds
  rw [exec_orFail] at succeeds
  exact succeeds

theorem yields_throw {good : α → Prop} (error : Error) :
    Yields invariant (throw error : Service α) good :=
  fun _ _ _ succeeds => nomatch succeeds

theorem Yields.bind {action : Service α} {next : α → Service β} {good : α → Prop}
    {final : β → Prop} (yields : Yields invariant action good) (keeps : Keeps invariant action)
    (rest : ∀ value, good value → Yields invariant (next value) final) :
    Yields invariant (action >>= next) final := by
  intro system holds result succeeds
  have isGood := yields system holds
  have middle := keeps system holds
  rw [exec_bind] at succeeds
  revert succeeds isGood middle
  rcases exec action system with ⟨error | value, after⟩ <;> intro succeeds isGood middle
  · cases succeeds
  · exact rest value (isGood value rfl) after middle result succeeds

theorem Yields.map {action : Service α} {good : α → Prop} {final : β → Prop}
    (yields : Yields invariant action good) {write : α → β}
    (implies : ∀ value, good value → final (write value)) :
    Yields invariant (write <$> action) final := by
  intro system holds result succeeds
  have isGood := yields system holds
  rw [exec_map] at succeeds
  rcases gives : (exec action system).1 with error | value
  · rw [gives] at succeeds
    cases succeeds
  · rw [gives] at succeeds isGood
    cases succeeds
    exact implies value (isGood value rfl)

/-- What follows an action may rely on what the action gives. -/
theorem Keeps.followed {action : Service α} {next : α → Service β} {good : α → Prop}
    (first : Keeps invariant action) (yields : Yields invariant action good)
    (rest : ∀ value, good value → Keeps invariant (next value)) :
    Keeps invariant (action >>= next) := by
  intro system holds
  have isGood := yields system holds
  have middle := first system holds
  rw [exec_bind]
  revert isGood middle
  rcases exec action system with ⟨error | value, after⟩ <;> intro isGood middle
  · exact middle
  · exact rest value (isGood value rfl) after middle

theorem yields_mapM {step : α → Service β} {good : β → Prop} {items : List α}
    (keeps : ∀ item, Keeps invariant (step item))
    (yields : ∀ item ∈ items, Yields invariant (step item) good) :
    Yields invariant (items.mapM step) fun results => ∀ result ∈ results, good result := by
  rw [← List.mapM'_eq_mapM]
  induction items with
  | nil => exact yields_pure (List.forall_mem_nil _)
  | cons item rest inductionHypothesis =>
      obtain ⟨first, others⟩ := List.forall_mem_cons.1 yields
      have keepsRest := keeps_mapM keeps rest
      rw [← List.mapM'_eq_mapM] at keepsRest
      exact first.bind (keeps item) fun result isGood =>
        (inductionHypothesis others).bind keepsRest fun results areGood =>
          yields_pure (List.forall_mem_cons.2 ⟨isGood, areGood⟩)

/-! ## Invariants of the stores -/

/-- An invariant of systems with nothing planned that does not look at the journal. -/
structure OfUnplanned (invariant : System → Prop) : Prop where
  unplanned : ∀ system, invariant system → system.plans = []
  journal : ∀ system journal, invariant system → invariant { system with journal }

/-- An invariant of systems with nothing planned that looks at the stores, the registry and the
listeners, and not at what surrounds them. -/
structure OfStores (invariant : System → Prop) : Prop extends OfUnplanned invariant where
  others : ∀ system loader accessLog clock ids counted journal, invariant system →
    invariant { system with loader, accessLog, clock, ids, counted, journal }

theorem OfStores.newId (ofStores : OfStores invariant) : Keeps invariant newId :=
  fun system holds => ofStores.others system _ _ _ _ _ _ holds

namespace OfUnplanned

variable (ofUnplanned : OfUnplanned invariant)

include ofUnplanned

theorem journaled (action : Journaled α) : Keeps invariant (journaled action) :=
  fun system holds => ofUnplanned.journal system _ holds

theorem judged (action : Judged α) : Keeps invariant (judged action) :=
  (ofUnplanned.journaled _).bind keeps_orFail

theorem note (level : LogLevel) (source : LogSource) (message : String) :
    Keeps invariant (note level source message) :=
  ofUnplanned.journaled _

theorem ofDraw (draw : Draw α) : Keeps invariant (ofDraw draw) :=
  (ofUnplanned.journaled _).bind keeps_orFail

theorem performed {action : Service α} (keeps : Keeps invariant action)
    (operation : StoreOperation) (read : Value → Except Error α) :
    Keeps invariant (performed operation read action) := by
  intro system holds
  rw [exec_performed (ofUnplanned.unplanned system holds)]
  exact keeps system holds

theorem performedValue {action : Service α} (keeps : Keeps invariant action)
    (operation : StoreOperation) (write : α → Value) :
    Keeps invariant (performedValue operation write action) := by
  intro system holds
  rw [exec_performedValue (ofUnplanned.unplanned system holds)]
  exact keeps system holds

theorem due? (operation : StoreOperation) : Keeps invariant (due? operation) := by
  intro system holds
  rw [exec_due? (ofUnplanned.unplanned system holds)]
  exact holds

/-- With nothing planned there is nothing to set aside. -/
theorem setAside {action : Service α} (keeps : Keeps invariant action)
    (operation : StoreOperation) : Keeps invariant (Service.unplanned operation action) := by
  intro system holds
  have noPlans := ofUnplanned.unplanned system holds
  have same : { system with plans := system.plans.erase operation } = system := by
    rw [noPlans]
    cases system
    cases noPlans
    rfl
  have shape : exec (Service.unplanned operation action) system =
      exec (do
        let result ← outcome action
        orFail result) { system with plans := system.plans.erase operation } := by
    unfold Service.unplanned
    rw [exec_get_bind, noPlans]
    dsimp only [Keyed.get?_nil]
    rw [exec_bind_of_ok (exec_modify _ system), noPlans]
  rw [shape, same]
  exact (keeps.outcome.bind keeps_orFail) system holds

/-! ## Reading the stores -/

theorem countPermissions : Keeps invariant countPermissions :=
  ofUnplanned.performedValue (keeps_get.bind fun _ => keeps_pure _) _ _

theorem listPermissions : Keeps invariant listPermissions :=
  ofUnplanned.performed (keeps_get.bind fun _ => keeps_pure _) _ _

theorem role? (id : Value) : Keeps invariant (role? id) :=
  ofUnplanned.performed (keeps_gets _) _ _

theorem rolesOf (ids : Value) : Keeps invariant (rolesOf ids) :=
  ofUnplanned.performed ((ofUnplanned.ofDraw _).bind fun _ => keeps_gets _) _ _

theorem rolesIn (organization : Value) : Keeps invariant (rolesIn organization) :=
  ofUnplanned.performed (keeps_get.bind fun _ => (keeps_orFail _).bind fun _ => keeps_pure _) _ _

theorem roleBySlug? (slug organization : Value) : Keeps invariant (roleBySlug? slug organization) :=
  ofUnplanned.performed (keeps_get.bind fun _ => (keeps_orFail _).bind fun _ => keeps_pure _) _ _

theorem countHolders (id : Value) : Keeps invariant (countHolders id) :=
  ofUnplanned.performedValue (keeps_gets _) _ _

theorem rolesHeldBy (user : Value) : Keeps invariant (rolesHeldBy user) :=
  ofUnplanned.performedValue (keeps_gets _) _ _

theorem policiesIn (organization : Value) : Keeps invariant (policiesIn organization) :=
  ofUnplanned.performed (keeps_get.bind fun _ => (keeps_orFail _).bind fun _ => keeps_pure _) _ _

theorem policy? (id : Value) : Keeps invariant (policy? id) :=
  ofUnplanned.performed (keeps_gets _) _ _

theorem policyByKey? (key organization : Value) : Keeps invariant (policyByKey? key organization) :=
  ofUnplanned.performed (keeps_get.bind fun _ => (keeps_orFail _).bind fun _ => keeps_pure _) _ _

theorem rulesOfPolicy (policyId : Value) : Keeps invariant (rulesOfPolicy policyId) :=
  ofUnplanned.performed (keeps_gets _) _ _

theorem rule? (id : Value) : Keeps invariant (rule? id) :=
  ofUnplanned.performed (keeps_gets _) _ _

theorem countRules (policyId : Value) : Keeps invariant (countRules policyId) :=
  ofUnplanned.performedValue (keeps_get.bind fun _ => keeps_pure _) _ _

end OfUnplanned

end Authorization.Service

/-!
## Services that leave the stores alone

Decisions, what surrounds them, and all that administrators look at without changing it keep every
invariant of the stores: they write to the log, draw items, load and record, and change nothing else.
-/

namespace Authorization.Service

variable {invariant : System → Prop}

theorem keeps_readAttribute (value : Value) (name : String) :
    Keeps invariant (readAttribute value name) := by
  unfold readAttribute
  split
  · exact keeps_pure _
  · exact keeps_orFail _

theorem keeps_chainFor (key organization : Value) : Keeps invariant (chainFor key organization) :=
  .guarded (keeps_orFail _) fun _ => .guarded (keeps_orFail _) fun _ =>
    keeps_get.bind fun _ => keeps_pure _

theorem keeps_chainForPolicy (policyId : Value) : Keeps invariant (chainForPolicy policyId) :=
  .guarded (keeps_orFail _) fun _ => keeps_get.bind fun _ => keeps_pure _

theorem keeps_letsPass (principal resource action : Value) (role : Role) :
    Keeps invariant (letsPass principal resource action role) :=
  (keeps_readAttribute _ _).bind fun _ =>
    .ite ((keeps_orFail _).bind fun _ => (keeps_orFail _).bind fun _ => keeps_pure _) (keeps_pure _)

theorem keeps_loadInstance (resource id : Value) : Keeps invariant (loadInstance resource id) := by
  refine keeps_get.bind fun system => ?_
  split
  · exact keeps_orFail _
  · exact keeps_throw _
  · exact (keeps_orFail _).bind fun _ => keeps_pure _

theorem keeps_recordedEntries (user resource : Value) :
    Keeps invariant (recordedEntries user resource) := by
  refine keeps_get.bind fun system => ?_
  split
  · exact keeps_pure _
  · exact keeps_orFail _

namespace OfUnplanned

variable (ofUnplanned : OfUnplanned invariant)

include ofUnplanned

/-! ### The gate and the catalog -/

theorem evaluatePermissions (principal resource action : Value) :
    Keeps invariant (evaluatePermissions principal resource action) := by
  refine (keeps_readAttribute _ _).bind fun account => .guarded (keeps_orFail _) fun _ =>
    keeps_get.bind fun _ => .ite (keeps_pure _) ?_
  refine (keeps_readAttribute _ _).bind fun held =>
    .ite ((keeps_readAttribute _ _).bind fun _ => keeps_pure _) ?_
  exact (ofUnplanned.rolesOf held).bind fun found =>
    (keeps_filterM (keeps_letsPass principal resource action) found).bind fun _ =>
      .ite (keeps_pure _) <| (keeps_readAttribute _ _).bind fun _ =>
        (keeps_orFail _).bind fun _ => keeps_pure _

theorem permission? (slug : Value) : Keeps invariant (permission? slug) :=
  ofUnplanned.listPermissions.bind fun _ => keeps_pure _

theorem resolvePermissions (slugs : Value) : Keeps invariant (resolvePermissions slugs) := by
  have resolved (items : List Value) : Keeps invariant (do
      let requested := Value.distinct items
      let known := (← Service.listPermissions).map Permission.slug
      let isKnown (item : Value) : Bool := item.asStr?.any known.contains
      let unknown ← orFail ((requested.filter fun item => !isKnown item).mapM slugText)
      if unknown.isEmpty then return requested.filterMap Value.asStr?
      else throw (.unknownPermissions (unknown.mergeSort textsInOrder)) : Service (List String)) :=
    ofUnplanned.listPermissions.bind fun known => (keeps_orFail _).bind fun unknown =>
      .ite (keeps_pure _) (keeps_throw _)
  refine (ofUnplanned.ofDraw _).bind fun items => ?_
  dsimp only
  split
  · exact (keeps_orFail _).bind fun _ => resolved items
  · exact resolved items

/-! ### Decisions -/

theorem decideByChain [Host] (chain : PolicyChain) (key : String)
    (principal action instance? context : Value) :
    Keeps invariant (decideByChain chain key principal action instance? context) :=
  (keeps_orFail _).bind fun _ => (ofUnplanned.judged _).bind fun _ =>
    ((keeps_readAttribute _ _).bind fun _ => keeps_pure _).bind fun _ =>
      (ofUnplanned.note _ _ _).bind fun _ => keeps_pure _

theorem decideByPolicy [Host] (key : String) (principal action instance? context : Value) :
    Keeps invariant (decideByPolicy key principal action instance? context) := by
  unfold Service.decideByPolicy
  split
  · exact keeps_pure _
  · refine (keeps_readAttribute _ _).bind fun _ => (keeps_chainFor _ _).bind fun found => ?_
    split
    · exact (ofUnplanned.note _ _ _).bind fun _ => keeps_pure _
    · exact ofUnplanned.decideByChain _ _ _ _ _ _

theorem explain [Host] (principal resource action instance? context : Value) :
    Keeps invariant (explain principal resource action instance? context) := by
  refine (keeps_orFail _).bind fun key =>
    (ofUnplanned.evaluatePermissions _ _ _).outcome.bind fun gate => ?_
  split
  · exact ((keeps_readAttribute _ _).bind fun _ => keeps_pure _).bind fun _ =>
      (keeps_orFail _).bind fun _ => (ofUnplanned.note _ _ _).bind fun _ => keeps_pure _
  · exact .ite (ofUnplanned.decideByPolicy _ _ _ _ _) <|
      ((keeps_readAttribute _ _).bind fun _ => keeps_pure _).bind fun _ =>
        (ofUnplanned.note _ _ _).bind fun _ => keeps_pure _

theorem allows [Host] (principal resource action instance? context : Value) :
    Keeps invariant (allows principal resource action instance? context) :=
  (ofUnplanned.explain _ _ _ _ _).bind fun _ => keeps_pure _

theorem instanceFor (principal resource id : Value) :
    Keeps invariant (instanceFor principal resource id) := by
  refine keeps_get.bind fun system => .ite (keeps_pure _) ?_
  have loading : Keeps invariant (do
      let _ ← readAttribute principal "organization_id"
      Service.loadInstance resource id : Service Value) :=
    (keeps_readAttribute _ _).bind fun _ => keeps_loadInstance resource id
  refine loading.outcome.bind fun found => ?_
  split
  · exact keeps_pure _
  · exact (keeps_orFail _).bind fun _ => (keeps_orFail _).bind fun _ => (keeps_orFail _).bind fun _ =>
      (ofUnplanned.note _ _ _).bind fun _ => keeps_pure _

end OfUnplanned

namespace OfStores

variable (ofStores : OfStores invariant)

include ofStores

/-! ### What surrounds decisions -/

theorem recordEntry (entry : AccessEntry) : Keeps invariant (recordEntry entry) := by
  refine keeps_get.bind fun system => ?_
  split
  · exact keeps_orFail _
  · exact keeps_throw _
  · exact fun system holds => ofStores.others system _ _ _ _ _ _ holds

theorem enterDecision (user organization resource action id : Value) (allowed : Bool)
    (metadata : List (String × Value)) :
    Keeps invariant (enterDecision user organization resource action id allowed metadata) := by
  refine keeps_get.bind fun system => ?_
  split
  · exact (keeps_pure _).bind fun _ => (keeps_orFail _).bind fun _ => ofStores.recordEntry _
  · exact (keeps_orFail _).bind fun _ => (keeps_orFail _).bind fun _ => ofStores.recordEntry _

theorem recordDecision (user organization resource action id : Value) (allowed : Bool)
    (metadata : List (String × Value)) :
    Keeps invariant (recordDecision user organization resource action id allowed metadata) := by
  refine keeps_get.bind fun system => .ite ?_ (keeps_pure _)
  refine (ofStores.enterDecision _ _ _ _ _ _ _).outcome.bind fun result => ?_
  split
  · exact keeps_pure _
  · exact (keeps_orFail _).bind fun _ => (keeps_orFail _).bind fun _ =>
      (keeps_orFail _).bind fun _ => (keeps_orFail _).bind fun _ => ofStores.note _ _ _

theorem canAccess [Host] (principal resource action id context : Value) :
    Keeps invariant (canAccess principal resource action id context) := by
  unfold Service.canAccess
  split
  · exact (ofStores.recordDecision _ _ _ _ _ _ _).bind fun _ => keeps_pure _
  · exact (ofStores.instanceFor _ _ _).bind fun _ => (ofStores.explain _ _ _ _ _).bind fun _ =>
      (keeps_readAttribute _ _).bind fun _ => (keeps_readAttribute _ _).bind fun _ =>
        (ofStores.recordDecision _ _ _ _ _ _ _).bind fun _ => keeps_pure _

theorem addInstance (resource id found : Value) : Keeps invariant (addInstance resource id found) := by
  refine keeps_get.bind fun system => ?_
  split
  · exact (keeps_orFail _).bind fun _ => fun system holds =>
      ofStores.others system _ _ _ _ _ _ holds
  · exact keeps_orFail _

theorem removeInstance (resource id : Value) : Keeps invariant (removeInstance resource id) := by
  refine keeps_get.bind fun system => ?_
  split
  · refine (keeps_orFail _).bind fun key => Keeps.bind ?_ fun _ => keeps_pure _
    exact fun system holds => ofStores.others system _ _ _ _ _ _ holds
  · exact keeps_orFail _

theorem advanceClock (seconds : Value) : Keeps invariant (advanceClock seconds) := by
  refine (keeps_orFail _).bind fun micros => keeps_get.bind fun system => ?_
  split
  · exact fun system holds => ofStores.others system _ _ _ _ _ _ holds
  · exact keeps_orFail _

end OfStores

end Authorization.Service
