import Authorization.Proofs.Decision.Chain
import Authorization.Proofs.Service.Run

/-!
# Services that do not look at what is recorded

Two systems may differ in what decisions are recorded to and in what has been logged. A service is heedless
when it does the same in both: it gives the same result and leaves systems that differ in nothing else, with
what is recorded untouched. The operations of the stores, decisions and whatever is put together of them
are heedless.
-/

namespace Authorization

open Service

/-- The systems record decisions to what is given, and differ in nothing else, apart from what has been
logged. -/
structure System.SameBut (log other : AccessLog) (first second : System) : Prop where
  log : first.accessLog = log
  twin : second = { first with accessLog := other, journal := second.journal }
  cursors : first.journal.cursors = second.journal.cursors

theorem System.SameBut.refl (system : System) :
    System.SameBut system.accessLog system.accessLog system system :=
  ⟨rfl, rfl, rfl⟩

theorem System.sameBut_twin (system : System) (other : AccessLog) {journal : Journal}
    (cursors : system.journal.cursors = journal.cursors) :
    System.SameBut system.accessLog other system { system with accessLog := other, journal } :=
  ⟨rfl, rfl, cursors⟩

namespace Service

variable {α β : Type}

/-- A service does the same whatever decisions are recorded to and whatever has been logged. -/
def Heedless (action : Service α) : Prop :=
  ∀ (log other : AccessLog) (first second : System), System.SameBut log other first second →
    (exec action first).1 = (exec action second).1 ∧
      System.SameBut log other (exec action first).2 (exec action second).2

/-- What a heedless service leaves untouched. -/
theorem Heedless.accessLog_eq {action : Service α} (heedless : Heedless action) (system : System) :
    (exec action system).2.accessLog = system.accessLog :=
  (heedless _ _ _ _ (.refl system)).2.log

theorem heedless_pure (value : α) : Heedless (pure value : Service α) :=
  fun _ _ _ _ same => ⟨rfl, same⟩

theorem heedless_throw (error : Error) : Heedless (throw error : Service α) :=
  fun _ _ _ _ same => ⟨rfl, same⟩

theorem heedless_orFail (result : Except Error α) : Heedless (orFail result) := by
  cases result with
  | error error => exact heedless_throw error
  | ok value => exact heedless_pure value

theorem Heedless.bind {action : Service α} {next : α → Service β} (first : Heedless action)
    (rest : ∀ value, Heedless (next value)) : Heedless (action >>= next) := by
  intro log other system twin same
  obtain ⟨sameResult, after⟩ := first log other system twin same
  rw [exec_bind, exec_bind]
  revert sameResult after
  rcases exec action system with ⟨result, last⟩
  rcases exec action twin with ⟨otherResult, otherLast⟩
  intro sameResult after
  cases sameResult
  cases result with
  | error error => exact ⟨rfl, after⟩
  | ok value => exact rest value log other last otherLast after

theorem Heedless.map {action : Service α} (heedless : Heedless action) (write : α → β) :
    Heedless (write <$> action) := by
  rw [← bind_pure_comp]
  exact heedless.bind fun value => heedless_pure (write value)

theorem Heedless.outcome {action : Service α} (heedless : Heedless action) :
    Heedless (outcome action) := by
  intro log other system twin same
  obtain ⟨sameResult, after⟩ := heedless log other system twin same
  rw [exec_outcome, exec_outcome]
  exact ⟨congrArg Except.ok sameResult, after⟩

theorem Heedless.ite {condition : Prop} [Decidable condition] {first second : Service α}
    (isTrue : Heedless first) (isFalse : Heedless second) :
    Heedless (if condition then first else second) := by
  split
  · exact isTrue
  · exact isFalse

theorem Heedless.guarded {condition : Prop} [Decidable condition] {check : Service PUnit}
    {rest : PUnit → Service α} (checks : Heedless check) (heedless : ∀ done, Heedless (rest done)) :
    Heedless (if condition then check >>= rest else rest ⟨⟩) :=
  .ite (checks.bind heedless) (heedless ⟨⟩)

/-- What is read of the system may be anything but what decisions are recorded to and the journal. -/
theorem heedless_get {next : System → Service α}
    (same : ∀ (system : System) other journal,
      next { system with accessLog := other, journal } = next system)
    (rest : ∀ system, Heedless (next system)) : Heedless (get >>= next) := by
  intro log other system twin sameBut
  have sameNext : next twin = next system := by
    rw [sameBut.twin]
    exact same system other twin.journal
  rw [exec_get_bind, exec_get_bind, sameNext]
  exact rest system log other system twin sameBut

/-- What is changed may be anything but what decisions are recorded to and the journal. -/
theorem heedless_modify {change : System → System}
    (keeps : ∀ system, (change system).accessLog = system.accessLog ∧
      (change system).journal = system.journal)
    (commutes : ∀ (system : System) other journal,
      change { system with accessLog := other, journal } =
        { change system with accessLog := other, journal }) :
    Heedless (modify change : Service Unit) := by
  intro log other system twin same
  have changed : change twin = { change system with accessLog := other, journal := twin.journal } := by
    rw [same.twin]
    exact commutes system other twin.journal
  rw [exec_modify, exec_modify]
  refine ⟨rfl, (keeps system).1.trans same.log, ?_, ?_⟩
  · rw [changed]
  · rw [(keeps system).2, (keeps twin).2]
    exact same.cursors

theorem heedless_journaled {action : Journaled α} (blind : action.Blind) :
    Heedless (journaled action) := by
  intro log other system twin same
  obtain ⟨sameValue, sameCursors⟩ := blind system.journal twin.journal same.cursors
  rw [exec_journaled, exec_journaled]
  refine ⟨congrArg Except.ok sameValue, same.log, ?_, sameCursors⟩
  rw [same.twin]

theorem heedless_judged {action : Judged α} (blind : action.Blind) : Heedless (judged action) :=
  (heedless_journaled blind.journaled).bind heedless_orFail

theorem heedless_note (level : LogLevel) (source : LogSource) (message : String) :
    Heedless (note level source message) :=
  heedless_journaled (Journaled.blind_note level source message)

theorem heedless_noteAll (records : List LogRecord) : Heedless (noteAll records) := by
  unfold noteAll
  induction records with
  | nil => exact heedless_pure _
  | cons record rest inductionHypothesis =>
      exact (heedless_note _ _ _).bind fun _ => inductionHypothesis

theorem heedless_ofDraw (draw : Draw α) : Heedless (ofDraw draw) :=
  (heedless_journaled (Journaled.blind_ofDraw draw)).bind heedless_orFail

theorem heedless_newId : Heedless newId := by
  intro log other system twin same
  have sameIds : twin.ids = system.ids := by rw [same.twin]
  rw [exec_newId, exec_newId, sameIds]
  refine ⟨rfl, same.log, ?_, same.cursors⟩
  rw [same.twin]

theorem heedless_mapM {step : α → Service β} (heedless : ∀ item, Heedless (step item))
    (items : List α) : Heedless (items.mapM step) := by
  rw [← List.mapM'_eq_mapM]
  induction items with
  | nil => exact heedless_pure []
  | cons item rest inductionHypothesis =>
      exact (heedless item).bind fun first => inductionHypothesis.bind fun others =>
        heedless_pure (first :: others)

theorem heedless_filterM {test : α → Service Bool} (heedless : ∀ item, Heedless (test item))
    (items : List α) : Heedless (items.filterM test) := by
  have picks (found : List α) : Heedless (items.filterAuxM test found) := by
    induction items generalizing found with
    | nil => exact heedless_pure found
    | cons item rest inductionHypothesis =>
        exact (heedless item).bind fun isKept => inductionHypothesis _
  exact (picks []).bind fun found => heedless_pure found.reverse

/-! ## Plans -/

theorem heedless_due? (operation : StoreOperation) : Heedless (due? operation) := by
  intro log other system twin same
  have samePlans : twin.plans = system.plans := by rw [same.twin]
  unfold due?
  rw [exec_get_bind, exec_get_bind, samePlans]
  rcases system.plans.get? operation with _ | ⟨effect, left⟩
  · exact ⟨rfl, same⟩
  · cases left with
    | zero => exact ⟨rfl, same⟩
    | succ left =>
        refine ⟨rfl, same.log, ?_, same.cursors⟩
        dsimp only
        rw [exec_bind_of_ok (exec_set _ _), exec_bind_of_ok (exec_set _ _), exec_pure, exec_pure]
        rw [same.twin]

theorem Heedless.plannedOr {action : Service α} (heedless : Heedless action)
    (operation : StoreOperation) : Heedless (plannedOr operation action) := by
  refine (heedless_due? operation).bind fun found => ?_
  split
  · exact (heedless_orFail _).bind fun _ => heedless_pure _
  · exact heedless.bind fun _ => heedless_pure _

theorem Heedless.performed {action : Service α} (heedless : Heedless action)
    (operation : StoreOperation) (read : Value → Except Error α) :
    Heedless (performed operation read action) := by
  refine (heedless.plannedOr operation).bind fun found => ?_
  split
  · exact heedless_orFail _
  · exact heedless_pure _

theorem Heedless.performedValue {action : Service α} (heedless : Heedless action)
    (operation : StoreOperation) (write : α → Value) :
    Heedless (performedValue operation write action) := by
  refine (heedless.plannedOr operation).bind fun found => ?_
  split
  · exact heedless_pure _
  · exact heedless_pure _

/-! ## Announcements -/

theorem heedless_readOr (read : Value → Except Error α) (found : Value ⊕ α) :
    Heedless (readOr read found) := by
  cases found with
  | inl value => exact heedless_orFail _
  | inr result => exact heedless_pure _

theorem heedless_stored : Heedless stored := by
  have policies : Heedless (do return (← get).policies.policiesIn .null : Service (List Policy)) :=
    heedless_get (fun _ _ _ => rfl) fun _ => heedless_pure _
  have rules : Heedless (do orFail ((← get).policies.rulesOf .null) : Service (List PolicyRule)) :=
    heedless_get (fun _ _ _ => rfl) fun _ => heedless_orFail _
  exact (policies.plannedOr _).bind fun _ => (rules.plannedOr _).bind fun _ => heedless_pure _

theorem heedless_reload [Host] : Heedless reload := by
  refine heedless_stored.outcome.bind fun found => ?_
  split
  · exact heedless_get (fun _ _ _ => rfl) fun _ => (heedless_orFail _).bind fun _ =>
      (heedless_note _ _ _).bind fun _ => heedless_throw _
  · refine (heedless_readOr _ _).bind fun rules => (heedless_readOr _ _).bind fun policies =>
      heedless_get (fun _ _ _ => rfl) fun system => ?_
    dsimp only
    refine Heedless.bind (heedless_modify ?keeps ?commutes) fun _ =>
      (heedless_noteAll _).bind fun _ => heedless_pure _
    case keeps => exact fun _ => ⟨rfl, rfl⟩
    case commutes => exact fun _ _ _ => rfl

theorem heedless_tell [Host] (listener : Listener) : Heedless (tell listener) := by
  cases listener with
  | registry => exact heedless_reload.bind fun _ => heedless_pure _
  | counter => exact heedless_modify (fun _ => ⟨rfl, rfl⟩) fun _ _ _ => rfl
  | function tag => exact heedless_pure _

theorem heedless_announce [Host] : Heedless announce := by
  have telling (listeners : List Listener) : Heedless (listeners.forM tell) := by
    induction listeners with
    | nil => exact heedless_pure _
    | cons listener rest inductionHypothesis =>
        exact (heedless_tell listener).bind fun _ => inductionHypothesis
  refine heedless_get (fun _ _ _ => rfl) fun system => .ite ?_ ?_
  · exact heedless_get (fun _ _ _ => rfl) fun _ => telling _
  · exact heedless_modify (fun _ => ⟨rfl, rfl⟩) fun _ _ _ => rfl

/-! ## The stores at work -/

theorem heedless_changeRoles (change : RoleStore → Except Error (RoleStore × α)) :
    Heedless (changeRoles change) := by
  refine heedless_get (fun _ _ _ => rfl) fun system => (heedless_orFail _).bind fun made => ?_
  dsimp only
  refine Heedless.bind (heedless_modify ?keeps ?commutes) fun _ => heedless_pure _
  case keeps => exact fun _ => ⟨rfl, rfl⟩
  case commutes => exact fun _ _ _ => rfl

theorem heedless_changePolicies (change : PolicyStore → Except Error (PolicyStore × α)) :
    Heedless (changePolicies change) := by
  refine heedless_get (fun _ _ _ => rfl) fun system => (heedless_orFail _).bind fun made => ?_
  dsimp only
  refine Heedless.bind (heedless_modify ?keeps ?commutes) fun _ => heedless_pure _
  case keeps => exact fun _ => ⟨rfl, rfl⟩
  case commutes => exact fun _ _ _ => rfl

/-- A change of the policy store that is announced if its result says so. -/
theorem heedless_change [Host] (change : PolicyStore → Except Error (PolicyStore × α))
    (announces : α → Bool) :
    Heedless (do
      let result ← changePolicies change
      if announces result then announce
      return result) :=
  (heedless_changePolicies change).bind fun _ =>
    .guarded heedless_announce fun _ => heedless_pure _

section Roles

theorem heedless_listPermissions : Heedless listPermissions :=
  (heedless_get (fun _ _ _ => rfl) fun _ => heedless_pure _).performed _ _

theorem heedless_role? (id : Value) : Heedless (role? id) :=
  (heedless_get (fun _ _ _ => rfl) fun _ => heedless_orFail _).performed _ _

theorem heedless_rolesOf (ids : Value) : Heedless (rolesOf ids) :=
  ((heedless_ofDraw _).bind fun _ =>
    heedless_get (fun _ _ _ => rfl) fun _ => heedless_orFail _).performed _ _

theorem heedless_rolesIn (organization : Value) : Heedless (rolesIn organization) :=
  (heedless_get (fun _ _ _ => rfl) fun _ =>
    (heedless_orFail _).bind fun _ => heedless_pure _).performed _ _

theorem heedless_roleBySlug? (slug organization : Value) :
    Heedless (roleBySlug? slug organization) :=
  (heedless_get (fun _ _ _ => rfl) fun _ =>
    (heedless_orFail _).bind fun _ => heedless_pure _).performed _ _

theorem heedless_saveRole (role : Role) : Heedless (saveRole role) :=
  (heedless_changeRoles _).performedValue _ _

theorem heedless_deleteRole (id : Value) : Heedless (deleteRole id) :=
  (heedless_changeRoles _).performedValue _ _

theorem heedless_countHolders (id : Value) : Heedless (countHolders id) :=
  (heedless_get (fun _ _ _ => rfl) fun _ => heedless_orFail _).performedValue _ _

theorem heedless_assign (user id : Value) : Heedless (assign user id) :=
  (heedless_get (fun _ _ _ => rfl) fun _ => heedless_changeRoles _).performedValue _ _

theorem heedless_revoke (user id : Value) : Heedless (revoke user id) :=
  (heedless_changeRoles _).performedValue _ _

theorem heedless_rolesHeldBy (user : Value) : Heedless (rolesHeldBy user) :=
  (heedless_get (fun _ _ _ => rfl) fun _ => heedless_orFail _).performedValue _ _

end Roles

section Policies

theorem heedless_policiesIn (organization : Value) : Heedless (policiesIn organization) :=
  (heedless_get (fun _ _ _ => rfl) fun _ =>
    (heedless_orFail _).bind fun _ => heedless_pure _).performed _ _

theorem heedless_policy? (id : Value) : Heedless (policy? id) :=
  (heedless_get (fun _ _ _ => rfl) fun _ => heedless_orFail _).performed _ _

theorem heedless_policyByKey? (key organization : Value) :
    Heedless (policyByKey? key organization) :=
  (heedless_get (fun _ _ _ => rfl) fun _ =>
    (heedless_orFail _).bind fun _ => heedless_pure _).performed _ _

theorem heedless_savePolicy [Host] (policy : Policy) : Heedless (savePolicy policy) :=
  (heedless_change _ fun _ => true).performedValue _ _

theorem heedless_deletePolicy [Host] (id : Value) : Heedless (deletePolicy id) :=
  (heedless_change _ fun deleted => deleted).performedValue _ _

theorem heedless_rulesOfPolicy (policyId : Value) : Heedless (rulesOfPolicy policyId) :=
  (heedless_get (fun _ _ _ => rfl) fun _ => heedless_orFail _).performed _ _

theorem heedless_rule? (id : Value) : Heedless (rule? id) :=
  (heedless_get (fun _ _ _ => rfl) fun _ => heedless_orFail _).performed _ _

theorem heedless_countRules (policyId : Value) : Heedless (countRules policyId) :=
  (heedless_get (fun _ _ _ => rfl) fun _ => heedless_pure _).performedValue _ _

theorem Heedless.saveRules [Host] {make : Service (List PolicyRule)} (heedless : Heedless make) :
    Heedless (saveRules make) :=
  (heedless.bind fun rules => heedless_change _ fun _ => !rules.isEmpty).performedValue _ _

theorem heedless_deleteRule [Host] (id : Value) : Heedless (deleteRule id) :=
  (heedless_change _ fun deleted => deleted).performedValue _ _

end Policies

/-! ## Decisions -/

theorem heedless_readAttribute (value : Value) (name : String) :
    Heedless (readAttribute value name) := by
  unfold readAttribute
  split
  · exact heedless_pure _
  · exact heedless_orFail _

theorem heedless_chainFor (key organization : Value) : Heedless (chainFor key organization) :=
  .guarded (heedless_orFail _) fun _ => .guarded (heedless_orFail _) fun _ =>
    heedless_get (fun _ _ _ => rfl) fun _ => heedless_pure _

theorem heedless_chainForPolicy (policyId : Value) : Heedless (chainForPolicy policyId) :=
  .guarded (heedless_orFail _) fun _ => heedless_get (fun _ _ _ => rfl) fun _ => heedless_pure _

theorem heedless_letsPass (principal resource action : Value) (role : Role) :
    Heedless (letsPass principal resource action role) :=
  (heedless_readAttribute _ _).bind fun _ =>
    .ite ((heedless_orFail _).bind fun _ => (heedless_orFail _).bind fun _ => heedless_pure _)
      (heedless_pure _)

theorem heedless_evaluatePermissions (principal resource action : Value) :
    Heedless (evaluatePermissions principal resource action) := by
  refine (heedless_readAttribute _ _).bind fun account => .guarded (heedless_orFail _) fun _ =>
    heedless_get (fun _ _ _ => rfl) fun _ => .ite (heedless_pure _) ?_
  refine (heedless_readAttribute _ _).bind fun held =>
    .ite ((heedless_readAttribute _ _).bind fun _ => heedless_pure _) ?_
  exact (heedless_rolesOf held).bind fun found =>
    (heedless_filterM (heedless_letsPass principal resource action) found).bind fun _ =>
      .ite (heedless_pure _) <| (heedless_readAttribute _ _).bind fun _ =>
        (heedless_orFail _).bind fun _ => heedless_pure _

theorem heedless_idText (principal : Value) : Heedless (idText principal) :=
  (heedless_readAttribute _ _).bind fun _ => heedless_pure _

theorem heedless_decideByChain [Host] (chain : PolicyChain) (key : String)
    (principal action instance? context : Value) :
    Heedless (decideByChain chain key principal action instance? context) :=
  (heedless_orFail _).bind fun attributes =>
    (heedless_judged (chain.blind_evaluate attributes)).bind fun _ =>
      (heedless_idText _).bind fun _ => (heedless_note _ _ _).bind fun _ => heedless_pure _

theorem heedless_decideByPolicy [Host] (key : String) (principal action instance? context : Value) :
    Heedless (decideByPolicy key principal action instance? context) := by
  unfold decideByPolicy
  split
  · exact heedless_pure _
  · refine (heedless_readAttribute _ _).bind fun _ => (heedless_chainFor _ _).bind fun found => ?_
    split
    · exact (heedless_note _ _ _).bind fun _ => heedless_pure _
    · exact heedless_decideByChain _ _ _ _ _ _

/-- A decision depends neither on what decisions are recorded to nor on the log. -/
theorem heedless_explain [Host] (principal resource action instance? context : Value) :
    Heedless (explain principal resource action instance? context) := by
  refine (heedless_orFail _).bind fun key =>
    (heedless_evaluatePermissions _ _ _).outcome.bind fun gate => ?_
  split
  · exact (heedless_idText _).bind fun _ => (heedless_orFail _).bind fun _ =>
      (heedless_note _ _ _).bind fun _ => heedless_pure _
  · exact .ite (heedless_decideByPolicy _ _ _ _ _) <|
      (heedless_idText _).bind fun _ => (heedless_note _ _ _).bind fun _ => heedless_pure _

/-! ## What surrounds decisions -/

theorem heedless_resolvePermissions (slugs : Value) : Heedless (resolvePermissions slugs) := by
  have listing (requested : List Value) : Heedless (do
      let known := (← listPermissions).map Permission.slug
      let isKnown (item : Value) : Bool := item.asStr?.any known.contains
      let unknown ← orFail ((requested.filter fun item => !isKnown item).mapM slugText)
      if unknown.isEmpty then return requested.filterMap Value.asStr?
      else throw (.unknownPermissions (unknown.mergeSort textsInOrder)) :
      Service (List String)) :=
    heedless_listPermissions.bind fun _ => (heedless_orFail _).bind fun _ =>
      .ite (heedless_pure _) (heedless_throw _)
  refine (heedless_ofDraw _).bind fun items => ?_
  dsimp only
  split
  · exact (heedless_orFail _).bind fun _ => listing _
  · exact listing _

theorem heedless_noAttribute (kind name : String) :
    Heedless (noAttribute kind name : Service α) :=
  heedless_orFail _

theorem heedless_addInstance (resource id found : Value) :
    Heedless (addInstance resource id found) := by
  refine heedless_get (fun _ _ _ => rfl) fun system => ?_
  cases system.loader with
  | memory instances =>
      exact (heedless_orFail _).bind fun _ => heedless_modify (fun _ => ⟨rfl, rfl⟩) fun _ _ _ => rfl
  | _ => exact heedless_noAttribute _ _

theorem heedless_removeInstance (resource id : Value) : Heedless (removeInstance resource id) := by
  refine heedless_get (fun _ _ _ => rfl) fun system => ?_
  cases system.loader with
  | memory instances =>
      refine (heedless_orFail _).bind fun key =>
        Heedless.bind (heedless_modify ?keeps ?commutes) fun _ => heedless_pure _
      case keeps => exact fun _ => ⟨rfl, rfl⟩
      case commutes => exact fun _ _ _ => rfl
  | _ => exact heedless_noAttribute _ _

theorem heedless_advanceClock (seconds : Value) : Heedless (advanceClock seconds) := by
  refine (heedless_orFail _).bind fun micros => heedless_get (fun _ _ _ => rfl) fun system => ?_
  cases system.clock.addMicros? micros with
  | some clock => exact heedless_modify (fun _ => ⟨rfl, rfl⟩) fun _ _ _ => rfl
  | none => exact heedless_orFail _

end Service

end Authorization
