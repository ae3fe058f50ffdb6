import Authorization.Procedure.Listing

/-!
# Running services

What it comes to when a service is carried out on a system. A service that is put together of others
runs them one after the other, the later ones on the system that the earlier ones leave, up to the first
that fails. The operations of the stores are given with nothing planned, when each does its own work.
-/

namespace Authorization.Service

variable {α β : Type}

/-! ## Services in sequence -/

theorem exec_pure (value : α) (system : System) :
    exec (pure value : Service α) system = (.ok value, system) :=
  rfl

theorem exec_throw (error : Error) (system : System) :
    exec (throw error : Service α) system = (.error error, system) :=
  rfl

theorem exec_get (system : System) : exec (get : Service System) system = (.ok system, system) :=
  rfl

theorem exec_set (next system : System) :
    exec (set next : Service Unit) system = (.ok (), next) :=
  rfl

theorem exec_modify (change : System → System) (system : System) :
    exec (modify change : Service Unit) system = (.ok (), change system) :=
  rfl

theorem exec_bind (action : Service α) (next : α → Service β) (system : System) :
    exec (action >>= next) system =
      match exec action system with
      | (.ok value, after) => exec (next value) after
      | (.error error, after) => (.error error, after) := by
  have shape : exec (action >>= next) system =
      Id.run (StateT.run (ExceptT.bindCont next (exec action system).1)
        (exec action system).2) := rfl
  rw [shape]
  rcases exec action system with ⟨_ | value, after⟩ <;> rfl

theorem exec_map (write : α → β) (action : Service α) (system : System) :
    exec (write <$> action) system =
      ((exec action system).1.map write, (exec action system).2) := by
  rw [← bind_pure_comp, exec_bind]
  rcases exec action system with ⟨_ | value, after⟩ <;> rfl

/-- The next service runs on what a successful one leaves. -/
theorem exec_bind_of_ok {action : Service α} {next : α → Service β} {value : α}
    {system after : System} (succeeds : exec action system = (.ok value, after)) :
    exec (action >>= next) system = exec (next value) after := by
  rw [exec_bind, succeeds]

/-- What reads the system goes on with it. -/
theorem exec_get_bind (next : System → Service β) (system : System) :
    exec (get >>= next) system = exec (next system) system :=
  exec_bind_of_ok (exec_get system)

theorem exec_map_of_ok {write : α → β} {action : Service α} {value : α} {system after : System}
    (executed : exec action system = (.ok value, after)) :
    exec (write <$> action) system = (.ok (write value), after) := by
  rw [exec_map, executed]
  rfl

/-- Nothing runs after a service that fails. -/
theorem exec_bind_of_error {action : Service α} {next : α → Service β} {error : Error}
    {system after : System} (fails : exec action system = (.error error, after)) :
    exec (action >>= next) system = (.error error, after) := by
  rw [exec_bind, fails]

theorem exec_orFail (result : Except Error α) (system : System) :
    exec (orFail result) system = (result, system) := by
  cases result <;> rfl

/-- A check that passes is gone on from. -/
theorem exec_orFail_ok (value : α) (next : α → Service β) (system : System) :
    exec (orFail (.ok value) >>= next) system = exec (next value) system :=
  exec_bind_of_ok (exec_orFail _ system)

/-- A check and then a value that is read. -/
theorem exec_asking (check : Except Error Unit) (value : α) (system : System) :
    exec (do
      orFail check
      return value) system = (check.map fun _ => value, system) := by
  cases check <;> rfl

/-- Services that read the same first do the same when they do the same with what they have read. -/
theorem exec_read_congr {action : Service α} {next other : α → Service β} {system : System}
    {found : Except Error α} (reads : exec action system = (found, system))
    (same : ∀ value, found = .ok value → exec (next value) system = exec (other value) system) :
    exec (action >>= next) system = exec (action >>= other) system := by
  rw [exec_bind, exec_bind, reads]
  cases found with
  | error error => rfl
  | ok value => exact same value rfl

theorem exec_journaled (action : Journaled α) (system : System) :
    exec (journaled action) system =
      (.ok (Id.run (action.run system.journal)).1,
        { system with journal := (Id.run (action.run system.journal)).2 }) :=
  rfl

theorem exec_judged (action : Judged α) (system : System) :
    exec (judged action) system =
      ((Id.run (action.run system.journal)).1,
        { system with journal := (Id.run (action.run system.journal)).2 }) := by
  unfold judged
  rw [exec_bind_of_ok (exec_journaled action.run system), exec_orFail]
  rfl

theorem exec_outcome (action : Service α) (system : System) :
    exec (outcome action) system = (.ok (exec action system).1, (exec action system).2) :=
  rfl

theorem exec_outcome_bind {action : Service α} {next : Except Error α → Service β}
    {system after : System} {result : Except Error α} (ran : exec action system = (result, after)) :
    exec (outcome action >>= next) system = exec (next result) after := by
  rw [exec_bind, exec_outcome, ran]

theorem exec_note (level : LogLevel) (source : LogSource) (message : String) (system : System) :
    exec (note level source message) system =
      (.ok (), { system with journal := system.journal.add level source message }) :=
  rfl

/-- A change is logged whenever the one who made it can be written. -/
theorem exec_noteChange {actor : Value} {written : String} (isWritten : actor.toText = .ok written)
    (message : String) (organization : Value) (system : System) :
    exec (noteChange message organization actor) system =
      (.ok (), { system with
        journal := system.journal.add .info .admin
          (message ++ " org=" ++ organization.text ++ " actor=" ++ written) }) := by
  unfold noteChange
  rw [isWritten, exec_orFail_ok, exec_note]

theorem exec_newId (system : System) :
    exec newId system =
      (.ok (system.ids.spell (system.ids.drawn + 1)),
        { system with ids := { system.ids with drawn := system.ids.drawn + 1 } }) :=
  rfl

/-- Log records are written to the journal and nowhere else. -/
theorem exec_noteAll (records : List LogRecord) (system : System) :
    exec (noteAll records) system =
      (.ok (), { system with
        journal := records.foldl
          (fun journal record => journal.add record.level record.source record.message)
          system.journal }) := by
  unfold noteAll
  induction records generalizing system with
  | nil => rfl
  | cons record rest inductionHypothesis =>
      rw [List.forM, exec_bind, exec_note]
      exact inductionHypothesis _

/-- Carries actions out one after the other, whatever comes of each: what comes of them, and the system
after them. -/
def inTurn : List (Service α) → System → List (Except Error α) × System
  | [], system => ([], system)
  | action :: rest, system =>
    let (result, middle) := exec action system
    let (results, last) := inTurn rest middle
    (result :: results, last)

/-! ## Services that have succeeded -/

section Succeeded

variable {action : Service α} {next : α → Service β} {system after : System}

theorem exec_bind_eq_ok {result : β} (succeeds : exec (action >>= next) system = (.ok result, after)) :
    ∃ value middle, exec action system = (.ok value, middle) ∧
      exec (next value) middle = (.ok result, after) := by
  rw [exec_bind] at succeeds
  rcases executed : exec action system with ⟨error | value, middle⟩
  · rw [executed] at succeeds
    cases succeeds
  · rw [executed] at succeeds
    exact ⟨value, middle, rfl, succeeds⟩

theorem exec_map_eq_ok {write : α → β} {result : β}
    (succeeds : exec (write <$> action) system = (.ok result, after)) :
    ∃ value, exec action system = (.ok value, after) ∧ result = write value := by
  rw [exec_map] at succeeds
  rcases executed : exec action system with ⟨error | value, later⟩
  · rw [executed] at succeeds
    cases succeeds
  · rw [executed] at succeeds
    cases succeeds
    exact ⟨value, rfl, rfl⟩

/-- Where a service succeeds, what it reads at first is there. -/
theorem exec_read {found : Except Error α} {result : β} (reads : exec action system = (found, system))
    (succeeds : exec (action >>= next) system = (.ok result, after)) :
    ∃ value, found = .ok value ∧ exec (next value) system = (.ok result, after) := by
  rw [exec_bind, reads] at succeeds
  cases found with
  | error error => cases succeeds
  | ok value => exact ⟨value, rfl, succeeds⟩

/-- Where a service succeeds, what it checks at first is right. -/
theorem exec_checked {check : Except Error α} {result : β}
    (succeeds : exec (orFail check >>= next) system = (.ok result, after)) :
    ∃ value, check = .ok value ∧ exec (next value) system = (.ok result, after) :=
  exec_read (exec_orFail check system) succeeds

/-- A change that is logged adds one line to the log. -/
theorem logged_of_noteChange {message : String} {organization actor : Value} {done : Unit}
    (succeeds : exec (noteChange message organization actor) system = (.ok done, after)) :
    ∃ line, after = { system with journal := system.journal.add .info .admin line } := by
  obtain ⟨written, _, succeeds⟩ := exec_checked succeeds
  rw [exec_note] at succeeds
  cases succeeds
  exact ⟨_, rfl⟩

end Succeeded

/-! ## Operations with nothing planned -/

section Unplanned

variable {system : System} (unplannedSystem : system.plans = [])

include unplannedSystem

theorem exec_due? (operation : StoreOperation) :
    exec (due? operation) system = (.ok none, system) := by
  unfold due?
  simp only [exec_bind, exec_get, unplannedSystem, Keyed.get?_nil, exec_pure]

theorem exec_plannedOr (operation : StoreOperation) (action : Service α) :
    exec (plannedOr operation action) system =
      ((exec action system).1.map Sum.inr, (exec action system).2) := by
  unfold plannedOr
  rw [exec_bind_of_ok (exec_due? unplannedSystem operation), exec_bind]
  rcases exec action system with ⟨_ | value, after⟩ <;> rfl

theorem exec_performed (operation : StoreOperation) (read : Value → Except Error α)
    (action : Service α) :
    exec (performed operation read action) system = exec action system := by
  unfold performed
  rw [exec_bind, exec_plannedOr unplannedSystem]
  rcases exec action system with ⟨_ | value, after⟩ <;> rfl

theorem exec_performedValue (operation : StoreOperation) (write : α → Value)
    (action : Service α) :
    exec (performedValue operation write action) system =
      ((exec action system).1.map write, (exec action system).2) := by
  unfold performedValue
  rw [exec_bind, exec_plannedOr unplannedSystem]
  rcases exec action system with ⟨_ | value, after⟩ <;> rfl

/-! ### Asking the stores -/

theorem exec_role? (id : Value) : exec (role? id) system = (system.roles.role? id, system) := by
  unfold role?
  rw [exec_performed unplannedSystem, exec_get_bind, exec_orFail]

theorem exec_rolesIn (organization : Value) :
    exec (rolesIn organization) system =
      ((system.roles.backend.asks [organization]).map fun _ => system.roles.rolesIn organization,
        system) := by
  unfold rolesIn
  rw [exec_performed unplannedSystem, exec_get_bind, exec_asking]

theorem exec_roleBySlug? (slug organization : Value) :
    exec (roleBySlug? slug organization) system =
      ((system.roles.backend.asks [slug, organization]).map fun _ =>
        system.roles.roleBySlug? slug organization, system) := by
  unfold roleBySlug?
  rw [exec_performed unplannedSystem, exec_get_bind, exec_asking]

theorem exec_countHolders (id : Value) :
    exec (countHolders id) system =
      ((system.roles.countHolders id).map fun count : Nat => .int count, system) := by
  unfold countHolders
  rw [exec_performedValue unplannedSystem, exec_get_bind, exec_orFail]

theorem exec_rolesHeldBy (user : Value) :
    exec (rolesHeldBy user) system = ((system.roles.rolesHeldBy user).map .tuple, system) := by
  unfold rolesHeldBy
  rw [exec_performedValue unplannedSystem, exec_get_bind, exec_orFail]

theorem exec_listPermissions :
    exec listPermissions system = (.ok system.roles.listPermissions, system) := by
  unfold listPermissions
  rw [exec_performed unplannedSystem, exec_get_bind, exec_pure]

theorem exec_policiesIn (organization : Value) :
    exec (policiesIn organization) system =
      ((system.policies.backend.asks [organization]).map fun _ =>
        system.policies.policiesIn organization, system) := by
  unfold policiesIn
  rw [exec_performed unplannedSystem, exec_get_bind, exec_asking]

theorem exec_policy? (id : Value) :
    exec (policy? id) system = (system.policies.policy? id, system) := by
  unfold policy?
  rw [exec_performed unplannedSystem, exec_get_bind, exec_orFail]

theorem exec_policyByKey? (key organization : Value) :
    exec (policyByKey? key organization) system =
      ((system.policies.backend.asks [key, organization]).map fun _ =>
        system.policies.policyByKey? key organization, system) := by
  unfold policyByKey?
  rw [exec_performed unplannedSystem, exec_get_bind, exec_asking]

theorem exec_rulesOfPolicy (policyId : Value) :
    exec (rulesOfPolicy policyId) system = (system.policies.rulesOf policyId, system) := by
  unfold rulesOfPolicy
  rw [exec_performed unplannedSystem, exec_get_bind, exec_orFail]

theorem exec_rule? (id : Value) :
    exec (rule? id) system = (system.policies.rule? id, system) := by
  unfold rule?
  rw [exec_performed unplannedSystem, exec_get_bind, exec_orFail]

theorem exec_countRules (policyId : Value) :
    exec (countRules policyId) system =
      (.ok (.int (system.policies.countRules policyId)), system) := by
  unfold countRules
  rw [exec_performedValue unplannedSystem, exec_get_bind, exec_pure]
  rfl

end Unplanned

end Authorization.Service
