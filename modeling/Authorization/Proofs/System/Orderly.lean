import Authorization.Proofs.Registry.Agreement
import Authorization.Proofs.Service.Run
import Authorization.Proofs.Store.Role

/-!
# Orderly systems

A system is orderly when nothing is planned, no transaction is open, the stores are sound, the registry
listens, and its snapshot is the one of the policy store. A change of the policy store may leave the
registry behind for a moment; the announcement of the change brings it up to date, whoever else listens.
-/

namespace Authorization

/-- Nothing is planned, no transaction is open, and the stores are sound; the registry makes rules by one
catalog and keeps its fixed chains. -/
structure System.Idle (catalog : RuleCatalog) (fixed : Keyed String PolicyChain) (system : System) :
    Prop where
  unplanned : system.plans = []
  closed : system.savepoints = []
  roles : system.roles.Sound
  policies : system.policies.Sound
  sameCatalog : system.registry.catalog = catalog
  sameFixed : system.registry.snapshot.fixed = fixed

/-- A system that is idle and whose registry listens. -/
structure System.Ready (catalog : RuleCatalog) (fixed : Keyed String PolicyChain) (system : System) :
    Prop extends System.Idle catalog fixed system where
  listening : Listener.registry ∈ system.listeners

/-- A system that is ready and whose registry is up to date. -/
structure System.Orderly [Host] (catalog : RuleCatalog) (fixed : Keyed String PolicyChain)
    (system : System) : Prop extends System.Ready catalog fixed system where
  inForce : ∃ version, system.registry = Registry.ofStore catalog fixed version system.policies

variable {catalog : RuleCatalog} {fixed : Keyed String PolicyChain} {system after : System}

namespace System

/-- The registry of an orderly system agrees with its policy store. -/
theorem Orderly.agrees [Host] (orderly : system.Orderly catalog fixed) :
    system.registry.Agrees catalog fixed system.policies := by
  obtain ⟨version, inForce⟩ := orderly.inForce
  rw [inForce]
  exact Registry.agrees_ofStore orderly.policies version

/-- What telling the listeners changes: the registry, which is rebuilt from the policy store or left as
it was, the log and the count of notifications. -/
structure Told [Host] (catalog : RuleCatalog) (fixed : Keyed String PolicyChain) (system after : System) :
    Prop where
  rebuilt : after.registry = system.registry ∨
    ∃ version, after.registry = Registry.ofStore catalog fixed version system.policies
  sameCursors : after.journal.cursors = system.journal.cursors
  others : after = { system with
    registry := after.registry, journal := after.journal, counted := after.counted }

theorem Told.refl [Host] (system : System) : Told catalog fixed system system :=
  ⟨.inl rfl, rfl, rfl⟩

theorem Told.policies [Host] (told : Told catalog fixed system after) :
    after.policies = system.policies := by
  rw [told.others]

theorem Told.trans [Host] {last : System} (first : Told catalog fixed system after)
    (second : Told catalog fixed after last) : Told catalog fixed system last := by
  refine ⟨?_, second.sameCursors.trans first.sameCursors, ?_⟩
  · rw [← first.policies]
    exact second.rebuilt.elim (fun same => same ▸ first.policies ▸ first.rebuilt) .inr
  · have others := second.others
    rw [first.others] at others
    exact others

/-- Telling the listeners keeps a system idle. -/
theorem Told.idle [Host] (told : Told catalog fixed system after) (idle : system.Idle catalog fixed) :
    after.Idle catalog fixed := by
  obtain ⟨rebuilt, _, others⟩ := told
  rw [others]
  refine ⟨idle.unplanned, idle.closed, idle.roles, idle.policies, ?_, ?_⟩
  · rcases rebuilt with same | ⟨version, same⟩
    · rw [same]
      exact idle.sameCatalog
    · rw [same]
      rfl
  · rcases rebuilt with same | ⟨version, same⟩
    · rw [same]
      exact idle.sameFixed
    · rw [same, Registry.snapshot_ofStore]

theorem Told.ready [Host] (told : Told catalog fixed system after) (ready : system.Ready catalog fixed) :
    after.Ready catalog fixed := by
  refine ⟨told.idle ready.toIdle, ?_⟩
  rw [told.others]
  exact ready.listening

/-- What a change of the policy store leaves: nothing is changed when it fails, and else the change has
been announced. -/
inductive Changed [Host] (catalog : RuleCatalog) (fixed : Keyed String PolicyChain) (system : System) :
    Except Error PolicyStore → System → Prop
  | failed (error : Error) : Changed catalog fixed system (.error error) system
  | made {policies : PolicyStore} {after : System}
      (told : Told catalog fixed { system with policies } after)
      (orderly : after.Orderly catalog fixed) : Changed catalog fixed system (.ok policies) after

theorem Changed.orderly [Host] {result : Except Error PolicyStore}
    (changed : Changed catalog fixed system result after) (orderly : system.Orderly catalog fixed) :
    after.Orderly catalog fixed := by
  cases changed with
  | failed => exact orderly
  | made _ orderly => exact orderly

/-- A change of the policy store that has been made leaves the role store alone. -/
theorem Changed.stores [Host] {policies : PolicyStore}
    (changed : Changed catalog fixed system (.ok policies) after) :
    after.policies = policies ∧ after.roles = system.roles := by
  cases changed with
  | made told _ =>
      refine ⟨told.policies, ?_⟩
      rw [told.others]

end System

namespace Service

theorem exec_stored (unplanned : system.plans = []) :
    exec stored system = (.ok (.inr (system.policies.policiesIn .null),
      .inr (PolicyRule.sorted system.policies.rules.values)), system) := by
  unfold stored
  rw [exec_bind, exec_plannedOr unplanned, exec_get_bind]
  dsimp only [exec_pure, Except.map]
  rw [exec_bind, exec_plannedOr unplanned, exec_get_bind]
  rfl

theorem cursors_addAll (records : List LogRecord) (journal : Journal) :
    (records.foldl (fun journal record => journal.add record.level record.source record.message)
      journal).cursors = journal.cursors := by
  induction records generalizing journal with
  | nil => rfl
  | cons record rest inductionHypothesis => exact inductionHypothesis _

/-- A registry that reads the stores again has the snapshot of the policy store, in the next version. -/
theorem exec_reload [Host] (idle : system.Idle catalog fixed) :
    ∃ snapshot after, exec reload system = (.ok snapshot, after) ∧
      System.Told catalog fixed system after ∧ after.registry =
        Registry.ofStore catalog fixed (system.registry.snapshot.version + 1) system.policies := by
  have isBuilt : system.registry.rebuilt (system.policies.policiesIn .null)
      (PolicyRule.sorted system.policies.rules.values) =
      Registry.ofStore catalog fixed (system.registry.snapshot.version + 1) system.policies := by
    rw [Registry.ofStore, ← idle.sameCatalog, ← idle.sameFixed]
    rfl
  unfold reload
  rw [exec_bind, exec_outcome, exec_stored idle.unplanned]
  dsimp only [readOr]
  rw [exec_bind_of_ok (exec_pure _ system), exec_bind_of_ok (exec_pure _ system),
    exec_get_bind, isBuilt, exec_bind_of_ok (exec_modify _ system),
    exec_bind_of_ok (exec_noteAll _ _), exec_pure]
  exact ⟨_, _, rfl, ⟨.inr ⟨_, rfl⟩, cursors_addAll _ _, rfl⟩, rfl⟩

/-- Telling one listener never fails; the registry is up to date afterwards if it was the one told. -/
theorem exec_tell [Host] (ready : system.Ready catalog fixed) (listener : Listener) :
    ∃ after, exec (tell listener) system = (.ok (), after) ∧
      System.Told catalog fixed system after ∧
      (listener = .registry →
        ∃ version, after.registry = Registry.ofStore catalog fixed version system.policies) := by
  cases listener with
  | registry =>
      obtain ⟨snapshot, after, reloaded, told, inForce⟩ := exec_reload ready.toIdle
      refine ⟨after, ?_, told, fun _ => ⟨_, inForce⟩⟩
      rw [tell, exec_bind_of_ok reloaded, exec_pure]
  | counter => exact ⟨_, rfl, ⟨.inl rfl, rfl, rfl⟩, nofun⟩
  | function tag => exact ⟨_, rfl, .refl system, nofun⟩

theorem exec_tellAll [Host] (listeners : List Listener) (ready : system.Ready catalog fixed) :
    ∃ after, exec (listeners.forM tell) system = (.ok (), after) ∧
      System.Told catalog fixed system after ∧
      (Listener.registry ∈ listeners →
        ∃ version, after.registry = Registry.ofStore catalog fixed version system.policies) := by
  induction listeners generalizing system with
  | nil => exact ⟨system, rfl, .refl system, nofun⟩
  | cons listener rest inductionHypothesis =>
      obtain ⟨middle, toldOne, told, isUpToDate⟩ := exec_tell ready listener
      obtain ⟨after, toldRest, restTold, restUpToDate⟩ := inductionHypothesis (told.ready ready)
      refine ⟨after, ?_, told.trans restTold, fun member => ?_⟩
      · rw [List.forM, exec_bind_of_ok toldOne, toldRest]
      · rw [told.policies] at restUpToDate
        rcases List.mem_cons.1 member with rfl | member
        · rcases restTold.rebuilt with same | rebuilt
          · rw [same]
            exact isUpToDate rfl
          · rw [told.policies] at rebuilt
            exact rebuilt
        · exact restUpToDate member

/-- After an announcement a system is orderly. -/
theorem exec_announce [Host] (ready : system.Ready catalog fixed) :
    ∃ after, exec announce system = (.ok (), after) ∧ System.Told catalog fixed system after ∧
      after.Orderly catalog fixed := by
  obtain ⟨after, toldAll, told, isUpToDate⟩ := exec_tellAll system.listeners ready
  refine ⟨after, ?_, told, told.ready ready, ?_⟩
  · unfold announce notify
    rw [exec_get_bind, ready.closed, List.isEmpty_nil, if_pos rfl,
      exec_get_bind, toldAll]
  · rw [told.policies]
    exact isUpToDate ready.listening

/-! ## Changes of the policy store -/

theorem exec_changePolicies {α : Type} (change : PolicyStore → Except Error (PolicyStore × α))
    (system : System) : exec (changePolicies change) system =
      match change system.policies with
      | .ok (policies, result) => (.ok result, { system with policies })
      | .error error => (.error error, system) := by
  unfold changePolicies
  rw [exec_get_bind, exec_bind, exec_orFail]
  rcases change system.policies with error | ⟨policies, result⟩ <;> rfl

/-- A change of the policy store that is announced unless it changes nothing. -/
theorem exec_change [Host] {α : Type} (change : PolicyStore → Except Error (PolicyStore × α))
    (announces : α → Bool) (orderly : system.Orderly catalog fixed)
    (sound : ∀ next result, change system.policies = .ok (next, result) → next.Sound)
    (silent : ∀ next result, change system.policies = .ok (next, result) →
      announces result = false → next = system.policies) :
    ∃ after,
      exec (do
        let result ← changePolicies change
        if announces result then announce
        return result) system = ((change system.policies).map Prod.snd, after) ∧
      System.Changed catalog fixed system ((change system.policies).map Prod.fst) after := by
  rw [exec_bind, exec_changePolicies]
  rcases made : change system.policies with error | ⟨next, result⟩
  · exact ⟨system, rfl, .failed error⟩
  · dsimp only [Except.map]
    cases loud : announces result with
    | true =>
        have ready : System.Ready catalog fixed { system with policies := next } :=
          ⟨⟨orderly.unplanned, orderly.closed, orderly.roles, sound next result made,
            orderly.sameCatalog, orderly.sameFixed⟩, orderly.listening⟩
        obtain ⟨after, announced, told, upToDate⟩ := exec_announce ready
        refine ⟨after, ?_, .made told upToDate⟩
        rw [if_pos rfl, exec_bind_of_ok announced, exec_pure]
    | false =>
        have same := silent next result made loud
        refine ⟨system, ?_, same ▸ .made (.refl system) orderly⟩
        rw [if_neg Bool.false_ne_true, exec_pure, same]

theorem exec_savePolicy [Host] (orderly : system.Orderly catalog fixed) (policy : Policy) :
    ∃ after, exec (savePolicy policy) system =
        ((system.policies.savePolicy policy).map fun _ => policy.toValue, after) ∧
      System.Changed catalog fixed system (system.policies.savePolicy policy) after := by
  obtain ⟨after, executed, changed⟩ := exec_change
    (fun policies => (policies.savePolicy policy).map (·, policy)) (fun _ => true) orderly
    (fun next result saved => by
      obtain ⟨_, savedOk, equality⟩ := Except.map_eq_ok_iff.1 saved
      cases equality
      exact orderly.policies.savePolicy savedOk)
    nofun
  refine ⟨after, ?_, ?_⟩
  · unfold savePolicy
    rw [exec_performedValue orderly.unplanned]
    refine (congrArg (fun run => (run.1.map Policy.toValue, run.2)) executed).trans ?_
    cases system.policies.savePolicy policy <;> rfl
  · cases saved : system.policies.savePolicy policy <;> rw [saved] at changed <;> exact changed

theorem exec_deletePolicy [Host] (orderly : system.Orderly catalog fixed) (id : Value) :
    ∃ after, exec (deletePolicy id) system =
        ((system.policies.deletePolicy id).map fun result => .bool result.2, after) ∧
      System.Changed catalog fixed system ((system.policies.deletePolicy id).map Prod.fst)
        after := by
  obtain ⟨after, executed, changed⟩ := exec_change
    (fun policies => policies.deletePolicy id) (fun deleted => deleted) orderly
    (fun next result deleted => orderly.policies.deletePolicy deleted)
    (fun next result deleted silent => by
      rcases PolicyStore.deletePolicy_eq_ok deleted with ⟨_, same, _⟩ | ⟨known, _, _, rfl, answer⟩
      · exact same
      · have absent : system.policies.policies.has known = false := answer.symm.trans silent
        rw [Keyed.erase_of_not_has absent])
  refine ⟨after, ?_, changed⟩
  unfold deletePolicy
  rw [exec_performedValue orderly.unplanned]
  refine (congrArg (fun run => (run.1.map Value.bool, run.2)) executed).trans ?_
  cases system.policies.deletePolicy id <;> rfl

theorem exec_deleteRule [Host] (orderly : system.Orderly catalog fixed) (id : Value) :
    ∃ after, exec (deleteRule id) system =
        ((system.policies.deleteRule id).map fun result => .bool result.2, after) ∧
      System.Changed catalog fixed system ((system.policies.deleteRule id).map Prod.fst)
        after := by
  obtain ⟨after, executed, changed⟩ := exec_change
    (fun policies => policies.deleteRule id) (fun deleted => deleted) orderly
    (fun next result deleted => orderly.policies.deleteRule deleted)
    (fun next result deleted silent => by
      rcases PolicyStore.deleteRule_eq_ok deleted with ⟨_, same, _⟩ | ⟨known, _, rfl, answer⟩
      · exact same
      · have absent : system.policies.rules.has known = false := answer.symm.trans silent
        rw [Keyed.erase_of_not_has absent])
  refine ⟨after, ?_, changed⟩
  unfold deleteRule
  rw [exec_performedValue orderly.unplanned]
  refine (congrArg (fun run => (run.1.map Value.bool, run.2)) executed).trans ?_
  cases system.policies.deleteRule id <;> rfl

theorem foldlM_isEmpty {α : Type} {step : PolicyStore → α → Except Error PolicyStore}
    {items : List α} {store next : PolicyStore} (saved : items.foldlM step store = .ok next)
    (silent : (!items.isEmpty) = false) : next = store := by
  cases items with
  | nil =>
      cases saved
      rfl
  | cons item rest => cases silent

theorem exec_saveRules [Host] {make : Service (List PolicyRule)} {rules : List PolicyRule}
    {middle : System} (unplanned : system.plans = [])
    (made : exec make system = (.ok rules, middle)) (orderly : middle.Orderly catalog fixed) :
    ∃ after, exec (saveRules make) system =
        ((middle.policies.saveRules rules).map fun _ => tupleValue PolicyRule.toValue rules, after) ∧
      System.Changed catalog fixed middle (middle.policies.saveRules rules) after := by
  obtain ⟨after, executed, changed⟩ := exec_change
    (fun policies => (policies.saveRules rules).map (·, rules)) (fun _ => !rules.isEmpty) orderly
    (fun next result saved => by
      obtain ⟨_, savedOk, equality⟩ := Except.map_eq_ok_iff.1 saved
      cases equality
      exact orderly.policies.saveRules savedOk)
    (fun next result saved silent => by
      obtain ⟨_, savedOk, equality⟩ := Except.map_eq_ok_iff.1 saved
      cases equality
      rw [PolicyStore.saveRules_eq_foldlM] at savedOk
      exact foldlM_isEmpty savedOk silent)
  refine ⟨after, ?_, ?_⟩
  · unfold saveRules
    rw [exec_performedValue unplanned, exec_bind_of_ok made]
    refine (congrArg (fun run => (run.1.map (tupleValue PolicyRule.toValue), run.2)) executed).trans ?_
    cases middle.policies.saveRules rules <;> rfl
  · cases saved : middle.policies.saveRules rules <;> rw [saved] at changed <;> exact changed

theorem exec_saveRules_of_error [Host] {make : Service (List PolicyRule)} {error : Error}
    (unplanned : system.plans = []) (failed : exec make system = (.error error, after)) :
    exec (saveRules make) system = (.error error, after) := by
  unfold saveRules
  rw [exec_performedValue unplanned, exec_bind_of_error failed]
  rfl

end Service

end Authorization
