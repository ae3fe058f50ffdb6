import Authorization.Proofs.Administration.Orders

/-!
# Rules that come last

A rule that is added without a number gets one that is greater than the numbers of all rules of its
policy, whatever these are. So it is listed after all of them, and when it is active its entry comes after
those of the chain.
-/

namespace Authorization

open Service

variable {catalog : RuleCatalog} {fixed : Keyed String PolicyChain} {system after : System}
  {policy : Policy} {rule : PolicyRule}

/-! ## The number of a rule that comes last -/

theorem le_foldl_max {numbers : List Int} {first number : Int}
    (member : number = first ∨ number ∈ numbers) : number ≤ numbers.foldl max first := by
  induction numbers generalizing first number with
  | nil => exact (member.resolve_right (List.not_mem_nil)).le
  | cons other rest inductionHypothesis =>
      have greatest : max first other ≤ rest.foldl max (max first other) :=
        inductionHypothesis (.inl rfl)
      rw [List.foldl_cons]
      rcases member with rfl | member
      · exact (le_max_left _ _).trans greatest
      · rcases List.mem_cons.1 member with rfl | member
        · exact (le_max_right _ _).trans greatest
        · exact inductionHypothesis (.inr member)

/-- The number of a new rule is greater than all others, be they negative or equal. -/
theorem PolicyAdministration.order_lt_nextOrder {rules : List PolicyRule} {other : PolicyRule}
    (member : other ∈ rules) : other.order < nextOrder rules := by
  have isThere : other.order ∈ rules.map PolicyRule.order := List.mem_map_of_mem member
  unfold nextOrder
  cases numbers : rules.map PolicyRule.order with
  | nil =>
      rw [numbers] at isThere
      cases isThere
  | cons first rest =>
      rw [numbers] at isThere
      exact Int.lt_add_one_of_le (le_foldl_max (List.mem_cons.1 isThere))

/-- A rule with a greater number comes later. -/
theorem PolicyRule.place_lt_of_order_lt {rule other : PolicyRule} (less : other.order < rule.order) :
    other.place < rule.place := by
  rw [place, place, Prod.Lex.toLex_lt_toLex]
  exact .inl less

/-! ## A store with one rule more -/

namespace PolicyStore

variable {store next : PolicyStore}

/-- In memory a rule is saved as it is. -/
theorem gains_of_saveRules_memory (inMemory : store.backend = .memory) (sound : store.Sound)
    (isNew : ∀ known ∈ store.rules.values, known.id ≠ rule.id)
    (saved : store.saveRules [rule] = .ok next) : store.Gains next rule := by
  obtain ⟨_, rfl⟩ := (saveRules_memory_iff inMemory).1 saved
  have isPut : Keyed.puts (fun _ => true) PolicyRule.id id [rule] store.rules =
      Keyed.put rule.id rule store.rules := rfl
  refine ⟨rfl, fun other => ?_⟩
  dsimp only
  rw [isPut, sound.rules.mem_values_put]
  exact or_congr_right (and_iff_left_of_imp fun member => isNew other member)

variable (gains : store.Gains next rule)

include gains

/-- A rule that comes after all rules of its policy is listed after them. -/
theorem Gains.sorted_rulesWithin (sound : store.Sound) (nextSound : next.Sound)
    (isLast : ∀ other ∈ store.rulesWithin rule.policyId, other.place < rule.place) :
    PolicyRule.sorted (next.rulesWithin rule.policyId) =
      PolicyRule.sorted (store.rulesWithin rule.policyId) ++ [rule] := by
  have before := sound.isListing_rulesWithin rule.policyId
  refine (nextSound.isListing_rulesWithin rule.policyId).unique ⟨?_, fun other => ?_⟩
  · refine List.pairwise_append.2 ⟨before.ordered, List.pairwise_singleton _ _, ?_⟩
    intro other member last isSingle
    rw [List.mem_singleton.1 isSingle]
    exact isLast other (PolicyRule.mem_sorted.1 member)
  · rw [List.mem_append, before.complete, List.mem_singleton, gains.rules]
    constructor
    · rintro (⟨isStored, isOwned⟩ | rfl)
      · exact ⟨.inr isStored, isOwned⟩
      · exact ⟨.inl rfl, rfl⟩
    · rintro ⟨rfl | isStored, isOwned⟩
      · exact .inr rfl
      · exact .inl ⟨isStored, isOwned⟩

/-- An active rule that comes after all rules of its policy puts its entry behind those of the chain. -/
theorem Gains.chains_append [Host] (isOwned : rule.policyId = policy.id)
    (isLast : ∀ other ∈ store.rulesWithin policy.id, other.place < rule.place)
    (isActive : rule.active.truthy = true) {entry : ChainRule} (makes : catalog.Makes rule entry)
    {chain : PolicyChain} {issue? : Option BuildIssue}
    (chains : store.Chains catalog policy chain issue?) (accepted : chain.isRejected = false) :
    next.Chains catalog policy { chain with rules := chain.rules ++ [entry] } none := by
  obtain ⟨active, areActive, builds⟩ := chains
  cases builds with
  | rejected _ _ => cases accepted
  | accepted areMade =>
      refine ⟨active ++ [rule], ⟨?_, fun other => ?_⟩,
        .accepted (List.rel_append areMade (.cons makes .nil))⟩
      · refine List.pairwise_append.2 ⟨areActive.increasing, List.pairwise_singleton _ _, ?_⟩
        intro other member last isSingle
        obtain ⟨isStored, isOwn, _⟩ := (areActive.members other).1 member
        rw [List.mem_singleton.1 isSingle]
        exact isLast other (mem_rulesWithin.2 ⟨isStored, isOwn⟩)
      · rw [List.mem_append, areActive.members, List.mem_singleton, gains.rules]
        constructor
        · rintro (⟨isStored, isOther⟩ | rfl)
          · exact ⟨.inr isStored, isOther⟩
          · exact ⟨.inl rfl, isOwned, isActive⟩
        · rintro ⟨rfl | isStored, isOther⟩
          · exact .inr rfl
          · exact .inl ⟨isStored, isOther⟩

end PolicyStore

namespace PolicyAdministration

variable {organization policyId name type config active description actor : Value}

/-- No number stands for the next one. -/
theorem exec_addRule_null [Host] (unplanned : system.plans = [])
    (found : exec (find organization policyId) system = (.ok policy, system))
    {rules : List PolicyRule} (listed : system.policies.rulesOf (.str policy.id) = .ok rules) :
    exec (addRule organization policyId name type config .null active description actor) system =
      exec (addRule organization policyId name type config (.int (nextOrder rules)) active
        description actor) system := by
  have checked {α β : Type} {check : Except Error α} {next other : α → Service β}
      (same : ∀ value, exec (next value) system = exec (other value) system) :
      exec (orFail check >>= next) system = exec (orFail check >>= other) system :=
    exec_read_congr (exec_orFail check system) fun value _ => same value
  have numbered := exec_map nextOrder (rulesOfPolicy (.str policy.id)) system
  rw [exec_rulesOfPolicy unplanned, listed] at numbered
  have isNumber : exec (orFail (Cleaning.integer "order" (.int (nextOrder rules)))) system =
      (.ok (nextOrder rules), system) := rfl
  unfold addRule
  rw [exec_bind_of_ok found, exec_bind_of_ok found]
  refine checked fun name => checked fun type => checked fun config => checked fun active =>
    checked fun description => exec_read_congr (exec_tryRule type config system) fun _ _ => ?_
  dsimp only
  rw [exec_bind_of_ok numbered, exec_bind_of_ok isNumber]

/-- What adding a rule without a number does. -/
theorem saved_of_addRule [Host] (inMemory : system.InMemory catalog fixed)
    (succeeds : exec (addRule organization policyId name type config .null active description actor)
      system = (.ok rule, after)) :
    ∃ policy, exec (find organization policyId) system = (.ok policy, system) ∧
      rule.policyId = policy.id ∧
      rule.order = nextOrder (PolicyRule.sorted (system.policies.rulesWithin policy.id)) ∧
      catalog.Accepts rule.type rule.config ∧
      system.policies.saveRules [rule] = .ok after.policies ∧ after.InMemory catalog fixed := by
  obtain ⟨found, looked⟩ := exists_exec_find inMemory.unplanned organization policyId
  unfold addRule at succeeds
  obtain ⟨policy, rfl, succeeds⟩ := exec_read looked succeeds
  obtain ⟨name, _, succeeds⟩ := exec_checked succeeds
  obtain ⟨type, _, succeeds⟩ := exec_checked succeeds
  obtain ⟨config, _, succeeds⟩ := exec_checked succeeds
  obtain ⟨active, _, succeeds⟩ := exec_checked succeeds
  obtain ⟨description, _, succeeds⟩ := exec_checked succeeds
  obtain ⟨⟨⟩, tried, succeeds⟩ := exec_read (exec_tryRule type config system) succeeds
  obtain ⟨made, creates, _⟩ := Except.map_eq_ok_iff.1 tried
  rw [inMemory.sameCatalog] at creates
  have numbered := exec_map nextOrder (rulesOfPolicy (.str policy.id)) system
  rw [exec_rulesOfPolicy_memory inMemory] at numbered
  obtain ⟨number, isNumber, succeeds⟩ := exec_read numbered succeeds
  rw [exec_bind_of_ok (exec_newId _)] at succeeds
  obtain ⟨value, middle, executed, succeeds⟩ := exec_bind_eq_ok succeeds
  obtain ⟨saved, _, inMemoryStill, _⟩ := (inMemory.withIds _).saved (List.cons_ne_nil _ _) executed
  obtain ⟨⟨⟩, last, isNoted, succeeds⟩ := exec_bind_eq_ok succeeds
  obtain ⟨lastInMemory, sameButJournal⟩ := inMemoryStill.noted isNoted
  cases succeeds
  refine ⟨policy, looked, rfl, (Except.ok.inj isNumber).symm, ?_, ?_, lastInMemory⟩
  · have accepts : catalog.Accepts type config := ⟨made, creates⟩
    exact accepts.congr fun typeTag => PolicyRule.configOf_sealedConfig typeTag config
  · rw [sameButJournal]
    exact saved

/-- In a system in use that was put together with a policy store in memory, a rule that is added without a
number under a new identifier is listed after the rules that have been listed before. If it is active and
the chain of the policy is not rejected, its entry comes after those of the chain. -/
theorem addRule_appends [Host] {parts : Parts} {start : System} (roles : parts.roles.Accepted)
    (policies : parts.policies.Accepted) (inMemory : parts.policies.backend = .memory)
    (assembled : assemble parts = .ok start) (ids : IdSource)
    (reaches : System.Reaches { start with ids } system)
    (succeeds : exec (addRule organization policyId name type config .null active description actor)
      system = (.ok rule, after))
    (isNew : ∀ known ∈ system.policies.rules.values, known.id ≠ rule.id) :
    (∃ listed, exec (listRules organization policyId) system = (.ok listed, system) ∧
      exec (listRules organization policyId) after = (.ok (listed ++ [rule]), after)) ∧
    ∃ chain, system.registry.snapshot.chainForPolicy rule.policyId = some chain ∧
      (rule.active = .bool true → chain.isRejected = false → ∃ entry,
        system.registry.catalog.Makes rule entry ∧
        after.registry.snapshot.chainForPolicy rule.policyId =
          some { chain with rules := chain.rules ++ [entry] }) := by
  obtain ⟨catalog, fixed, inMemory⟩ := reaches.exists_inMemory roles policies inMemory assembled ids
  obtain ⟨policy, found, isOwned, isLastNumber, ⟨made, creates⟩, saved, afterInMemory⟩ :=
    saved_of_addRule inMemory succeeds
  obtain ⟨stored, isPolicy, isOwn⟩ := (find_eq_ok_iff inMemory).1 found
  have gains := PolicyStore.gains_of_saveRules_memory inMemory.backend inMemory.policies isNew saved
  have isLast : ∀ other ∈ system.policies.rulesWithin policy.id, other.place < rule.place := by
    intro other member
    refine PolicyRule.place_lt_of_order_lt ?_
    rw [isLastNumber]
    exact order_lt_nextOrder (PolicyRule.mem_sorted.2 member)
  have storedStill : policy ∈ after.policies.policies.values := gains.policies ▸ stored
  have foundStill : exec (find organization policyId) after = (.ok policy, after) :=
    (find_eq_ok_iff afterInMemory).2 ⟨storedStill, isPolicy, isOwn⟩
  constructor
  · have listed := gains.sorted_rulesWithin inMemory.policies afterInMemory.policies
      (isOwned ▸ isLast)
    refine ⟨_, exec_listRules_memory inMemory found, ?_⟩
    rw [exec_listRules_memory afterInMemory foundStill, ← isOwned, listed]
  · obtain ⟨issue?, chains⟩ := @Registry.chains_chainIn _ catalog _ inMemory.policies policy
    rw [isOwned, inMemory.sameCatalog]
    refine ⟨_, (inMemory.agrees.chainForPolicy policy.id _).2 (.stored stored rfl chains),
      fun isActive accepted => ?_⟩
    have isActive : rule.active.truthy = true := by
      rw [isActive]
      rfl
    have makes : catalog.Makes rule (ChainRule.of made (.str rule.name) (.str rule.id)) :=
      ⟨made, creates, rfl⟩
    have longer := gains.chains_append isOwned isLast isActive makes chains accepted
    exact ⟨_, makes,
      (afterInMemory.agrees.chainForPolicy policy.id _).2 (.stored storedStill rfl longer)⟩

open scoped Host in
/-- A second rule is added without a number. -/
theorem addRule_appends_owners : ∃ start, assemble Question.partsOfUsers = .ok start ∧
    ∃ rule after, exec (addRule (.str "acme") (.str "p1") (.str "Owners") (.str "ownership")
        (.dict []) .null (.bool true) .null .null) start = (.ok rule, after) ∧
      exec (listRules (.str "acme") (.str "p1")) after =
        (.ok [System.updatesRule, rule], after) := by
  have roles : Question.partsOfUsers.roles.Accepted := .made ⟨[], []⟩ rfl
  have policies : Question.partsOfUsers.policies.Accepted :=
    .made ⟨[.list [System.updatesPolicy.toValue], .list [System.updatesRule.toValue]], []⟩ rfl
  obtain ⟨registry, counted, journal, assembled⟩ :=
    @exists_assemble _ Question.partsOfUsers rfl roles.sound policies.sound
  obtain ⟨fixed, orderly⟩ := orderly_builtin_of_assemble roles.sound policies.sound assembled
  have found : exec (find (.str "acme") (.str "p1")) _ = (.ok System.updatesPolicy, _) :=
    exec_find orderly.unplanned "acme" (.str "p1")
  have listed : Question.partsOfUsers.policies.rulesOf (.str System.updatesPolicy.id) =
      .ok [System.updatesRule] := by
    have keeps : Backend.memory.Keeps System.updatesPolicy.id := rfl
    have isOnly : Question.partsOfUsers.policies.rulesWithin System.updatesPolicy.id =
        [System.updatesRule] := rfl
    rw [PolicyStore.rulesOf_str keeps, isOnly, PolicyRule.sorted, List.mergeSort_singleton]
  obtain ⟨after, _, _, adds⟩ := Question.exists_added orderly rfl
  have isNext : nextOrder [System.updatesRule] = 2 := rfl
  rw [← isNext, ← exec_addRule_null orderly.unplanned found listed] at adds
  have isNew : ∀ known ∈ Question.partsOfUsers.policies.rules.values,
      known.id ≠ IdStyle.numbered.spell 1 :=
    List.forall_mem_singleton.2 (by decide)
  obtain ⟨⟨before, isListed, appended⟩, _⟩ :=
    addRule_appends roles policies rfl assembled _ .refl adds isNew
  have sameList : before = [System.updatesRule] := by
    unfold listRules at isListed
    rw [exec_bind_of_ok found, exec_rulesOfPolicy orderly.unplanned] at isListed
    exact Except.ok.inj ((congrArg Prod.fst isListed).symm.trans listed)
  rw [sameList] at appended
  exact ⟨_, assembled, _, after, adds, appended⟩

end PolicyAdministration

end Authorization
