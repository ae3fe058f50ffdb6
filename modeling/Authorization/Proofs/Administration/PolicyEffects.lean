import Authorization.Proofs.Administration.Effects

/-!
# What calls on policies and rules change

With a policy store in memory, a policy or a rule that is created is added, one that is changed keeps its
identifier and where it belongs, and one that is deleted is taken away. To copy a policy adds it with as
many rules as the other one has, and to reorder the rules of a policy changes their numbers only.
-/

namespace Authorization.PolicyAdministration

open Service

variable {catalog : RuleCatalog} {fixed : Keyed String PolicyChain} {system after : System}
  {organization policyId id actor : Value} {changes : Bindings} {policy : Policy} {rule : PolicyRule}

/-! ## Finding -/

/-- A policy in memory stands under an identifier, in the organization that it is of. -/
structure Finds (system : System) (organization id : Value) (policy : Policy) : Prop where
  stored : system.policies.policies.get? policy.id = some policy
  isNamed : id = .str policy.id
  isOwn : organization = .str policy.organization

theorem Finds.unique {other : Policy} (finds : Finds system organization id policy)
    (otherFinds : Finds system organization id other) : policy = other := by
  have sameId := Value.str.inj (finds.isNamed.symm.trans otherFinds.isNamed)
  have stored := finds.stored
  rw [sameId, otherFinds.stored] at stored
  exact (Option.some.inj stored).symm

/-- A rule in memory stands under an identifier, in the policy that it is of. -/
structure FindsRule (system : System) (organization policyId id : Value) (policy : Policy)
    (rule : PolicyRule) : Prop where
  owner : Finds system organization policyId policy
  stored : system.policies.rules.get? rule.id = some rule
  isNamed : id = .str rule.id
  isOwned : rule.policyId = policy.id

/-- Where something is done with a policy that is found, the policy is there. -/
theorem exec_found [Host] (inMemory : system.InMemory catalog fixed) {α : Type} {next : Policy → Service α}
    {result : α} (succeeds : exec (find organization id >>= next) system = (.ok result, after)) :
    ∃ policy, Finds system organization id policy ∧
      exec (find organization id) system = (.ok policy, system) ∧
      exec (next policy) system = (.ok result, after) := by
  obtain ⟨found, looked⟩ := exists_exec_find inMemory.unplanned organization id
  obtain ⟨policy, rfl, succeeds⟩ := exec_read looked succeeds
  obtain ⟨stored, isNamed, isOwn⟩ := (find_eq_ok_iff inMemory).1 looked
  exact ⟨policy, ⟨inMemory.policies.policies.mem_values_iff.1 stored, isNamed, isOwn⟩, looked,
    succeeds⟩

/-- Where something is done with a rule that is found, the rule is there. -/
theorem exec_foundRule [Host] (inMemory : system.InMemory catalog fixed) {α : Type}
    {next : PolicyRule → Service α} {result : α}
    (succeeds : exec (findRule organization policyId id >>= next) system = (.ok result, after)) :
    ∃ policy rule, FindsRule system organization policyId id policy rule ∧
      exec (next rule) system = (.ok result, after) := by
  obtain ⟨rule, middle, looking, goesOn⟩ := exec_bind_eq_ok succeeds
  unfold findRule at looking
  obtain ⟨policy, finds, _, looking⟩ := exec_found inMemory looking
  obtain ⟨found, asked, looking⟩ := exec_read (exec_rule? inMemory.unplanned id) looking
  cases found with
  | none => cases looking
  | some found =>
      dsimp only at looking
      split at looking
      · rename_i isOwned
        cases looking
        obtain ⟨stored, isNamed⟩ :=
          (PolicyStore.rule?_memory_iff inMemory.backend inMemory.policies).1 asked
        exact ⟨policy, rule, ⟨finds, stored, isNamed, beq_iff_eq.1 isOwned⟩, goesOn⟩
      · cases looking

/-! ## Policies -/

/-- The fields of a policy are those that it had, but for the changed ones, which are cleaned. A description
that is taken away is made up for the key that the policy has then. -/
structure IsUpdated (changes : Bindings) (policy updated : Policy) : Prop where
  known : ∀ given ∈ changes, given.1 ∈ changeable
  id : updated.id = policy.id
  organization : updated.organization = policy.organization
  name : Cleaning.Replaced changes "name" (Cleaning.text "name") policy.name updated.name
  key : Cleaning.Replaced changes "key" Cleaning.key policy.key updated.key
  description : Cleaning.Replaced changes "description"
    (fun given => (Cleaning.optionalText "description" given).map fun described =>
      Value.str (described.getD (Policy.defaultDescription updated.key)))
    policy.description updated.description
  active : Cleaning.Replaced changes "active"
    (fun given => (Cleaning.flag "active" given).map Value.bool) policy.active updated.active

/-- A policy that is saved in memory is exchanged for the one under its identifier. -/
theorem exchanges_of_gains [Host] (gains : system.Gains catalog fixed policy after)
    (inMemory : system.policies.backend = .memory) {before : Option Policy}
    (found : system.policies.policies.get? policy.id = before) :
    system.ExchangesPolicy after policy.id before (some policy) := by
  obtain ⟨_, isNext⟩ := (PolicyStore.savePolicy_memory_iff inMemory).1 gains.saved
  refine ⟨?_, ?_, gains.sameRoles⟩
  · rw [isNext]
    exact Keyed.exchanged_put found policy
  · rw [isNext]

/-- No record has the identifier that is due. -/
theorem absent_of_unused {store : PolicyStore} (sound : store.Sound) {id : String}
    (unused : ¬store.Uses id) : store.policies.get? id = none ∧ store.rules.get? id = none := by
  constructor
  · cases found : store.policies.get? id with
    | none => rfl
    | some policy =>
        exact absurd (.inl ⟨policy, Keyed.mem_values_of_get? found, sound.policies.key_eq found⟩)
          unused
  · cases found : store.rules.get? id with
    | none => rfl
    | some rule =>
        exact absurd (.inr ⟨rule, Keyed.mem_values_of_get? found, sound.rules.key_eq found⟩) unused

/-- What creating a policy does. -/
theorem effect_of_create [Host] (inMemory : system.InMemory catalog fixed) (fresh : system.FreshIds)
    {name key description active : Value}
    (succeeds : exec (create organization name key description active actor) system =
      (.ok policy, after)) :
    IsCreated organization name key description active policy ∧
      system.ExchangesPolicy after policy.id none (some policy) := by
  obtain ⟨isCreated, isDrawn, _, gains⟩ := gains_of_create inMemory.toOrderly succeeds
  have unused := fresh.unused_memory inMemory.backend (Nat.lt_succ_self _)
  rw [← isDrawn] at unused
  exact ⟨isCreated,
    exchanges_of_gains gains inMemory.backend (absent_of_unused inMemory.policies unused).1⟩

/-- A key that is found right is the one among the changes, cleaned. -/
theorem change_of_newKey (unplanned : system.plans = []) {key? : Option String}
    (succeeds : exec (newKey organization policy changes) system = (.ok key?, after)) :
    Cleaning.change changes "key" Cleaning.key = .ok key? ∧ after = system := by
  unfold newKey at succeeds
  unfold Cleaning.change
  cases isGiven : changes.lookup "key" with
  | none =>
    rw [isGiven] at succeeds
    cases succeeds
    exact ⟨rfl, rfl⟩
  | some given =>
    rw [isGiven] at succeeds
    obtain ⟨key, isKey, succeeds⟩ := exec_checked succeeds
    dsimp only
    rw [isKey]
    split at succeeds
    · obtain ⟨other, _, succeeds⟩ := exec_read (exec_policyByKey? unplanned _ _) succeeds
      split at succeeds
      · split at succeeds
        · obtain ⟨_, _, thrown, _⟩ := exec_bind_eq_ok succeeds
          cases thrown
        · cases succeeds
          exact ⟨rfl, rfl⟩
      · cases succeeds
        exact ⟨rfl, rfl⟩
    · cases succeeds
      exact ⟨rfl, rfl⟩

/-- What changing a policy does. -/
theorem effect_of_update [Host] (inMemory : system.InMemory catalog fixed) {updated : Policy}
    (succeeds : exec (update organization id actor changes) system = (.ok updated, after)) :
    ∃ policy, Finds system organization id policy ∧ IsUpdated changes policy updated ∧
      system.ExchangesPolicy after policy.id (some policy) (some updated) := by
  unfold update at succeeds
  obtain ⟨⟨⟩, areKnown, succeeds⟩ := exec_checked succeeds
  obtain ⟨policy, finds, _, succeeds⟩ := exec_found inMemory succeeds
  obtain ⟨name, isName, succeeds⟩ := exec_checked succeeds
  obtain ⟨description, isDescription, succeeds⟩ := exec_checked succeeds
  obtain ⟨active, isFlag, succeeds⟩ := exec_checked succeeds
  obtain ⟨key?, middle, keying, succeeds⟩ := exec_bind_eq_ok succeeds
  obtain ⟨isKey, same⟩ := change_of_newKey inMemory.unplanned keying
  rw [same] at succeeds
  obtain ⟨⟨⟩, later, saving, succeeds⟩ := exec_bind_eq_ok succeeds
  obtain ⟨_, gains⟩ := gains_of_save inMemory.toOrderly saving
  obtain ⟨⟨⟩, last, noting, succeeds⟩ := exec_bind_eq_ok succeeds
  obtain ⟨line, rfl⟩ := logged_of_noteChange noting
  cases succeeds
  have exchanged := exchanges_of_gains gains inMemory.backend finds.stored
  refine ⟨policy, finds, ?_, exchanged.policy, exchanged.rules, exchanged.roles⟩
  have described := Cleaning.replaced_of_change (Cleaning.change_map isDescription fun given =>
    Value.str (given.getD (Policy.defaultDescription (key?.getD policy.key)))) policy.description
  refine ⟨fun _ => Cleaning.mem_of_knownFields areKnown, rfl, rfl,
    Cleaning.replaced_of_change isName _, Cleaning.replaced_of_change isKey _, ?_,
    Cleaning.replaced_of_change (Cleaning.change_map isFlag Value.bool) _⟩
  cases description with
  | none => exact described
  | some given => exact described

/-- What deleting a policy does. -/
theorem effect_of_delete [Host] (inMemory : system.InMemory catalog fixed)
    (succeeds : exec (delete organization id actor) system = (.ok (), after)) :
    ∃ policy, Finds system organization id policy ∧
      system.ExchangesPolicy after policy.id (some policy) none := by
  unfold delete at succeeds
  obtain ⟨policy, finds, _, succeeds⟩ := exec_found inMemory succeeds
  obtain ⟨count, _, succeeds⟩ := exec_read (exec_countRules inMemory.unplanned _) succeeds
  obtain ⟨_, _, succeeds⟩ := exec_checked succeeds
  split at succeeds
  · obtain ⟨_, _, thrown, _⟩ := exec_bind_eq_ok succeeds
    cases thrown
  obtain ⟨middle, executed, changed⟩ := exec_deletePolicy inMemory.toOrderly (.str policy.id)
  rw [exec_bind_of_ok (exec_outcome _ system), executed] at succeeds
  rcases deleted : system.policies.deletePolicy (.str policy.id) with error | ⟨next, answer⟩
  · rw [deleted] at succeeds
    dsimp only [Except.map] at succeeds
    split at succeeds <;> cases succeeds
  rw [deleted] at succeeds changed
  obtain ⟨line, rfl⟩ := logged_of_noteChange succeeds
  obtain ⟨samePolicies, sameRoles⟩ := changed.stores
  rw [PolicyStore.deletePolicy_memory inMemory.backend deleted] at samePolicies
  refine ⟨policy, finds, ?_, ?_, sameRoles⟩
  · dsimp only
    rw [samePolicies]
    exact Keyed.exchanged_erase finds.stored
  · dsimp only
    rw [samePolicies]

/-! ## Rules -/

/-- The fields of a rule that is added are what is given for them, cleaned; without a number it gets the
next one of its policy. -/
structure IsAdded (store : PolicyStore) (policy : Policy)
    (name type config order active description : Value) (rule : PolicyRule) : Prop where
  policyId : rule.policyId = policy.id
  name : Cleaning.text "name" name = .ok rule.name
  type : Cleaning.text "type" type = .ok rule.type
  config : (Cleaning.config config).map PolicyRule.sealedConfig = .ok rule.config
  order : order = .int rule.order ∨
    order = .null ∧ rule.order = nextOrder (PolicyRule.sorted (store.rulesWithin policy.id))
  active : (Cleaning.flag "active" active).map Value.bool = .ok rule.active
  description : (Cleaning.optionalText "description" description).map Value.ofOption =
    .ok rule.description

/-- The fields of a rule are those that it had, but for the changed ones, which are cleaned. -/
structure IsUpdatedRule (changes : Bindings) (rule updated : PolicyRule) : Prop where
  known : ∀ given ∈ changes, given.1 ∈ changeableRule
  id : updated.id = rule.id
  policyId : updated.policyId = rule.policyId
  name : Cleaning.Replaced changes "name" (Cleaning.text "name") rule.name updated.name
  type : Cleaning.Replaced changes "type" (Cleaning.text "type") rule.type updated.type
  config : Cleaning.Replaced changes "config"
    (fun given => (Cleaning.config given).map PolicyRule.sealedConfig) rule.config updated.config
  order : Cleaning.Replaced changes "order" (Cleaning.integer "order") rule.order updated.order
  active : Cleaning.Replaced changes "active"
    (fun given => (Cleaning.flag "active" given).map Value.bool) rule.active updated.active
  description : Cleaning.Replaced changes "description"
    (fun given => (Cleaning.optionalText "description" given).map Value.ofOption) rule.description
    updated.description

/-- A rule that is saved in memory and logged is exchanged for the one under its identifier. -/
theorem effect_of_saveRule [Host] {message : String} {updated : PolicyRule}
    (succeeds : exec (do
      let _ ← saveRules (pure [rule])
      noteChange message organization actor
      return rule) system = (.ok updated, after))
    (inMemory : system.InMemory catalog fixed) {before : Option PolicyRule}
    (found : system.policies.rules.get? rule.id = before) :
    updated = rule ∧ system.ExchangesRule after rule.id before (some rule) := by
  obtain ⟨value, middle, saving, succeeds⟩ := exec_bind_eq_ok succeeds
  obtain ⟨⟨⟩, last, noting, succeeds⟩ := exec_bind_eq_ok succeeds
  cases succeeds
  obtain ⟨line, rfl⟩ := logged_of_noteChange noting
  obtain ⟨saved, _, _, others⟩ := inMemory.saved (List.cons_ne_nil _ _) saving
  obtain ⟨_, isNext⟩ := (PolicyStore.saveRules_memory_iff inMemory.backend).1 saved
  have sameRoles : middle.roles = system.roles := by
    rw [others]
  refine ⟨rfl, ?_, ?_, sameRoles⟩
  · dsimp only
    rw [isNext]
    exact Keyed.exchanged_put found rule
  · dsimp only
    rw [isNext]

section

variable {name type config order active description : Value}

/-- What adding a rule with a number does. -/
theorem effect_of_addNumbered [Host] (inMemory : system.InMemory catalog fixed) (fresh : system.FreshIds)
    (isGiven : order ≠ .null)
    (succeeds : exec (addRule organization policyId name type config order active description actor)
      system = (.ok rule, after)) :
    ∃ policy, Finds system organization policyId policy ∧
      IsAdded system.policies policy name type config order active description rule ∧
      system.ExchangesRule after rule.id none (some rule) := by
  unfold addRule at succeeds
  obtain ⟨policy, finds, _, succeeds⟩ := exec_found inMemory succeeds
  obtain ⟨named, isNamed, succeeds⟩ := exec_checked succeeds
  obtain ⟨typed, isTyped, succeeds⟩ := exec_checked succeeds
  obtain ⟨configured, isConfig, succeeds⟩ := exec_checked succeeds
  obtain ⟨flag, isFlag, succeeds⟩ := exec_checked succeeds
  obtain ⟨described, isDescribed, succeeds⟩ := exec_checked succeeds
  obtain ⟨⟨⟩, _, succeeds⟩ := exec_read (exec_tryRule typed configured system) succeeds
  dsimp only at succeeds
  split at succeeds
  · exact absurd rfl isGiven
  obtain ⟨number, isNumber, succeeds⟩ := exec_checked succeeds
  rw [exec_bind_of_ok (exec_newId system)] at succeeds
  have unused := fresh.unused_memory inMemory.backend (Nat.lt_succ_self _)
  obtain ⟨rfl, exchanged⟩ := effect_of_saveRule succeeds (inMemory.withIds _)
    (absent_of_unused inMemory.policies unused).2
  refine ⟨policy, finds, ⟨rfl, isNamed, isTyped, ?_, .inl (Cleaning.integer_eq_ok_iff.1 isNumber), ?_,
    ?_⟩, exchanged.rule, exchanged.policies, exchanged.roles⟩
  · rw [isConfig]
    rfl
  · rw [isFlag]
    rfl
  · rw [isDescribed]
    rfl

/-- What adding a rule does. -/
theorem effect_of_addRule [Host] (inMemory : system.InMemory catalog fixed) (fresh : system.FreshIds)
    (succeeds : exec (addRule organization policyId name type config order active description actor)
      system = (.ok rule, after)) :
    ∃ policy, Finds system organization policyId policy ∧
      IsAdded system.policies policy name type config order active description rule ∧
      system.ExchangesRule after rule.id none (some rule) := by
  by_cases isNull : order = .null
  · rw [isNull] at succeeds ⊢
    have adding := succeeds
    unfold addRule at adding
    obtain ⟨policy, finds, looked, _⟩ := exec_found inMemory adding
    have listed : system.policies.rulesOf (.str policy.id) =
        .ok (PolicyRule.sorted (system.policies.rulesWithin policy.id)) :=
      PolicyStore.rulesOf_str (inMemory.backend ▸ rfl)
    have isNumber : Value.int (nextOrder (PolicyRule.sorted
        (system.policies.rulesWithin policy.id))) ≠ .null := by
      intro same
      cases same
    rw [exec_addRule_null inMemory.unplanned looked listed] at succeeds
    obtain ⟨owner, ownerFinds, isAdded, exchanged⟩ :=
      effect_of_addNumbered inMemory fresh isNumber succeeds
    obtain rfl := finds.unique ownerFinds
    refine ⟨policy, finds, { isAdded with order := .inr ⟨rfl, ?_⟩ }, exchanged⟩
    rcases isAdded.order with same | ⟨same, _⟩
    · exact (Value.int.inj same).symm
    · exact absurd same isNumber
  · exact effect_of_addNumbered inMemory fresh isNull succeeds

end

/-- What changing a rule does. -/
theorem effect_of_updateRule [Host] (inMemory : system.InMemory catalog fixed) {updated : PolicyRule}
    (succeeds : exec (updateRule organization policyId id actor changes) system =
      (.ok updated, after)) :
    ∃ policy rule, FindsRule system organization policyId id policy rule ∧
      IsUpdatedRule changes rule updated ∧
      system.ExchangesRule after rule.id (some rule) (some updated) := by
  unfold updateRule at succeeds
  obtain ⟨⟨⟩, areKnown, succeeds⟩ := exec_checked succeeds
  obtain ⟨policy, rule, finds, succeeds⟩ := exec_foundRule inMemory succeeds
  obtain ⟨name, isName, succeeds⟩ := exec_checked succeeds
  obtain ⟨type, isType, succeeds⟩ := exec_checked succeeds
  obtain ⟨config, isConfig, succeeds⟩ := exec_checked succeeds
  obtain ⟨order, isOrder, succeeds⟩ := exec_checked succeeds
  obtain ⟨active, isFlag, succeeds⟩ := exec_checked succeeds
  obtain ⟨description, isDescription, succeeds⟩ := exec_checked succeeds
  have saving : exec (do
      let updated : PolicyRule :=
        { rule with
          name := name.getD rule.name
          type := type.getD rule.type
          config := (config.map PolicyRule.sealedConfig).getD rule.config
          order := order.getD rule.order
          active := (active.map Value.bool).getD rule.active
          description := (description.map Value.ofOption).getD rule.description }
      let _ ← saveRules (pure [updated])
      noteChange ("Rule updated: " ++ id.text ++ " fields=" ++ Cleaning.changedNames
        (changeableRule.map fun field => (field, (changes.lookup field).isSome)) ++
        " policy=" ++ policyId.text) organization actor
      return updated) system = (.ok updated, after) := by
    split at succeeds
    · obtain ⟨⟨⟩, _, succeeds⟩ := exec_read (exec_tryRule _ _ system) succeeds
      exact succeeds
    · exact succeeds
  obtain ⟨rfl, exchanged⟩ := effect_of_saveRule saving inMemory finds.stored
  exact ⟨policy, rule, finds, ⟨fun _ => Cleaning.mem_of_knownFields areKnown, rfl, rfl,
    Cleaning.replaced_of_change isName _, Cleaning.replaced_of_change isType _,
    Cleaning.replaced_of_change (Cleaning.change_map isConfig PolicyRule.sealedConfig) _,
    Cleaning.replaced_of_change isOrder _,
    Cleaning.replaced_of_change (Cleaning.change_map isFlag Value.bool) _,
    Cleaning.replaced_of_change (Cleaning.change_map isDescription Value.ofOption) _⟩, exchanged⟩

/-- What deleting a rule does. -/
theorem effect_of_deleteRule [Host] (inMemory : system.InMemory catalog fixed)
    (succeeds : exec (deleteRule organization policyId id actor) system = (.ok (), after)) :
    ∃ policy rule, FindsRule system organization policyId id policy rule ∧
      system.ExchangesRule after rule.id (some rule) none := by
  unfold deleteRule at succeeds
  obtain ⟨policy, rule, finds, succeeds⟩ := exec_foundRule inMemory succeeds
  obtain ⟨middle, executed, changed⟩ := exec_deleteRule inMemory.toOrderly (.str rule.id)
  rcases deleted : system.policies.deleteRule (.str rule.id) with error | ⟨next, answer⟩
  · rw [deleted] at executed
    rw [exec_bind_of_error executed] at succeeds
    cases succeeds
  rw [deleted] at executed changed
  rw [exec_bind_of_ok executed] at succeeds
  obtain ⟨line, rfl⟩ := logged_of_noteChange succeeds
  obtain ⟨samePolicies, sameRoles⟩ := changed.stores
  rw [PolicyStore.deleteRule_memory inMemory.backend deleted] at samePolicies
  refine ⟨policy, rule, finds, ?_, ?_, sameRoles⟩
  · dsimp only
    rw [samePolicies]
    exact Keyed.exchanged_erase finds.stored
  · dsimp only
    rw [samePolicies]

/-! ## Many rules -/

/-- What copying a policy does. -/
theorem effect_of_clone [Host] (inMemory : system.InMemory catalog fixed) (fresh : system.FreshIds)
    (isSealed : system.policies.Sealed) {sourceId name key description : Value} {copy : Policy}
    (succeeds : exec (clone organization sourceId name key description actor) system =
      (.ok copy, after)) :
    ∃ source made, Finds system organization sourceId source ∧
      IsCreated organization name key (copyDescription source description) (.bool true) copy ∧
      system.AddsCopy after source copy made := by
  obtain ⟨source, found, isCreated, isDrawn, ⟨middle, saved, rulesSaved⟩, sameRoles, afterInMemory⟩ :=
    saved_of_clone inMemory fresh succeeds
  obtain ⟨made, copied, cloned⟩ := cloned_of_saved inMemory fresh isSealed found isDrawn saved
    rulesSaved sameRoles afterInMemory
  obtain ⟨stored, isNamed, isOwn⟩ := (find_eq_ok_iff inMemory).1 found
  have gains := cloned.gains
  have sound := inMemory.policies
  have afterSound := afterInMemory.policies
  have sameOthers (id : String) (apart : ∀ rule ∈ made, rule.id ≠ id) :
      after.policies.rules.get? id = system.policies.rules.get? id := by
    refine sound.rules.get?_eq afterSound.rules fun rule isId => ?_
    rw [gains.values_rules, List.mem_append]
    exact or_iff_left fun member => apart rule member isId
  refine ⟨source, made, ⟨sound.policies.mem_values_iff.1 stored, isNamed, isOwn⟩, isCreated,
    ⟨(absent_of_unused sound gains.isNew).1, ?_, fun id apart => ?_⟩, ?_, cloned.repeats,
    cloned.distinct, gains.owned, fun rule member => ?_, fun rule member => ?_, sameOthers,
    sameRoles⟩
  · exact afterSound.policies.mem_values_iff.1 (gains.mem_policies.2 (.inr rfl))
  · refine sound.policies.get?_eq afterSound.policies fun policy isId => ?_
    rw [gains.mem_policies]
    exact or_iff_left fun isCopy => apart (isCopy ▸ isId.symm)
  · rw [← cloned.repeats.length_eq, PolicyRule.sorted, List.length_mergeSort]
  · exact (absent_of_unused sound (cloned.areNew rule member)).2
  · refine afterSound.rules.mem_values_iff.1 ?_
    rw [gains.values_rules]
    exact List.mem_append_right _ member

/-- What reordering the rules of a policy does. -/
theorem effect_of_reorder [Host] (inMemory : system.InMemory catalog fixed) {orders : Value}
    {listed : List PolicyRule}
    (succeeds : exec (reorder organization policyId orders actor) system = (.ok listed, after)) :
    ∃ policy entries, Finds system organization policyId policy ∧ orders.entries? = some entries ∧
      system.Renumbers after policy entries ∧
      ∀ rule, rule ∈ listed ↔
        after.policies.rules.get? rule.id = some rule ∧ rule.policyId = policy.id := by
  obtain ⟨policy, entries, updated, looked, ⟨isMapping, _⟩, areNumbered, saved, rfl, sameRoles, _⟩ :=
    saved_of_reorder inMemory succeeds
  obtain ⟨stored, isNamed, isOwn⟩ := (find_eq_ok_iff inMemory).1 looked
  have sound := inMemory.policies
  have afterSound := sound.saveRules saved
  obtain ⟨_, isNext⟩ := (PolicyStore.saveRules_memory_iff inMemory.backend).1 saved
  have isStored {rule : PolicyRule}
      (member : rule ∈ PolicyRule.sorted (system.policies.rulesWithin policy.id)) :
      system.policies.rules.get? rule.id = some rule ∧ rule.policyId = policy.id := by
    obtain ⟨isThere, isOwned⟩ := PolicyStore.mem_rulesWithin.1 (PolicyRule.mem_sorted.1 member)
    exact ⟨sound.rules.mem_values_iff.1 isThere, isOwned⟩
  refine ⟨policy, entries, ⟨sound.policies.mem_values_iff.1 stored, isNamed, isOwn⟩, isMapping,
    ⟨fun entry member => ?_, fun rule given isThere isEntry => ?_, fun id isUnnamed => ?_, ?_,
      sameRoles⟩, fun rule => ?_⟩
  · obtain ⟨_, _, rule, isListed, number, isEntry, _⟩ := areNumbered.exists_of_mem member
    obtain ⟨isThere, isOwned⟩ := isStored isListed
    exact ⟨rule, number, isThere, isOwned, isEntry⟩
  · obtain ⟨numbered, isUpdated, named, _, number, same, rfl⟩ := areNumbered.exists_of_mem isEntry
    have sameId : named.id = rule.id := (Value.str.inj (congrArg Prod.fst same)).symm
    rw [isNext]
    rcases @Keyed.get?_puts_cases _ _ _ _ (fun _ => true) PolicyRule.id (fun one => one) updated
        system.policies.rules rule.id with
      ⟨one, isThereToo, _, isId, isPut⟩ | ⟨noneNamed, _⟩
    · obtain ⟨entry, entryMember, old, isListed, last, rfl, rfl⟩ :=
        areNumbered.flip.exists_of_mem isThereToo
      have isOld := (isStored isListed).1
      have oldId : old.id = rule.id := isId
      rw [oldId, isThere] at isOld
      obtain rfl := Option.some.inj isOld
      exact ⟨last, entryMember, isPut⟩
    · exact (noneNamed _ isUpdated rfl sameId).elim
  · rw [isNext]
    refine Keyed.get?_puts_of_not (fun one isUpdated _ sameId => ?_) _
    obtain ⟨entry, isEntry, named, _, number, rfl, rfl⟩ := areNumbered.flip.exists_of_mem isUpdated
    exact isUnnamed _ (sameId ▸ isEntry)
  · rw [isNext]
  · rw [PolicyRule.mem_sorted, PolicyStore.mem_rulesWithin, afterSound.rules.mem_values_iff]

end Authorization.PolicyAdministration
