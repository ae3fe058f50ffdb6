import Authorization.Proofs.Administration.Verdicts
import Authorization.Proofs.System.Rebuilding

/-!
# Numbers of rules
-/

namespace Authorization

open Service

variable {catalog : RuleCatalog} {fixed : Keyed String PolicyChain} {system after : System}

theorem Cleaning.integer_eq_ok_iff {field : String} {value : Value} {number : Int} :
    Cleaning.integer field value = .ok number ↔ value = .int number := by
  unfold Cleaning.integer
  constructor
  · intro isNumber
    split at isNumber
    · cases isNumber
      rfl
    · cases isNumber
  · rintro rfl
    rfl

namespace PolicyAdministration

/-! ## Finding a policy -/

/-- With a policy store in memory a policy is found under its identifier, in the organization that it
is of. -/
theorem find_eq_ok_iff [Host] (inMemory : system.InMemory catalog fixed) {organization id : Value}
    {policy : Policy} : exec (find organization id) system = (.ok policy, system) ↔
      policy ∈ system.policies.policies.values ∧ id = .str policy.id ∧
        organization = .str policy.organization := by
  unfold find
  rw [exec_bind, exec_policy? inMemory.unplanned, ← and_assoc,
    ← PolicyStore.policy?_memory_iff inMemory.backend inMemory.policies]
  rcases asked : system.policies.policy? id with error | _ | found
  · exact ⟨nofun, nofun⟩
  · exact ⟨nofun, nofun⟩
  · dsimp only
    constructor
    · intro isFound
      split at isFound
      · rename_i isHere
        cases isFound
        exact ⟨rfl, (Value.equal_str_iff _ _).1 isHere⟩
      · cases isFound
    · rintro ⟨same, rfl⟩
      cases same
      rw [if_pos ((Value.equal_str_iff _ _).2 rfl), exec_pure]

/-! ## New numbers -/

/-- An entry of orders names one of some rules and has an integer for it, and this is the rule under that
number. -/
def Numbers (rules : List PolicyRule) (entry : Value × Value) (numbered : PolicyRule) : Prop :=
  ∃ rule ∈ rules, ∃ number, entry = (.str rule.id, .int number) ∧
    numbered = { rule with order := number }

section

variable {rules updated : List PolicyRule} {entries : List (Value × Value)} {policyId : Value}

/-- The rule that a value names among rules with identifiers of their own. -/
theorem find?_eq_some_iff (distinct : (rules.map PolicyRule.id).Nodup) {id : Value}
    {rule : PolicyRule} :
    rules.find? (fun rule => id.equal (.str rule.id)) = some rule ↔
      rule ∈ rules ∧ id = .str rule.id := by
  constructor
  · intro found
    have isHit : id.equal (.str rule.id) = true := by
      simpa using List.find?_some found
    exact ⟨List.mem_of_find?_eq_some found, (Value.equal_str_iff _ _).1 isHit⟩
  · rintro ⟨member, rfl⟩
    have isThere : (rules.find? fun other => (Value.str rule.id).equal (.str other.id)).isSome :=
      List.find?_isSome.2 ⟨rule, member, (Value.equal_str_iff _ _).2 rfl⟩
    obtain ⟨other, found⟩ := Option.isSome_iff_exists.1 isThere
    have isHit : (Value.str rule.id).equal (.str other.id) = true := by
      simpa using List.find?_some found
    have sameId : rule.id = other.id := Value.str.inj ((Value.equal_str_iff _ _).1 isHit)
    rw [found, List.inj_on_of_nodup_map distinct member (List.mem_of_find?_eq_some found) sameId]

/-- Where every entry names a rule, the rules are given the numbers of the entries one by one. -/
theorem mapM_numbered_eq_ok_iff (distinct : (rules.map PolicyRule.id).Nodup)
    (areKnown : ∀ entry ∈ entries, ∃ rule,
      rules.find? (fun rule => entry.1.equal (.str rule.id)) = some rule) :
    ((entries.filterMap fun (id, order) =>
        (rules.find? fun rule => id.equal (.str rule.id)).map (·, order)).mapM
      fun (rule, order) => (do return { rule with order := ← Cleaning.integer "order" order } :
        Except Error PolicyRule)) = .ok updated ↔ List.Forall₂ (Numbers rules) entries updated := by
  induction entries generalizing updated with
  | nil =>
      rw [List.filterMap_nil, List.mapM_nil, List.forall₂_nil_left_iff]
      exact ⟨fun same => (Except.ok.inj same).symm, fun same => congrArg Except.ok same.symm⟩
  | cons entry rest inductionHypothesis =>
      obtain ⟨⟨rule, found⟩, restKnown⟩ := List.forall_mem_cons.1 areKnown
      obtain ⟨id, order⟩ := entry
      obtain ⟨member, isId⟩ := (find?_eq_some_iff distinct).1 found
      dsimp only at isId
      rw [List.filterMap_cons]
      dsimp only at found ⊢
      rw [found, Option.map_some]
      dsimp only
      rw [List.mapM_cons, Except.bind_eq_ok_iff, List.forall₂_cons_left_iff]
      constructor
      · rintro ⟨numbered, isNumbered, succeeds⟩
        obtain ⟨others, areNumbered, succeeds⟩ := Except.bind_eq_ok_iff.1 succeeds
        obtain ⟨number, isNumber, isNumbered⟩ := Except.bind_eq_ok_iff.1 isNumbered
        have isInteger : order = .int number := Cleaning.integer_eq_ok_iff.1 isNumber
        cases succeeds
        cases isNumbered
        rw [isId, isInteger]
        exact ⟨_, _, ⟨rule, member, number, rfl, rfl⟩,
          (inductionHypothesis restKnown).1 areNumbered, rfl⟩
      · rintro ⟨numbered, others, ⟨named, namedMember, number, isEntry, rfl⟩, areNumbered, rfl⟩
        cases isEntry
        have same : rule = named :=
          List.inj_on_of_nodup_map distinct member namedMember (Value.str.inj isId).symm
        rw [same]
        exact ⟨_, rfl, Except.bind_eq_ok_iff.2
          ⟨others, (inductionHypothesis restKnown).2 areNumbered, rfl⟩⟩

/-- Rules are given new numbers exactly when every entry names a rule and has an integer. -/
theorem renumbered_eq_ok_iff (distinct : (rules.map PolicyRule.id).Nodup) :
    renumbered policyId rules entries = .ok updated ↔
      List.Forall₂ (Numbers rules) entries updated := by
  unfold renumbered
  dsimp only
  rw [Except.bind_eq_ok_iff]
  constructor
  · rintro ⟨foreign, areForeign, succeeds⟩
    split at succeeds
    · cases succeeds
    · rename_i noForeign
      have noForeign : foreign = [] := by
        simpa using noForeign
      rw [noForeign, Except.mapM_eq_ok_iff, List.forall₂_nil_right_iff,
        List.filter_eq_nil_iff] at areForeign
      refine (mapM_numbered_eq_ok_iff distinct fun entry member => ?_).1 succeeds
      have known := areForeign entry.1 (List.mem_map_of_mem member)
      rwa [Option.isNone_iff_eq_none, ← ne_eq, Option.ne_none_iff_exists'] at known
  · intro areNumbered
    have areKnown : ∀ entry ∈ entries, ∃ rule,
        rules.find? (fun rule => entry.1.equal (.str rule.id)) = some rule := by
      intro entry member
      obtain ⟨numbered, _, rule, ruleMember, number, rfl, _⟩ := areNumbered.exists_of_mem member
      exact ⟨rule, (find?_eq_some_iff distinct).2 ⟨ruleMember, rfl⟩⟩
    have noForeign : (entries.map Prod.fst).filter
        (fun id => (rules.find? fun rule => id.equal (.str rule.id)).isNone) = [] := by
      rw [List.filter_eq_nil_iff]
      intro id member
      obtain ⟨entry, entryMember, rfl⟩ := List.mem_map.1 member
      obtain ⟨rule, found⟩ := areKnown entry entryMember
      rw [found]
      exact Bool.false_ne_true
    rw [noForeign]
    exact ⟨[], rfl, (mapM_numbered_eq_ok_iff distinct areKnown).2 areNumbered⟩

end

/-- The rules that are given new numbers have the identifiers that the entries name. -/
theorem keyTexts_of_areNumbered {rules updated : List PolicyRule} {entries : List (Value × Value)}
    (areNumbered : List.Forall₂ (Numbers rules) entries updated) :
    Value.keyTexts entries = updated.map PolicyRule.id := by
  induction areNumbered with
  | nil => rfl
  | cons isNumbered _ inductionHypothesis =>
      obtain ⟨rule, _, number, rfl, rfl⟩ := isNumbered
      rw [Value.keyTexts_cons, List.map_cons, inductionHypothesis]
      rfl

/-! ## Orders -/

/-- Orders hold integers for one or more rules of a policy of an organization, and for nothing else. -/
structure OrdersFit (store : PolicyStore) (organization policyId orders : Value) (policy : Policy)
    (entries : List (Value × Value)) : Prop where
  stored : policy ∈ store.policies.values
  isOwn : organization = .str policy.organization
  isPolicy : policyId = .str policy.id
  isMapping : orders.entries? = some entries
  nonEmpty : entries ≠ []
  areNumbered : ∀ entry ∈ entries, ∃ rule ∈ store.rules.values, rule.policyId = policy.id ∧
    ∃ number, entry = (.str rule.id, .int number)

/-- The rules of a policy have been given the numbers of some entries, once and for all, and nothing else
that is stored has been changed. -/
structure Reordered [Host] (entries : List (Value × Value)) (policy : Policy) (listed : List PolicyRule)
    (system after : System) : Prop where
  numbered : ∀ rule ∈ system.policies.rules.values, ∀ number,
    (.str rule.id, .int number) ∈ entries →
      { rule with order := number } ∈ after.policies.rules.values
  others : ∀ rule ∈ system.policies.rules.values, (∀ value, (.str rule.id, value) ∉ entries) →
    rule ∈ after.policies.rules.values
  sameIds : after.policies.rules.map Prod.fst = system.policies.rules.map Prod.fst
  samePolicies : after.policies.policies = system.policies.policies
  sameRoles : after.roles = system.roles
  sound : after.policies.Sound
  listing : IsListing PolicyRule.place
    (fun rule => rule ∈ after.policies.rules.values ∧ rule.policyId = policy.id) listed
  rebuilt : after.registry = Registry.ofStore system.registry.catalog system.registry.snapshot.fixed
    (system.registry.snapshot.version + 1) after.policies

variable {organization policyId orders actor : Value} {policy : Policy}
  {entries : List (Value × Value)} {listed updated : List PolicyRule}

theorem exec_rulesOfPolicy_memory [Host] (inMemory : system.InMemory catalog fixed) (id : String) :
    exec (rulesOfPolicy (.str id)) system =
      (.ok (PolicyRule.sorted (system.policies.rulesWithin id)), system) := by
  have keeps : system.policies.backend.Keeps id := by
    rw [inMemory.backend]
    rfl
  rw [exec_rulesOfPolicy inMemory.unplanned, PolicyStore.rulesOf_str keeps]

/-- The rules of a policy that is found are listed in order. -/
theorem exec_listRules_memory [Host] (inMemory : system.InMemory catalog fixed)
    (found : exec (find organization policyId) system = (.ok policy, system)) :
    exec (listRules organization policyId) system =
      (.ok (PolicyRule.sorted (system.policies.rulesWithin policy.id)), system) := by
  unfold listRules
  rw [exec_bind_of_ok found, exec_rulesOfPolicy_memory inMemory]

/-- Rules of a policy that have been given new numbers can be saved in its store. -/
theorem saveRules_of_areNumbered [Host] (inMemory : system.InMemory catalog fixed)
    (stored : policy ∈ system.policies.policies.values)
    (areNumbered : List.Forall₂
      (Numbers (PolicyRule.sorted (system.policies.rulesWithin policy.id))) entries updated) :
    ∃ next, system.policies.saveRules updated = .ok next := by
  refine ⟨_, (PolicyStore.saveRules_memory_iff inMemory.backend).2 ⟨fun rule member => ?_, rfl⟩⟩
  obtain ⟨entry, _, old, isListed, number, _, rfl⟩ := areNumbered.flip.exists_of_mem member
  obtain ⟨_, isOwned⟩ := PolicyStore.mem_rulesWithin.1 (PolicyRule.mem_sorted.1 isListed)
  exact inMemory.policies.policies.has_iff.2 ⟨policy, stored, isOwned.symm⟩

/-- Where orders fit, rules are given new numbers. -/
theorem exists_exec_reorder [Host] (inMemory : system.InMemory catalog fixed) {written : String}
    (isWritten : actor.toText = .ok written)
    (fits : OrdersFit system.policies organization policyId orders policy entries) :
    ∃ listed after, exec (reorder organization policyId orders actor) system = (.ok listed, after) := by
  have found : exec (find organization policyId) system = (.ok policy, system) :=
    (find_eq_ok_iff inMemory).2 ⟨fits.stored, fits.isPolicy, fits.isOwn⟩
  obtain ⟨updated, areNumbered⟩ : ∃ updated, List.Forall₂
      (Numbers (PolicyRule.sorted (system.policies.rulesWithin policy.id))) entries updated := by
    refine List.exists_forall₂ fun entry member => ?_
    obtain ⟨rule, isStored, isOwned, number, isEntry⟩ := fits.areNumbered entry member
    have isListed := PolicyRule.mem_sorted.2 (PolicyStore.mem_rulesWithin.2 ⟨isStored, isOwned⟩)
    exact ⟨_, rule, isListed, number, isEntry, rfl⟩
  have isNumbered := (@renumbered_eq_ok_iff _ _ _ policyId
    (inMemory.policies.nodup_ids_rulesWithin policy.id)).2 areNumbered
  obtain ⟨next, areSaved⟩ := saveRules_of_areNumbered inMemory fits.stored areNumbered
  have keeps : next.backend.Keeps policy.id := by
    rw [(PolicyStore.Step.saveRules areSaved).sameBackend, inMemory.backend]
    rfl
  unfold reorder
  rw [exec_bind_of_ok found, fits.isMapping, Option.getD_some]
  cases isEntries : entries with
  | nil => exact absurd isEntries fits.nonEmpty
  | cons first rest =>
      rw [isEntries] at isNumbered
      dsimp only
      rw [exec_bind_of_ok (exec_rulesOfPolicy_memory inMemory policy.id), isNumbered, exec_orFail_ok]
      obtain ⟨after, _, _, executed⟩ := exists_exec_saved inMemory.toOrderly areSaved isWritten
        fun middle upToDate same => by
          rw [exec_rulesOfPolicy upToDate.unplanned, same, PolicyStore.rulesOf_str keeps]
      exact ⟨_, after, executed⟩

/-- What saving some rules of a policy with the numbers of entries makes of a store. -/
theorem reordered_of_saved [Host] (inMemory : system.InMemory catalog fixed)
    (apart : Value.KeysApart entries)
    (areNumbered : List.Forall₂
      (Numbers (PolicyRule.sorted (system.policies.rulesWithin policy.id))) entries updated)
    (saved : system.policies.saveRules updated = .ok after.policies)
    (sameRoles : after.roles = system.roles)
    (rebuilt : after.registry = Registry.ofStore catalog fixed
      (system.registry.snapshot.version + 1) after.policies) :
    Reordered entries policy (PolicyRule.sorted (after.policies.rulesWithin policy.id)) system
      after := by
  have indexed := inMemory.policies.rules
  have sound := inMemory.policies.saveRules saved
  obtain ⟨_, isNext⟩ := (PolicyStore.saveRules_memory_iff inMemory.backend).1 saved
  have isStored {rule : PolicyRule}
      (member : rule ∈ PolicyRule.sorted (system.policies.rulesWithin policy.id)) :
      rule ∈ system.policies.rules.values :=
    (PolicyStore.mem_rulesWithin.1 (PolicyRule.mem_sorted.1 member)).1
  have distinct : updated.Pairwise fun one another => one.id ≠ another.id := by
    rw [Value.KeysApart, keyTexts_of_areNumbered areNumbered] at apart
    exact List.pairwise_map.1 apart
  refine ⟨fun rule member number isEntry => ?_, fun rule member isUnnamed => ?_, ?_, ?_, sameRoles,
    sound, sound.isListing_rulesWithin policy.id, ?_⟩
  · obtain ⟨numbered, isUpdated, named, namedMember, given, same, rfl⟩ :=
      areNumbered.exists_of_mem isEntry
    simp only [Prod.mk.injEq, Value.str.injEq, Value.int.injEq] at same
    obtain ⟨sameId, rfl⟩ := same
    rw [indexed.eq_of_key_eq member (isStored namedMember) sameId, isNext]
    exact Keyed.mem_values_of_get? (Keyed.get?_puts_of_mem distinct isUpdated rfl _)
  · have isOther : ∀ one ∈ updated, one.id ≠ rule.id := by
      intro one isUpdated sameId
      obtain ⟨entry, isEntry, named, _, number, rfl, rfl⟩ :=
        areNumbered.flip.exists_of_mem isUpdated
      exact isUnnamed _ (sameId ▸ isEntry)
    have found := indexed.mem_values_iff.1 member
    rw [← Keyed.get?_puts_of_not fun one isUpdated _ => isOther one isUpdated] at found
    rw [isNext]
    exact Keyed.mem_values_of_get? found
  · rw [isNext]
    refine Keyed.keys_puts_of_mem fun one isUpdated => ?_
    obtain ⟨_, _, named, namedMember, _, _, rfl⟩ := areNumbered.flip.exists_of_mem isUpdated
    exact Keyed.has_iff_mem_keys.1 (indexed.has_iff.2 ⟨named, isStored namedMember, rfl⟩)
  · rw [isNext]
  · rw [rebuilt, inMemory.sameCatalog, inMemory.sameFixed]

/-- What reordering the rules of a policy saves and lists. -/
theorem saved_of_reorder [Host] (inMemory : system.InMemory catalog fixed)
    (succeeds : exec (reorder organization policyId orders actor) system = (.ok listed, after)) :
    ∃ policy entries updated,
      exec (find organization policyId) system = (.ok policy, system) ∧
      (orders.entries? = some entries ∧ entries ≠ []) ∧
      List.Forall₂ (Numbers (PolicyRule.sorted (system.policies.rulesWithin policy.id))) entries
        updated ∧
      system.policies.saveRules updated = .ok after.policies ∧
      listed = PolicyRule.sorted (after.policies.rulesWithin policy.id) ∧
      after.roles = system.roles ∧
      after.registry = Registry.ofStore catalog fixed (system.registry.snapshot.version + 1)
        after.policies := by
  obtain ⟨found, looked⟩ := exists_exec_find inMemory.unplanned organization policyId
  unfold reorder at succeeds
  obtain ⟨policy, rfl, succeeds⟩ := exec_read looked succeeds
  rcases isMapping : orders.entries? with _ | _ | ⟨first, rest⟩
  · rw [isMapping] at succeeds
    cases succeeds
  · rw [isMapping] at succeeds
    cases succeeds
  · rw [isMapping, Option.getD_some] at succeeds
    obtain ⟨rules, areListed, succeeds⟩ :=
      exec_read (exec_rulesOfPolicy_memory inMemory policy.id) succeeds
    cases areListed
    obtain ⟨updated, isNumbered, succeeds⟩ := exec_checked succeeds
    have areNumbered := (renumbered_eq_ok_iff
      (inMemory.policies.nodup_ids_rulesWithin policy.id)).1 isNumbered
    have nonEmpty : updated ≠ [] := by
      rintro rfl
      cases areNumbered
    obtain ⟨value, middle, executed, succeeds⟩ := exec_bind_eq_ok succeeds
    obtain ⟨saved, rebuilt, inMemoryStill, others⟩ := inMemory.saved nonEmpty executed
    obtain ⟨⟨⟩, last, isNoted, succeeds⟩ := exec_bind_eq_ok succeeds
    obtain ⟨lastInMemory, sameButJournal⟩ := inMemoryStill.noted isNoted
    rw [exec_rulesOfPolicy_memory lastInMemory] at succeeds
    cases succeeds
    refine ⟨policy, first :: rest, updated, looked, ⟨rfl, List.cons_ne_nil _ _⟩, areNumbered, ?_, rfl,
      ?_, ?_⟩
    · rw [sameButJournal]
      exact saved
    · rw [sameButJournal, others]
    · rw [sameButJournal]
      exact rebuilt

/-- Where rules have been given new numbers, the orders fit and have been applied. -/
theorem reordered_of_exec [Host] (inMemory : system.InMemory catalog fixed)
    (apart : ∀ entries, orders.entries? = some entries → Value.KeysApart entries)
    (succeeds : exec (reorder organization policyId orders actor) system = (.ok listed, after)) :
    ∃ policy entries, OrdersFit system.policies organization policyId orders policy entries ∧
      Reordered entries policy listed system after := by
  obtain ⟨policy, entries, updated, looked, ⟨isMapping, nonEmpty⟩, areNumbered, saved, rfl, sameRoles,
    rebuilt⟩ := saved_of_reorder inMemory succeeds
  obtain ⟨stored, isPolicy, isOwn⟩ := (find_eq_ok_iff inMemory).1 looked
  refine ⟨policy, entries, ⟨stored, isOwn, isPolicy, isMapping, nonEmpty, fun entry member => ?_⟩,
    reordered_of_saved inMemory (apart _ isMapping) areNumbered saved sameRoles rebuilt⟩
  obtain ⟨_, _, rule, isListed, number, isEntry, _⟩ := areNumbered.exists_of_mem member
  obtain ⟨isStored, isOwned⟩ := PolicyStore.mem_rulesWithin.1 (PolicyRule.mem_sorted.1 isListed)
  exact ⟨rule, isStored, isOwned, number, isEntry⟩

/-- In a system in use that was put together with a policy store in memory, to reorder rules succeeds
exactly when the policy is there and the orders are a mapping, not an empty one, of identifiers of its
rules to integers. Then the rules that are named have exactly these numbers, nothing else that is stored
is changed, all rules of the policy are listed in their new order, and the registry is rebuilt once. -/
theorem reorder_applies_orders [Host] {parts : Parts} {start : System} (roles : parts.roles.Accepted)
    (policies : parts.policies.Accepted) (inMemory : parts.policies.backend = .memory)
    (assembled : assemble parts = .ok start) (ids : IdSource)
    (reaches : System.Reaches { start with ids } system) {written : String}
    (isWritten : actor.toText = .ok written)
    (apart : ∀ entries, orders.entries? = some entries → Value.KeysApart entries) :
    ((∃ listed after, exec (reorder organization policyId orders actor) system =
        (.ok listed, after)) ↔
      ∃ policy entries, OrdersFit system.policies organization policyId orders policy entries) ∧
    ∀ listed after,
      exec (reorder organization policyId orders actor) system = (.ok listed, after) →
      ∃ policy entries, OrdersFit system.policies organization policyId orders policy entries ∧
        Reordered entries policy listed system after := by
  obtain ⟨catalog, fixed, inMemory⟩ := reaches.exists_inMemory roles policies inMemory assembled ids
  refine ⟨⟨?_, ?_⟩, fun listed after => reordered_of_exec inMemory apart⟩
  · rintro ⟨listed, after, succeeds⟩
    obtain ⟨policy, entries, fits, _⟩ := reordered_of_exec inMemory apart succeeds
    exact ⟨policy, entries, fits⟩
  · rintro ⟨policy, entries, fits⟩
    exact exists_exec_reorder inMemory isWritten fits

open scoped Host in
/-- The only rule of a policy is given another number. -/
theorem reorder_applies_orders_updates : ∃ start, assemble Question.partsOfUsers = .ok start ∧
    ∃ listed after, exec (reorder (.str "acme") (.str "p1") (.dict [(.str "r1", .int 7)]) .null)
        start = (.ok listed, after) ∧
      { System.updatesRule with order := 7 } ∈ after.policies.rules.values := by
  have roles : Question.partsOfUsers.roles.Accepted := .made ⟨[], []⟩ rfl
  have policies : Question.partsOfUsers.policies.Accepted :=
    .made ⟨[.list [System.updatesPolicy.toValue], .list [System.updatesRule.toValue]], []⟩ rfl
  obtain ⟨registry, counted, journal, assembled⟩ :=
    @exists_assemble _ Question.partsOfUsers rfl roles.sound policies.sound
  have isWritten : Value.toText .null = .ok "None" := rfl
  have apart : ∀ entries, (Value.dict [(.str "r1", .int 7)]).entries? = some entries →
      Value.KeysApart entries := by
    intro entries isMapping
    cases isMapping
    exact List.nodup_singleton "r1"
  have fits : OrdersFit Question.partsOfUsers.policies (.str "acme") (.str "p1")
      (.dict [(.str "r1", .int 7)]) System.updatesPolicy [(.str "r1", .int 7)] := by
    refine ⟨.head _, rfl, rfl, rfl, List.cons_ne_nil _ _, List.forall_mem_singleton.2 ?_⟩
    exact ⟨System.updatesRule, .head _, rfl, 7, rfl⟩
  obtain ⟨succeeds, applies⟩ := @reorder_applies_orders _ (.str "acme") (.str "p1")
    (.dict [(.str "r1", .int 7)]) .null _ _ _ roles policies rfl assembled _ .refl _ isWritten apart
  obtain ⟨listed, after, executed⟩ := succeeds.2 ⟨_, _, fits⟩
  obtain ⟨policy, entries, fit, reordered⟩ := applies _ _ executed
  obtain rfl := Option.some.inj fit.isMapping
  exact ⟨_, assembled, listed, after, executed,
    reordered.numbered System.updatesRule (.head _) 7 (.head _)⟩

end PolicyAdministration

end Authorization
