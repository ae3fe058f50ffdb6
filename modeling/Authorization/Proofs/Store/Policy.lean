import Authorization.Proofs.Keyed
import Authorization.Proofs.Result
import Authorization.Proofs.Store.Order
import Authorization.Proofs.Value
import Authorization.Store.Policy

/-!
# Sound policy stores

A policy store is sound when every record stands under its own identifier, no two policies of an
organization have one key, and every rule belongs to a policy that is there. Every operation keeps a
store sound, and so does making one, so no two policies ever compete for a key.
-/

namespace Authorization.PolicyStore

/-- The records of a store stand under their own identifiers, keys are taken once in an organization, and
rules belong to policies. -/
structure Sound (store : PolicyStore) : Prop where
  policies : store.policies.Indexed Policy.id
  rules : store.rules.Indexed PolicyRule.id
  keptPolicies : ∀ policy ∈ store.policies.values, store.backend.Keeps policy.id
  keptRules : ∀ rule ∈ store.rules.values, store.backend.Keeps rule.id
  unique : ∀ policy ∈ store.policies.values, ∀ other ∈ store.policies.values,
    policy.key = other.key → policy.organization = other.organization → policy = other
  owned : ∀ rule ∈ store.rules.values, ∃ policy ∈ store.policies.values, policy.id = rule.policyId

variable {store next : PolicyStore}

theorem sound_empty : ({} : PolicyStore).Sound :=
  ⟨.nil, .nil, List.forall_mem_nil _, List.forall_mem_nil _, List.forall_mem_nil _,
    List.forall_mem_nil _⟩

/-! ## Saving a policy -/

/-- Another policy of the organization has the key. -/
theorem hasClash_iff {policy : Policy} :
    store.hasClash policy = true ↔ ∃ other ∈ store.policies.values,
      other.id ≠ policy.id ∧ other.key = policy.key ∧ other.organization = policy.organization := by
  rw [hasClash, List.any_eq_true]
  simp only [Bool.and_eq_true, bne_iff_ne, beq_iff_eq, and_assoc]

/-- The store changes at most how a policy is described and whether it is active. -/
theorem kept_eq {policy kept : Policy} (isKept : store.kept policy = .ok kept) :
    ∃ description active, kept = { policy with description, active } := by
  unfold PolicyStore.kept at isKept
  split at isKept
  · cases isKept
    exact ⟨policy.description, policy.active, rfl⟩
  · obtain ⟨description, _, isKept⟩ := Except.bind_eq_ok_iff.1 isKept
    obtain ⟨_, _, isKept⟩ := Except.bind_eq_ok_iff.1 isKept
    obtain ⟨_, _, isKept⟩ := Except.bind_eq_ok_iff.1 isKept
    obtain ⟨active, _, isKept⟩ := Except.bind_eq_ok_iff.1 isKept
    cases isKept
    exact ⟨description, active, rfl⟩

theorem policyIdentifier_eq_ok_iff {given id : String} :
    store.policyIdentifier given = .ok id ↔ store.backend.identifier (.str given) = .ok (some id) := by
  rw [policyIdentifier]
  rcases store.backend.identifier (.str given) with _ | _ | found
  · rw [Except.error_bind]
    exact ⟨nofun, nofun⟩
  · rw [Except.ok_bind]
    exact ⟨nofun, nofun⟩
  · rw [Except.ok_bind, Except.ok.injEq, Option.some.injEq]
    exact ⟨Except.ok.inj, congrArg Except.ok⟩

/-- What saving a policy does: a policy with the fields of the given one that tell it apart stands under
its identifier, where no other has its key. -/
theorem savePolicy_eq_ok {policy : Policy} (saved : store.savePolicy policy = .ok next) :
    ∃ kept : Policy, store.backend.identifier (.str policy.id) = .ok (some kept.id) ∧
      (∃ id, store.kept { policy with id } = .ok kept) ∧
      kept.key = policy.key ∧ kept.organization = policy.organization ∧ kept.name = policy.name ∧
      store.hasClash kept = false ∧
      next = { store with policies := Keyed.put kept.id kept store.policies } := by
  obtain ⟨id, identified, saved⟩ := Except.bind_eq_ok_iff.1 saved
  dsimp only at saved
  split at saved
  · cases saved
  · rename_i noClash
    obtain ⟨kept, isKept, saved⟩ := Except.bind_eq_ok_iff.1 saved
    cases saved
    obtain ⟨description, active, rfl⟩ := kept_eq isKept
    exact ⟨_, policyIdentifier_eq_ok_iff.1 identified, ⟨id, isKept⟩, rfl, rfl, rfl,
      Bool.eq_false_iff.2 noClash, rfl⟩

theorem Sound.savePolicy (sound : store.Sound) {policy : Policy}
    (saved : store.savePolicy policy = .ok next) : next.Sound := by
  obtain ⟨kept, identified, _, _, _, _, noClash, rfl⟩ := savePolicy_eq_ok saved
  have apart : ∀ other ∈ store.policies.values, other.id ≠ kept.id →
      other.key = kept.key → other.organization ≠ kept.organization := by
    intro other member different sameKey sameOrganization
    rw [hasClash_iff.2 ⟨other, member, different, sameKey, sameOrganization⟩] at noClash
    cases noClash
  refine ⟨sound.policies.put kept, sound.rules, ?_, sound.keptRules, ?_, ?_⟩
  · intro other member
    rcases sound.policies.mem_values_put.1 member with rfl | ⟨old, _⟩
    · exact Backend.keeps_of_identifier identified
    · exact sound.keptPolicies other old
  · intro left leftMember right rightMember sameKey sameOrganization
    rcases sound.policies.mem_values_put.1 leftMember with rfl | ⟨leftOld, leftApart⟩ <;>
      rcases sound.policies.mem_values_put.1 rightMember with rfl | ⟨rightOld, rightApart⟩
    · rfl
    · exact absurd sameOrganization.symm (apart right rightOld rightApart sameKey.symm)
    · exact absurd sameOrganization (apart left leftOld leftApart sameKey)
    · exact sound.unique left leftOld right rightOld sameKey sameOrganization
  · intro rule member
    obtain ⟨policy, old, isOwner⟩ := sound.owned rule member
    by_cases same : policy.id = kept.id
    · exact ⟨kept, sound.policies.mem_values_put.2 (.inl rfl), same ▸ isOwner⟩
    · exact ⟨policy, sound.policies.mem_values_put.2 (.inr ⟨old, same⟩), isOwner⟩

/-! ## Deleting a policy -/

theorem mem_rulesWithin {policyId : String} {rule : PolicyRule} :
    rule ∈ store.rulesWithin policyId ↔ rule ∈ store.rules.values ∧ rule.policyId = policyId := by
  rw [rulesWithin, List.mem_filter, beq_iff_eq]

/-- What deleting a policy does: nothing where the identifier is none of a store, and else the policy
goes, which has no rules. -/
theorem deletePolicy_eq_ok {id : Value} {answer : Bool}
    (deleted : store.deletePolicy id = .ok (next, answer)) :
    (store.backend.identifier id = .ok none ∧ next = store ∧ answer = false) ∨
      ∃ known, store.backend.identifier id = .ok (some known) ∧
        (∀ rule ∈ store.rules.values, rule.policyId ≠ known) ∧
        next = { store with policies := store.policies.erase known } ∧
        answer = store.policies.has known := by
  obtain ⟨found, identified, deleted⟩ := Except.bind_eq_ok_iff.1 deleted
  cases found with
  | none =>
      cases deleted
      exact .inl ⟨identified, rfl, rfl⟩
  | some known =>
      dsimp only at deleted
      split at deleted
      · obtain ⟨_, _, deleted⟩ := Except.bind_eq_ok_iff.1 deleted
        cases deleted
      · rename_i noRules
        cases deleted
        refine .inr ⟨known, identified, fun rule member isOwner => noRules ?_, rfl, rfl⟩
        have within := mem_rulesWithin.2 ⟨member, isOwner⟩
        cases rules : store.rulesWithin known with
        | nil =>
            rw [rules] at within
            cases within
        | cons first rest => rfl

theorem Sound.deletePolicy (sound : store.Sound) {id : Value} {answer : Bool}
    (deleted : store.deletePolicy id = .ok (next, answer)) : next.Sound := by
  rcases deletePolicy_eq_ok deleted with ⟨_, rfl, _⟩ | ⟨known, _, noRules, rfl, _⟩
  · exact sound
  · have old {policy : Policy} (member : policy ∈ (store.policies.erase known).values) :
        policy ∈ store.policies.values := (sound.policies.mem_values_erase.1 member).1
    refine ⟨sound.policies.erase known, sound.rules, fun policy member =>
      sound.keptPolicies policy (old member), sound.keptRules, fun left leftMember right rightMember =>
      sound.unique left (old leftMember) right (old rightMember), fun rule member => ?_⟩
    obtain ⟨policy, policyMember, isOwner⟩ := sound.owned rule member
    refine ⟨policy, sound.policies.mem_values_erase.2 ⟨policyMember, ?_⟩, isOwner⟩
    exact fun same => noRules rule member (isOwner ▸ same)

/-! ## Rules -/

/-- The store changes at most the contents of a rule. -/
theorem keptRule_eq {rule kept : PolicyRule} (isKept : store.keptRule rule = .ok kept) :
    kept.id = rule.id ∧ kept.policyId = rule.policyId ∧ kept.order = rule.order ∧
      kept.type = rule.type ∧ kept.name = rule.name := by
  unfold PolicyStore.keptRule at isKept
  split at isKept
  · cases isKept
    exact ⟨rfl, rfl, rfl, rfl, rfl⟩
  · obtain ⟨description, _, isKept⟩ := Except.bind_eq_ok_iff.1 isKept
    obtain ⟨config, _, isKept⟩ := Except.bind_eq_ok_iff.1 isKept
    obtain ⟨active, _, isKept⟩ := Except.bind_eq_ok_iff.1 isKept
    obtain ⟨_, _, isKept⟩ := Except.bind_eq_ok_iff.1 isKept
    obtain ⟨order, inColumn, isKept⟩ := Except.bind_eq_ok_iff.1 isKept
    obtain ⟨active, _, isKept⟩ := Except.bind_eq_ok_iff.1 isKept
    obtain ⟨finite, _, isKept⟩ := Except.bind_eq_ok_iff.1 isKept
    have sameOrder : order = rule.order := by
      unfold Column.integer at inColumn
      split at inColumn
      · exact (Except.ok.inj inColumn).symm
      · cases inColumn
    cases isKept
    exact ⟨rfl, rfl, sameOrder, rfl, rfl⟩

theorem identified_eq_ok {rule named : PolicyRule} (isNamed : store.identified rule = .ok named) :
    store.backend.identifier (.str rule.id) = .ok (some named.id) ∧
      store.backend.identifier (.str rule.policyId) = .ok (some named.policyId) ∧
      named = { rule with id := named.id, policyId := named.policyId } := by
  obtain ⟨id, idOk, isNamed⟩ := Except.bind_eq_ok_iff.1 isNamed
  obtain ⟨policyId, policyIdOk, isNamed⟩ := Except.bind_eq_ok_iff.1 isNamed
  cases id with
  | none => cases isNamed
  | some id =>
      cases policyId with
      | none => cases isNamed
      | some policyId =>
          cases isNamed
          exact ⟨idOk, policyIdOk, rfl⟩

/-- What saving a rule does: a rule with the fields of the given one that tell it apart stands under its
identifier, and belongs to a policy that is there. -/
theorem saveRule_eq_ok {rule : PolicyRule} (saved : store.saveRule rule = .ok next) :
    ∃ kept : PolicyRule, store.backend.identifier (.str rule.id) = .ok (some kept.id) ∧
      store.backend.identifier (.str rule.policyId) = .ok (some kept.policyId) ∧
      store.keptRule { rule with id := kept.id, policyId := kept.policyId } = .ok kept ∧
      store.policies.has kept.policyId = true ∧
      next = { store with rules := Keyed.put kept.id kept store.rules } := by
  obtain ⟨named, isNamed, saved⟩ := Except.bind_eq_ok_iff.1 saved
  obtain ⟨_, owner, saved⟩ := Except.bind_eq_ok_iff.1 saved
  obtain ⟨kept, isKept, saved⟩ := Except.bind_eq_ok_iff.1 saved
  obtain ⟨idOk, policyIdOk, shape⟩ := identified_eq_ok isNamed
  obtain ⟨sameId, samePolicyId, _⟩ := keptRule_eq isKept
  have isThere : store.policies.has named.policyId = true := by
    unfold checkOwner at owner
    split at owner
    · assumption
    · cases owner
  cases saved
  rw [← sameId] at idOk shape
  rw [← samePolicyId] at policyIdOk shape isThere
  refine ⟨kept, idOk, policyIdOk, shape ▸ isKept, isThere, ?_⟩
  rw [sameId]

theorem Sound.saveRule (sound : store.Sound) {rule : PolicyRule}
    (saved : store.saveRule rule = .ok next) : next.Sound := by
  obtain ⟨kept, identified, _, _, isThere, rfl⟩ := saveRule_eq_ok saved
  refine ⟨sound.policies, sound.rules.put kept, sound.keptPolicies, ?_, sound.unique, ?_⟩
  · intro other member
    rcases sound.rules.mem_values_put.1 member with rfl | ⟨old, _⟩
    · exact Backend.keeps_of_identifier identified
    · exact sound.keptRules other old
  · intro other member
    rcases sound.rules.mem_values_put.1 member with rfl | ⟨old, _⟩
    · exact sound.policies.has_iff.1 isThere
    · exact sound.owned other old

/-- What the steps for some items keep is kept by all of them in turn. -/
theorem foldlM_keeps_of_mem {α : Type} {holds : PolicyStore → Prop}
    {step : PolicyStore → α → Except Error PolicyStore} {items : List α}
    (keeps : ∀ item ∈ items, ∀ {store next : PolicyStore}, holds store →
      step store item = .ok next → holds next)
    (start : holds store) (made : items.foldlM step store = .ok next) : holds next := by
  induction items generalizing store with
  | nil =>
      cases made
      exact start
  | cons item rest inductionHypothesis =>
      obtain ⟨here, others⟩ := List.forall_mem_cons.1 keeps
      rw [List.foldlM_cons] at made
      obtain ⟨middle, stepped, made⟩ := Except.bind_eq_ok_iff.1 made
      exact inductionHypothesis others (here start stepped) made

/-- What every step of some keeps is kept by all of them in turn. -/
theorem foldlM_keeps {α : Type} {holds : PolicyStore → Prop}
    {step : PolicyStore → α → Except Error PolicyStore}
    (keeps : ∀ {store next : PolicyStore} {item : α}, holds store → step store item = .ok next →
      holds next) {items : List α} (start : holds store)
    (made : items.foldlM step store = .ok next) : holds next :=
  foldlM_keeps_of_mem (fun _ _ => keeps) start made

/-- In memory a rule of a policy that is there is kept as it is. -/
theorem saveRule_memory (inMemory : store.backend = .memory) (rule : PolicyRule) :
    store.saveRule rule = do
      store.checkOwner rule rule
      return { store with rules := Keyed.put rule.id rule store.rules } := by
  unfold PolicyStore.saveRule identified keptRule
  rw [inMemory]
  rfl

/-- Whether all owners are checked first or the rules are saved one by one comes to the same, since no
rule that is saved changes which policies are there. -/
theorem saveRules_eq_foldlM (store : PolicyStore) (rules : List PolicyRule) :
    store.saveRules rules = rules.foldlM saveRule store := by
  unfold PolicyStore.saveRules
  split
  · rename_i inMemory
    suffices oneByOne : ∀ kept : Keyed String PolicyRule,
        (do
          rules.forM fun rule => store.checkOwner rule rule
          return { store with
            rules := rules.foldl (fun kept rule => Keyed.put rule.id rule kept) kept } :
          Except Error PolicyStore) = rules.foldlM saveRule { store with rules := kept } from
      oneByOne store.rules
    induction rules with
    | nil => exact fun kept => rfl
    | cons rule rest inductionHypothesis =>
        intro kept
        have first : PolicyStore.saveRule { store with rules := kept } rule = do
            store.checkOwner rule rule
            return { store with rules := Keyed.put rule.id rule kept } :=
          @saveRule_memory { store with rules := kept } inMemory rule
        rw [List.foldlM_cons, first, List.forM]
        rcases store.checkOwner rule rule with error | ⟨⟩
        · rfl
        · exact inductionHypothesis (Keyed.put rule.id rule kept)
  · rfl

theorem Sound.saveRules (sound : store.Sound) {rules : List PolicyRule}
    (saved : store.saveRules rules = .ok next) : next.Sound := by
  rw [saveRules_eq_foldlM] at saved
  exact foldlM_keeps (fun sound stepped => sound.saveRule stepped) sound saved

theorem Sound.saveRuleValues (sound : store.Sound) {values : List Value}
    (saved : values.foldlM (fun found value => ruleOf value >>= found.saveRule) store = .ok next) :
    next.Sound := by
  refine foldlM_keeps (fun sound stepped => ?_) sound saved
  obtain ⟨rule, _, stepped⟩ := Except.bind_eq_ok_iff.1 stepped
  exact sound.saveRule stepped

theorem deleteRule_eq_ok {id : Value} {answer : Bool}
    (deleted : store.deleteRule id = .ok (next, answer)) :
    (store.backend.identifier id = .ok none ∧ next = store ∧ answer = false) ∨
      ∃ known, store.backend.identifier id = .ok (some known) ∧
        next = { store with rules := store.rules.erase known } ∧
        answer = store.rules.has known := by
  obtain ⟨found, identified, deleted⟩ := Except.bind_eq_ok_iff.1 deleted
  cases found with
  | none =>
      cases deleted
      exact .inl ⟨identified, rfl, rfl⟩
  | some known =>
      cases deleted
      exact .inr ⟨known, identified, rfl, rfl⟩

theorem Sound.deleteRule (sound : store.Sound) {id : Value} {answer : Bool}
    (deleted : store.deleteRule id = .ok (next, answer)) : next.Sound := by
  rcases deleteRule_eq_ok deleted with ⟨_, rfl, _⟩ | ⟨known, _, rfl, _⟩
  · exact sound
  · have old {rule : PolicyRule} (member : rule ∈ (store.rules.erase known).values) :
        rule ∈ store.rules.values := (sound.rules.mem_values_erase.1 member).1
    exact ⟨sound.policies, sound.rules.erase known, sound.keptPolicies,
      fun rule member => sound.keptRules rule (old member), sound.unique,
      fun rule member => sound.owned rule (old member)⟩

theorem equal_policyId (id : String) :
    (fun rule : PolicyRule => (Value.str id).equal (.str rule.policyId)) =
      fun rule => rule.policyId == id := by
  funext rule
  rw [Value.str_equal_str, Bool.eq_iff_iff, decide_eq_true_iff, beq_iff_eq, eq_comm]

theorem rulesOf_str {id : String} (keeps : store.backend.Keeps id) :
    store.rulesOf (.str id) = .ok (PolicyRule.sorted (store.rulesWithin id)) := by
  unfold PolicyStore.rulesOf rulesWithin
  cases backend : store.backend with
  | memory =>
      dsimp only
      rw [equal_policyId]
      rfl
  | tables =>
      rw [backend] at keeps
      dsimp only
      rw [keeps.identifier, Except.ok_bind]
      rfl

/-- The number of rules is that of the policy that a text names. -/
theorem countRules_str (store : PolicyStore) (given : String) :
    store.countRules (.str given) =
      match store.backend.identifier (.str given) with
      | .ok (some id) => (store.rulesWithin id).length
      | _ => 0 := by
  unfold PolicyStore.countRules rulesWithin
  rw [Backend.identifier_str]
  cases backend : store.backend with
  | memory =>
      dsimp only
      rw [equal_policyId]
  | tables =>
      dsimp only
      rw [Value.text?_str, Option.bind_some]
      rcases Text.Uuid.canonical? given with _ | id <;> rfl

/-- The rules that are listed for a policy are stored. -/
theorem mem_of_rulesOf {policyId : Value} {rules : List PolicyRule}
    (listed : store.rulesOf policyId = .ok rules) {rule : PolicyRule} (member : rule ∈ rules) :
    rule ∈ store.rules.values := by
  unfold PolicyStore.rulesOf at listed
  split at listed
  · cases listed
    exact PolicyRule.mem_sorted.1 member
  · split at listed
    · cases listed
      exact List.mem_of_mem_filter (PolicyRule.mem_sorted.1 member)
    · obtain ⟨known, _, listed⟩ := Except.bind_eq_ok_iff.1 listed
      cases known with
      | none =>
          cases listed
          cases member
      | some known =>
          cases listed
          exact (mem_rulesWithin.1 (PolicyRule.mem_sorted.1 member)).1

theorem mem_of_policy? {id : Value} {policy : Policy}
    (found : store.policy? id = .ok (some policy)) : policy ∈ store.policies.values := by
  obtain ⟨known, _, found⟩ := Except.bind_eq_ok_iff.1 found
  obtain ⟨key, _, isThere⟩ := Option.bind_eq_some_iff.1 (Except.ok.inj found)
  exact Keyed.mem_values_of_get? isThere

theorem mem_of_rule? {id : Value} {rule : PolicyRule} (found : store.rule? id = .ok (some rule)) :
    rule ∈ store.rules.values := by
  obtain ⟨known, _, found⟩ := Except.bind_eq_ok_iff.1 found
  obtain ⟨key, _, isThere⟩ := Option.bind_eq_some_iff.1 (Except.ok.inj found)
  exact Keyed.mem_values_of_get? isThere

/-! ## Making a store -/

/-- A store that is made of given records is sound. -/
theorem sound_of_ofArguments {arguments : Arguments}
    (made : PolicyStore.ofArguments arguments = .ok store) : store.Sound := by
  obtain ⟨bindings, _, made⟩ := Except.bind_eq_ok_iff.1 made
  obtain ⟨policies, _, made⟩ := Except.bind_eq_ok_iff.1 made
  obtain ⟨first, saved, made⟩ := Except.bind_eq_ok_iff.1 made
  obtain ⟨rules, _, made⟩ := Except.bind_eq_ok_iff.1 made
  have firstSound : first.Sound := by
    refine foldlM_keeps (fun sound stepped => ?_) sound_empty saved
    obtain ⟨policy, _, stepped⟩ := Except.bind_eq_ok_iff.1 stepped
    exact sound.savePolicy stepped
  exact firstSound.saveRuleValues made

/-! ## Steps -/

/-- What one operation makes of a policy store. -/
inductive Step (store : PolicyStore) : PolicyStore → Prop
  | savePolicy {next : PolicyStore} {policy : Policy} (saved : store.savePolicy policy = .ok next) :
      Step store next
  | deletePolicy {next : PolicyStore} {id : Value} {answer : Bool}
      (deleted : store.deletePolicy id = .ok (next, answer)) : Step store next
  | saveRules {next : PolicyStore} {rules : List PolicyRule}
      (saved : store.saveRules rules = .ok next) : Step store next
  | saveRuleValues {next : PolicyStore} {values : List Value}
      (saved : values.foldlM (fun found value => ruleOf value >>= found.saveRule) store = .ok next) :
      Step store next
  | deleteRule {next : PolicyStore} {id : Value} {answer : Bool}
      (deleted : store.deleteRule id = .ok (next, answer)) : Step store next

theorem Sound.step (sound : store.Sound)
    (step : store.Step next) : next.Sound := by
  cases step with
  | savePolicy saved => exact sound.savePolicy saved
  | deletePolicy deleted => exact sound.deletePolicy deleted
  | saveRules saved => exact sound.saveRules saved
  | saveRuleValues saved => exact sound.saveRuleValues saved
  | deleteRule deleted => exact sound.deleteRule deleted

end Authorization.PolicyStore
