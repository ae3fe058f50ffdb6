import Authorization.Proofs.System.Listing
import Authorization.Proofs.Tenancy.Roles

/-!
# Stores in memory

In memory every record is kept as it is given, under the text that is its identifier. Rules are saved
together when each of them belongs to a policy that is there: those under known identifiers take the
places of the rules that had them, and those under new ones come after all others.
-/

namespace Authorization

/-- In memory nothing but a text is an identifier. -/
theorem Backend.identifier_memory_iff {value : Value} {id : String} :
    Backend.memory.identifier value = .ok (some id) ↔ value = .str id := by
  unfold identifier
  constructor
  · intro identified
    dsimp only at identified
    split at identified
    · exact Value.asStr?_eq_some_iff.1 (Except.ok.inj identified)
    · cases identified
  · rintro rfl
    rfl

/-- In memory a record is found under its own key and under nothing else. -/
theorem Backend.get?_memory_iff {α : Type} {ownKey : α → String} {entries : Keyed String α}
    (indexed : entries.Indexed ownKey) {id : Value} {record : α} :
    (do return (← Backend.memory.identifier id).bind entries.get? : Except Error (Option α)) =
        .ok (some record) ↔
      entries.get? (ownKey record) = some record ∧ id = .str (ownKey record) := by
  rw [Except.bind_eq_ok_iff]
  constructor
  · rintro ⟨known, identified, found⟩
    obtain ⟨text, rfl, isStored⟩ := Option.bind_eq_some_iff.1 (Except.ok.inj found)
    have isText := identifier_memory_iff.1 identified
    have isKey := indexed.key_eq isStored
    exact ⟨isKey ▸ isStored, isKey ▸ isText⟩
  · rintro ⟨isStored, rfl⟩
    exact ⟨some (ownKey record), rfl, congrArg Except.ok isStored⟩

namespace PolicyStore

variable {store next : PolicyStore}

/-- No operation changes where a store keeps its records. -/
theorem Step.sameBackend (step : store.Step next) : next.backend = store.backend := by
  have saving {store next : PolicyStore} {rule : PolicyRule} (saved : store.saveRule rule = .ok next) :
      next.backend = store.backend := by
    obtain ⟨_, _, _, _, _, rfl⟩ := saveRule_eq_ok saved
    rfl
  cases step with
  | savePolicy saved =>
      obtain ⟨_, _, _, _, _, _, _, rfl⟩ := savePolicy_eq_ok saved
      rfl
  | deletePolicy deleted =>
      rcases deletePolicy_eq_ok deleted with ⟨_, rfl, _⟩ | ⟨_, _, _, rfl, _⟩
      · rfl
      · rfl
  | saveRules saved =>
      rw [saveRules_eq_foldlM] at saved
      exact @foldlM_keeps store _ _ (fun found => found.backend = store.backend) _
        (fun same stepped => (saving stepped).trans same) _ rfl saved
  | saveRuleValues saved =>
      refine @foldlM_keeps store _ _ (fun found => found.backend = store.backend) _
        (fun same stepped => ?_) _ rfl saved
      obtain ⟨_, _, stepped⟩ := Except.bind_eq_ok_iff.1 stepped
      exact (saving stepped).trans same
  | deleteRule deleted =>
      rcases deleteRule_eq_ok deleted with ⟨_, rfl, _⟩ | ⟨_, _, rfl, _⟩
      · rfl
      · rfl

/-- A policy in memory is found under its identifier and under nothing else. -/
theorem policy?_memory_iff (inMemory : store.backend = .memory) (sound : store.Sound) {id : Value}
    {policy : Policy} : store.policy? id = .ok (some policy) ↔
      policy ∈ store.policies.values ∧ id = .str policy.id := by
  unfold policy?
  rw [inMemory, sound.policies.mem_values_iff]
  exact Backend.get?_memory_iff sound.policies

/-- A rule in memory is found under its identifier and under nothing else. -/
theorem rule?_memory_iff (inMemory : store.backend = .memory) (sound : store.Sound) {id : Value}
    {rule : PolicyRule} : store.rule? id = .ok (some rule) ↔
      store.rules.get? rule.id = some rule ∧ id = .str rule.id := by
  unfold rule?
  rw [inMemory]
  exact Backend.get?_memory_iff sound.rules

/-- In memory a policy is kept as it is, unless another one has its key. -/
theorem savePolicy_memory_iff (inMemory : store.backend = .memory) {policy : Policy} :
    store.savePolicy policy = .ok next ↔ store.hasClash policy = false ∧
      next = { store with policies := Keyed.put policy.id policy store.policies } := by
  have isNamed : store.policyIdentifier policy.id = .ok policy.id :=
    policyIdentifier_eq_ok_iff.2 (inMemory ▸ rfl)
  have isKept : store.kept policy = .ok policy := by
    unfold kept
    rw [inMemory]
  unfold savePolicy
  rw [isNamed, Except.ok_bind]
  dsimp only
  cases clashes : store.hasClash policy with
  | true =>
      rw [if_pos rfl]
      refine ⟨fun impossible => ?_, fun ⟨impossible, _⟩ => Bool.noConfusion impossible⟩
      cases impossible
  | false =>
      rw [if_neg Bool.false_ne_true, isKept, Except.ok_bind]
      exact ⟨fun saved => ⟨rfl, (Except.ok.inj saved).symm⟩,
        fun ⟨_, same⟩ => congrArg Except.ok same.symm⟩

/-- Rules are saved in memory exactly when each of them belongs to a policy that is there. -/
theorem saveRules_memory_iff (inMemory : store.backend = .memory) {rules : List PolicyRule} :
    store.saveRules rules = .ok next ↔
      (∀ rule ∈ rules, store.policies.has rule.policyId = true) ∧
        next = { store with
          rules := Keyed.puts (fun _ => true) PolicyRule.id id rules store.rules } := by
  have isOwned (rule : PolicyRule) : store.checkOwner rule rule = .ok () ↔
      store.policies.has rule.policyId = true := by
    unfold checkOwner
    split
    · rename_i isThere
      exact ⟨fun _ => isThere, fun _ => rfl⟩
    · rename_i isMissing
      refine ⟨fun impossible => ?_, fun isThere => absurd isThere isMissing⟩
      cases impossible
  simp only [← isOwned]
  unfold saveRules
  rw [inMemory, Except.bind_eq_ok_iff]
  constructor
  · rintro ⟨done, areOwned, saved⟩
    cases saved
    exact ⟨Except.forM_eq_ok_iff.1 areOwned, by rw [← inMemory]; rfl⟩
  · rintro ⟨areOwned, rfl⟩
    exact ⟨(), Except.forM_eq_ok_iff.2 areOwned, by rw [← inMemory]; rfl⟩

/-- In memory the policy of an identifier is taken away. -/
theorem deletePolicy_memory (inMemory : store.backend = .memory) {id : String} {answer : Bool}
    (deleted : store.deletePolicy (.str id) = .ok (next, answer)) :
    next = { store with policies := store.policies.erase id } := by
  rcases deletePolicy_eq_ok deleted with ⟨unnamed, _, _⟩ | ⟨known, isNamed, _, rfl, _⟩
  · rw [inMemory] at unnamed
    cases unnamed
  · rw [inMemory, Backend.identifier_memory_iff] at isNamed
    rw [Value.str.inj isNamed]

/-- In memory the rule of an identifier is taken away. -/
theorem deleteRule_memory (inMemory : store.backend = .memory) {id : String} {answer : Bool}
    (deleted : store.deleteRule (.str id) = .ok (next, answer)) :
    next = { store with rules := store.rules.erase id } := by
  rcases deleteRule_eq_ok deleted with ⟨unnamed, _, _⟩ | ⟨known, isNamed, rfl, _⟩
  · rw [inMemory] at unnamed
    cases unnamed
  · rw [inMemory, Backend.identifier_memory_iff] at isNamed
    rw [Value.str.inj isNamed]

theorem Sound.nodup_ids_rulesWithin (sound : store.Sound) (policyId : String) :
    ((PolicyRule.sorted (store.rulesWithin policyId)).map PolicyRule.id).Nodup :=
  ((List.mergeSort_perm _ _).map PolicyRule.id).nodup_iff.2
    (sound.rules.nodup_keys.sublist (List.filter_sublist.map PolicyRule.id))

/-- The rules of a policy are listed by their numbers, then by their identifiers. -/
theorem Sound.isListing_rulesWithin (sound : store.Sound) (policyId : String) :
    IsListing PolicyRule.place
      (fun rule => rule ∈ store.rules.values ∧ rule.policyId = policyId)
      (PolicyRule.sorted (store.rulesWithin policyId)) := by
  refine ⟨?_, fun rule => PolicyRule.mem_sorted.trans mem_rulesWithin⟩
  have ordered := sound.ordered_sorted (sound.rules.nodup_values.filter _)
    fun _ member => List.mem_of_mem_filter (p := fun rule => rule.policyId == policyId) member
  refine ordered.imp_of_mem fun {rule other} member otherMember less => ?_
  have isOwn := (mem_rulesWithin.1 (PolicyRule.mem_sorted.1 member)).2
  have isOwnToo := (mem_rulesWithin.1 (PolicyRule.mem_sorted.1 otherMember)).2
  rw [PolicyRule.placeOfAll, PolicyRule.placeOfAll, isOwn, isOwnToo,
    Prod.Lex.toLex_lt_toLex] at less
  rcases less with impossible | ⟨_, less⟩
  · exact absurd impossible (lt_irrefl _)
  · exact less

end PolicyStore

end Authorization

/-!
## Roles

A role is kept as it is given, too, and an assignment is a pair of the texts of a user and a role.
-/

namespace Authorization.RoleStore

variable {store next : RoleStore}

/-- No operation changes where a sound store keeps its records. -/
theorem Step.sameBackend (sound : store.Sound) (step : store.Step next) :
    next.backend = store.backend := by
  cases step with
  | addPermissions values =>
      obtain ⟨_, permissions, isNext⟩ := sound.addPermissions values
      rw [isNext]
  | saveRole saved =>
      obtain ⟨_, _, _, _, _, _, rfl⟩ := saveRole_eq_ok saved
      rfl
  | deleteRole deleted =>
      rcases deleteRole_eq_ok deleted with ⟨_, _, _, rfl, _⟩ | ⟨_, _, _, _, _, rfl, _⟩
      · rfl
      · rfl
  | assign assigned _ =>
      rcases assign_eq_ok assigned with ⟨rfl, _⟩ | ⟨_, _, _, _, _, rfl, _⟩
      · rfl
      · rfl
  | revoke revoked =>
      rcases revoke_eq_ok revoked with ⟨rfl, _⟩ | ⟨_, _, _, _, _, rfl, _⟩
      · rfl
      · rfl

/-! ### Roles -/

/-- A role in memory is found under its identifier and under nothing else. -/
theorem role?_memory_iff (inMemory : store.backend = .memory) (sound : store.Sound) {id : Value}
    {role : Role} : store.role? id = .ok (some role) ↔
      store.roles.get? role.id = some role ∧ id = .str role.id := by
  unfold role?
  rw [inMemory]
  exact Backend.get?_memory_iff sound.roles

/-- In memory a role is kept as it is. -/
theorem saveRole_memory (inMemory : store.backend = .memory) {role : Role}
    (saved : store.saveRole role = .ok next) :
    next = { store with roles := Keyed.put role.id role store.roles } := by
  obtain ⟨kept, identified, isKept, _, _, _, rfl⟩ := saveRole_eq_ok saved
  rw [inMemory, Backend.identifier_memory_iff] at identified
  unfold keptRole at isKept
  rw [inMemory] at isKept
  rw [← Value.str.inj identified] at isKept ⊢
  rw [← Except.ok.inj isKept]

end Authorization.RoleStore
