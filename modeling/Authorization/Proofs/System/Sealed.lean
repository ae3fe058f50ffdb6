import Authorization.Proofs.Store.Workable
import Authorization.Proofs.System.Storing

/-!
# Configurations that come out of a copy as they were

The configuration of a rule that has been made of given fields is sealed, and to copy it and to seal the
copy gives it back. A store that holds such rules only keeps to it as long as the rules that are saved are
such rules; those that administrators save are, and so is every record of a rule. So a system in use has
such rules only.
-/

namespace Authorization

/-! ## Rules -/

namespace PolicyRule

/-- A copy of the configuration that is sealed is the configuration. -/
def Sealed (rule : PolicyRule) : Prop :=
  sealedConfig rule.configCopy = rule.config

variable {rule other : PolicyRule}

theorem Sealed.congr (isSealed : rule.Sealed) (sameConfig : other.config = rule.config) :
    other.Sealed := by
  have sameCopy : other.configCopy = rule.configCopy := by
    unfold configCopy
    rw [sameConfig]
  unfold Sealed
  rw [sameCopy, sameConfig]
  exact isSealed

theorem sealed_of_sealedConfig {given : Value} (isSealed : rule.config = sealedConfig given) :
    rule.Sealed := by
  unfold Sealed configCopy
  rw [isSealed]
  cases given <;> rfl

/-- A rule that is made of given fields has a sealed configuration. -/
theorem sealed_of_ofBindings {bindings : Bindings} (isMade : ofBindings bindings = .ok rule) :
    rule.Sealed := by
  obtain ⟨id, _, isMade⟩ := Except.bind_eq_ok_iff.1 isMade
  obtain ⟨policyId, _, isMade⟩ := Except.bind_eq_ok_iff.1 isMade
  obtain ⟨name, _, isMade⟩ := Except.bind_eq_ok_iff.1 isMade
  obtain ⟨type, _, isMade⟩ := Except.bind_eq_ok_iff.1 isMade
  obtain ⟨order, _, isMade⟩ := Except.bind_eq_ok_iff.1 isMade
  cases isMade
  exact sealed_of_sealedConfig rfl

/-- What administrators save has a sealed configuration where what is stored has. -/
theorem Vetted.sealed {accepts : String → Value → Prop} (vetted : rule.Vetted accepts Sealed) :
    rule.Sealed := by
  cases vetted with
  | tried _ _ isSealed => exact sealed_of_sealedConfig isSealed
  | retyped stored sameConfig _ => exact stored.congr sameConfig
  | kept stored _ sameConfig => exact stored.congr sameConfig
  | copied _ _ isCopy => exact sealed_of_sealedConfig isCopy

end PolicyRule

/-! ## Stores -/

namespace PolicyStore

variable {store next : PolicyStore}

/-- All rules have sealed configurations. -/
def Sealed (store : PolicyStore) : Prop :=
  ∀ rule ∈ store.rules.values, rule.Sealed

theorem sealed_of_ruleOf {value : Value} {rule : PolicyRule} (isRule : ruleOf value = .ok rule) :
    rule.Sealed := by
  unfold ruleOf at isRule
  split at isRule
  · rename_i found
    cases isRule
    unfold PolicyRule.ofValue? at found
    split at found
    · rename_i fields
      rcases made : PolicyRule.ofBindings fields with error | same
      · rw [made] at found
        cases found
      · rw [made] at found
        cases found
        exact PolicyRule.sealed_of_ofBindings made
    · cases found
  · cases isRule

/-- What a store keeps of a rule with a sealed configuration has one. -/
theorem sealed_keptRule {rule kept : PolicyRule} (isSealed : rule.Sealed)
    (isKept : store.keptRule rule = .ok kept) : kept.Sealed := by
  cases isBackend : store.backend with
  | memory =>
      unfold keptRule at isKept
      rw [isBackend] at isKept
      cases isKept
      exact isSealed
  | tables =>
      obtain ⟨_, _, _, _, _, _, _, _, rfl⟩ := keptRule_tables isBackend isKept
      exact PolicyRule.sealed_of_sealedConfig rfl

namespace Sealed

variable (isSealed : store.Sealed)

include isSealed

theorem savePolicy {policy : Policy} (saved : store.savePolicy policy = .ok next) :
    next.Sealed := by
  obtain ⟨_, _, _, _, _, _, _, rfl⟩ := savePolicy_eq_ok saved
  exact isSealed

theorem deletePolicy {id : Value} {answer : Bool}
    (deleted : store.deletePolicy id = .ok (next, answer)) : next.Sealed := by
  rcases deletePolicy_eq_ok deleted with ⟨_, rfl, _⟩ | ⟨_, _, _, rfl, _⟩
  · exact isSealed
  · exact isSealed

theorem deleteRule {id : Value} {answer : Bool}
    (deleted : store.deleteRule id = .ok (next, answer)) : next.Sealed := by
  rcases deleteRule_eq_ok deleted with ⟨_, rfl, _⟩ | ⟨known, _, rfl, _⟩
  · exact isSealed
  · intro rule member
    obtain ⟨entry, entryMember, rfl⟩ := List.mem_map.1 member
    exact isSealed _ (List.mem_map_of_mem (List.mem_of_mem_filter entryMember))

theorem saveRule {rule : PolicyRule} (ruleSealed : rule.Sealed)
    (saved : store.saveRule rule = .ok next) : next.Sealed := by
  obtain ⟨kept, _, _, isKept, _, rfl⟩ := saveRule_eq_ok saved
  have namedSealed := @PolicyRule.Sealed.congr rule
    { rule with id := kept.id, policyId := kept.policyId } ruleSealed rfl
  intro other member
  obtain ⟨entry, entryMember, rfl⟩ := List.mem_map.1 member
  rcases Keyed.mem_of_mem_put entryMember with rfl | old
  · exact sealed_keptRule namedSealed isKept
  · exact isSealed _ (List.mem_map_of_mem old)

theorem saveRules {rules : List PolicyRule} (rulesSealed : ∀ rule ∈ rules, rule.Sealed)
    (saved : store.saveRules rules = .ok next) : next.Sealed := by
  rw [saveRules_eq_foldlM] at saved
  exact foldlM_keeps_of_mem (fun rule member _ _ isSealed savedRule =>
    Sealed.saveRule isSealed (rulesSealed rule member) savedRule) isSealed saved

theorem saveRuleValues {values : List Value}
    (saved : values.foldlM (fun found value => ruleOf value >>= found.saveRule) store = .ok next) :
    next.Sealed := by
  refine foldlM_keeps (fun isSealed stepped => ?_) isSealed saved
  obtain ⟨rule, isRule, stepped⟩ := Except.bind_eq_ok_iff.1 stepped
  exact isSealed.saveRule (sealed_of_ruleOf isRule) stepped

end Sealed

/-- A store in memory that is made of given records has rules with sealed configurations. -/
theorem sealed_of_ofArguments {arguments : Arguments}
    (made : PolicyStore.ofArguments arguments = .ok store) : store.Sealed := by
  obtain ⟨bindings, _, made⟩ := Except.bind_eq_ok_iff.1 made
  obtain ⟨policies, _, made⟩ := Except.bind_eq_ok_iff.1 made
  obtain ⟨first, saved, made⟩ := Except.bind_eq_ok_iff.1 made
  obtain ⟨rules, _, made⟩ := Except.bind_eq_ok_iff.1 made
  have noRules : ({} : PolicyStore).Sealed := List.forall_mem_nil _
  have firstSealed : first.Sealed := by
    refine foldlM_keeps (fun isSealed stepped => ?_) noRules saved
    obtain ⟨policy, _, stepped⟩ := Except.bind_eq_ok_iff.1 stepped
    exact isSealed.savePolicy stepped
  exact firstSealed.saveRuleValues made

end PolicyStore

/-! ## Systems -/

open Service

/-- That all rules have sealed configurations is kept by whatever is saved. -/
theorem tending_sealed [Host] : Tending (System.Storing (fun _ => True) PolicyStore.Sealed)
    (fun _ _ => True) PolicyRule.Sealed where
  toEnduring := System.Storing.enduring (fun _ _ _ _ => trivial)
    (fun _ _ _ isSealed _ saved => isSealed.savePolicy saved)
    (fun _ _ _ _ isSealed deleted => isSealed.deletePolicy deleted)
    fun _ _ _ _ isSealed deleted => isSealed.deleteRule deleted
  tried _ _ _ _ _ := trivial
  stored _ storing := storing.policies
  saveRules _ keeps yields := System.Storing.keeps_saveRules keeps yields
    fun _ _ _ isSealed vetted saved =>
      isSealed.saveRules (fun rule member => (vetted rule member).sealed) saved
  saveRuleValues := System.Storing.keeps_saveRuleValues fun _ _ _ isSealed saved =>
    isSealed.saveRuleValues saved

/-- In a system in use that was put together with a policy store in memory, all rules have sealed
configurations. -/
theorem System.Reaches.sealed [Host] {parts : Parts} {start system : System}
    (policies : parts.policies.Accepted) (inMemory : parts.policies.backend = .memory)
    (assembled : assemble parts = .ok start) (ids : IdSource)
    (reaches : System.Reaches { start with ids } system) : system.policies.Sealed := by
  have isSealed : parts.policies.Sealed := by
    cases policies with
    | made _ isMade => exact PolicyStore.sealed_of_ofArguments isMade
    | tables isTables _ =>
        rw [inMemory] at isTables
        cases isTables
  have started : start.Storing (fun _ => True) PolicyStore.Sealed :=
    .of_assemble (fun _ _ _ _ => trivial) trivial isSealed assembled
  have storing := reaches.tends tending_sealed
    ⟨started.unplanned, started.closed, trivial, started.policies⟩
  exact storing.policies

end Authorization
