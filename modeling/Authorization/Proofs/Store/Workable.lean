import Authorization.Proofs.Rule.Making
import Authorization.Proofs.Store.Policy

/-!
# Stores of rules that can be made

A rule is workable when it can be made from its type and configuration. A store of workable rules stays
one as long as the rules that are saved are workable: in memory a rule is kept as it is, and tables keep
the document of its configuration, from which it can be made as well. Since the texts among the keys of a
document are different, that remains so when the rule is read, copied and saved again.
-/

namespace Authorization

variable {catalog : RuleCatalog} {backend : Backend}

/-! ## Workable rules -/

namespace PolicyRule

theorem configOf_sealedConfig (typeTag : String) (config : Value) :
    Check.configOf typeTag (sealedConfig config) = Check.configOf typeTag config := by
  cases config <;> rfl

theorem configOf_configCopy (typeTag : String) (rule : PolicyRule) :
    Check.configOf typeTag rule.configCopy = Check.configOf typeTag rule.config := by
  unfold configCopy
  cases rule.config <;> rfl

/-- A rule can be made from its type and its configuration; in tables the texts among the keys of the
configuration are different. -/
structure Workable [Host] (catalog : RuleCatalog) (backend : Backend) (rule : PolicyRule) : Prop where
  accepted : catalog.Accepts rule.type rule.config
  apart : backend = .tables → ∀ entries, rule.config.entries? = some entries →
    Value.KeysApart entries

/-- Whether a rule is workable is a matter of its type and its configuration. -/
theorem Workable.congr [Host] {rule other : PolicyRule} (workable : rule.Workable catalog backend)
    (sameType : other.type = rule.type) (sameConfig : other.config = rule.config) :
    other.Workable catalog backend := by
  refine ⟨?_, ?_⟩
  · rw [sameType, sameConfig]
    exact workable.accepted
  · rw [sameConfig]
    exact workable.apart

/-- A configuration that is sealed has the keys that it had. -/
theorem keysApart_sealedConfig {config : Value} {entries : List (Value × Value)}
    (apart : ∀ entries, config.entries? = some entries → Value.KeysApart entries)
    (isMapping : (sealedConfig config).entries? = some entries) : Value.KeysApart entries := by
  cases config <;> cases isMapping
  case null => exact Value.keysApart_nil
  case dict => exact apart _ rfl
  case proxy => exact apart _ rfl

/-- A rule with a configuration from which one can be made is workable, when its texts are different. -/
theorem workable_of_accepts [Host] {rule : PolicyRule} {config : Value}
    (isSealed : rule.config = sealedConfig config) (accepts : catalog.Accepts rule.type config)
    (apart : ∀ entries, config.entries? = some entries → Value.KeysApart entries) :
    rule.Workable catalog backend := by
  refine ⟨?_, fun _ entries isMapping => ?_⟩
  · rw [isSealed]
    exact accepts.congr fun typeTag => configOf_sealedConfig typeTag config
  · rw [isSealed] at isMapping
    exact keysApart_sealedConfig apart isMapping

/-- The copy of a configuration can be sealed in its place. -/
theorem Workable.copied [Host] {rule other : PolicyRule} (workable : rule.Workable catalog backend)
    (sameType : other.type = rule.type) (isCopy : other.config = sealedConfig rule.configCopy) :
    other.Workable catalog backend := by
  have sameEntries : rule.configCopy.entries? = rule.config.entries? := by
    unfold configCopy
    cases rule.config <;> rfl
  refine ⟨?_, fun isTables entries isMapping => ?_⟩
  · rw [isCopy, sameType]
    refine workable.accepted.congr fun typeTag => ?_
    rw [configOf_sealedConfig, configOf_configCopy]
  · rw [isCopy] at isMapping
    refine keysApart_sealedConfig (fun own isOwn => ?_) isMapping
    exact workable.apart isTables own (sameEntries ▸ isOwn)

end PolicyRule

/-- A rule can be made from the document of its configuration. -/
theorem accepts_document [Host] {rule : PolicyRule} (accepts : catalog.Accepts rule.type rule.config)
    (apart : ∀ entries, rule.config.entries? = some entries → Value.KeysApart entries)
    {document : Value} (isDocument : Column.document rule.configCopy = .ok document) :
    catalog.Accepts rule.type document := by
  obtain ⟨entries, isRead⟩ := accepts.exists_entries rule.type
  unfold PolicyRule.configCopy at isDocument
  rcases isMapping : rule.config.entries? with _ | own
  · rw [isMapping] at isDocument
    unfold Check.configOf at isRead
    split at isRead
    · rename_i isNull
      rw [isNull] at isDocument accepts
      cases isDocument
      exact accepts
    · rw [isMapping] at isRead
      cases isRead
  · rw [isMapping] at isDocument
    dsimp only at isDocument
    rw [Column.document] at isDocument
    obtain ⟨kept, made, rfl⟩ := Except.map_eq_ok_iff.1 isDocument
    have ownIsRead : Check.configOf rule.type rule.config = .ok own := by
      unfold Check.configOf
      split
      · rename_i isNull
        rw [isNull] at isMapping
        cases isMapping
      · rw [isMapping]
    have carried := Check.carriedBy_document (apart own isMapping) made
    exact accepts.of_carriedBy ownIsRead
      (rfl : Check.configOf rule.type (.dict kept) = .ok kept) carried

namespace PolicyStore

variable {store next : PolicyStore}

/-- What tables keep of a rule: its description and its flag as their columns take them, and the document
of its configuration. -/
theorem keptRule_tables {rule kept : PolicyRule} (isTables : store.backend = .tables)
    (isKept : store.keptRule rule = .ok kept) :
    ∃ description document flag active, Column.text rule.description = .ok description ∧
      Column.document rule.configCopy = .ok document ∧ Column.flag rule.active = .ok flag ∧
      Column.required flag = .ok active ∧
      kept = { rule with description, active, config := PolicyRule.sealedConfig document } := by
  unfold PolicyStore.keptRule at isKept
  rw [isTables] at isKept
  obtain ⟨description, isText, isKept⟩ := Except.bind_eq_ok_iff.1 isKept
  obtain ⟨document, isDocument, isKept⟩ := Except.bind_eq_ok_iff.1 isKept
  obtain ⟨flag, isFlag, isKept⟩ := Except.bind_eq_ok_iff.1 isKept
  obtain ⟨_, _, isKept⟩ := Except.bind_eq_ok_iff.1 isKept
  obtain ⟨order, inColumn, isKept⟩ := Except.bind_eq_ok_iff.1 isKept
  obtain ⟨active, isActive, isKept⟩ := Except.bind_eq_ok_iff.1 isKept
  obtain ⟨finite, isFinite, isKept⟩ := Except.bind_eq_ok_iff.1 isKept
  have sameOrder : order = rule.order := by
    unfold Column.integer at inColumn
    split at inColumn
    · exact (Except.ok.inj inColumn).symm
    · cases inColumn
  have sameDocument : finite = document := by
    unfold Column.finite at isFinite
    split at isFinite
    · exact (Except.ok.inj isFinite).symm
    · cases isFinite
  cases isKept
  refine ⟨description, document, flag, active, isText, isDocument, isFlag, isActive, ?_⟩
  rw [sameOrder, sameDocument]

/-- What a store keeps of a workable rule is workable. -/
theorem workable_keptRule [Host] {rule kept : PolicyRule} (isBackend : store.backend = backend)
    (workable : rule.Workable catalog backend) (isKept : store.keptRule rule = .ok kept) :
    kept.Workable catalog backend := by
  cases backend with
  | memory =>
      unfold keptRule at isKept
      rw [isBackend] at isKept
      cases isKept
      exact workable
  | tables =>
      obtain ⟨_, _, _, _, _, isDocument, _, _, rfl⟩ := keptRule_tables isBackend isKept
      have accepts := accepts_document workable.accepted (workable.apart rfl) isDocument
      exact PolicyRule.workable_of_accepts rfl accepts fun _ isMapping =>
        Column.keysApart_document isDocument isMapping

/-- What tables keep of a rule has different texts as keys. -/
theorem keysApart_keptRule {rule kept : PolicyRule} (isTables : store.backend = .tables)
    (isKept : store.keptRule rule = .ok kept) {entries : List (Value × Value)}
    (isMapping : kept.config.entries? = some entries) : Value.KeysApart entries := by
  obtain ⟨_, _, _, _, _, isDocument, _, _, rfl⟩ := keptRule_tables isTables isKept
  exact PolicyRule.keysApart_sealedConfig (fun _ => Column.keysApart_document isDocument) isMapping

/-! ## Workable stores -/

/-- A store with a given backend, all rules of which are workable. -/
structure Workable [Host] (catalog : RuleCatalog) (backend : Backend) (store : PolicyStore) : Prop where
  isBackend : store.backend = backend
  rules : ∀ rule ∈ store.rules.values, rule.Workable catalog backend

/-- A store is workable when its rules can be made, and in tables each of them is what is kept of one. -/
theorem workable_of_kept [Host]
    (accepts : ∀ rule ∈ store.rules.values, catalog.Accepts rule.type rule.config)
    (areKept : store.backend = .tables → ∀ rule ∈ store.rules.values, ∃ given,
      store.keptRule given = .ok rule) : store.Workable catalog store.backend := by
  refine ⟨rfl, fun rule member => ⟨accepts rule member, fun isTables entries isMapping => ?_⟩⟩
  obtain ⟨given, isKept⟩ := areKept isTables rule member
  exact keysApart_keptRule isTables isKept isMapping

namespace Workable

variable [Host] (workable : store.Workable catalog backend)

include workable

theorem savePolicy {policy : Policy} (saved : store.savePolicy policy = .ok next) :
    next.Workable catalog backend := by
  obtain ⟨_, _, _, _, _, _, _, rfl⟩ := savePolicy_eq_ok saved
  exact ⟨workable.isBackend, workable.rules⟩

theorem deletePolicy {id : Value} {answer : Bool}
    (deleted : store.deletePolicy id = .ok (next, answer)) : next.Workable catalog backend := by
  rcases deletePolicy_eq_ok deleted with ⟨_, rfl, _⟩ | ⟨_, _, _, rfl, _⟩
  · exact workable
  · exact ⟨workable.isBackend, workable.rules⟩

theorem deleteRule {id : Value} {answer : Bool}
    (deleted : store.deleteRule id = .ok (next, answer)) : next.Workable catalog backend := by
  rcases deleteRule_eq_ok deleted with ⟨_, rfl, _⟩ | ⟨known, _, rfl, _⟩
  · exact workable
  · refine ⟨workable.isBackend, fun rule member => workable.rules rule ?_⟩
    obtain ⟨entry, entryMember, rfl⟩ := List.mem_map.1 member
    exact List.mem_map_of_mem (List.mem_of_mem_filter entryMember)

theorem saveRule {rule : PolicyRule} (ruleWorkable : rule.Workable catalog backend)
    (saved : store.saveRule rule = .ok next) : next.Workable catalog backend := by
  obtain ⟨kept, _, _, isKept, _, rfl⟩ := saveRule_eq_ok saved
  have namedWorkable := @PolicyRule.Workable.congr catalog backend _ rule
    { rule with id := kept.id, policyId := kept.policyId } ruleWorkable rfl rfl
  refine ⟨workable.isBackend, fun other member => ?_⟩
  obtain ⟨entry, entryMember, rfl⟩ := List.mem_map.1 member
  rcases Keyed.mem_of_mem_put entryMember with rfl | old
  · exact workable_keptRule workable.isBackend namedWorkable isKept
  · exact workable.rules _ (List.mem_map_of_mem old)

/-- Workable rules can be saved. -/
theorem saveRules {rules : List PolicyRule}
    (rulesWorkable : ∀ rule ∈ rules, rule.Workable catalog backend)
    (saved : store.saveRules rules = .ok next) : next.Workable catalog backend := by
  rw [saveRules_eq_foldlM] at saved
  exact foldlM_keeps_of_mem (fun rule member _ _ workable savedRule =>
    Workable.saveRule workable (rulesWorkable rule member) savedRule) workable saved

end Workable

end PolicyStore

end Authorization
