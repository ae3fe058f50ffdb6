import Authorization.Proofs.Rule.Making
import Authorization.Proofs.Store.Order
import Authorization.Proofs.Store.Policy
import Authorization.Registry.Basic

/-!
# What a snapshot holds

The chain of a policy is made of its active rules in increasing order, each by the factory from its type
and configuration; the first that cannot be made rejects the chain. A snapshot holds the chain of every
stored policy, an issue for each that is rejected, and for a key of an organization the chain of the
active policy that has an active rule, or else the fixed one. All of this depends on the set of stored
records, and not on the order in which they came.
-/

namespace Authorization

/-- The active rules of a policy among some rules, each once, in increasing order of their numbers, then
of their identifiers. -/
structure PolicyRule.AreActive (rules : List PolicyRule) (policyId : String)
    (active : List PolicyRule) : Prop where
  increasing : active.Pairwise fun rule other => rule.place < other.place
  members : ∀ rule, rule ∈ active ↔
    rule ∈ rules ∧ rule.policyId = policyId ∧ rule.active.truthy = true

/-- The factory makes an entry of a chain from the type and the configuration of a stored rule. -/
def RuleCatalog.Makes [Host] (catalog : RuleCatalog) (rule : PolicyRule) (entry : ChainRule) : Prop :=
  ∃ made, catalog.create (.str rule.type) rule.config = .ok made ∧
    entry = ChainRule.of made (.str rule.name) (.str rule.id)

namespace Snapshot

/-- What an issue says of a rule that cannot be made. -/
def refusal (rule : PolicyRule) (error : Error) : String :=
  "rule '" ++ rule.name ++ "' (" ++ rule.type ++ "): " ++ error.message

/-- The chain of a policy with some active rules, and the issue when it is rejected. -/
inductive Builds [Host] (catalog : RuleCatalog) (policy : Policy) :
    List PolicyRule → PolicyChain → Option BuildIssue → Prop
  | accepted {active : List PolicyRule} {made : List ChainRule}
      (makes : List.Forall₂ catalog.Makes active made) :
      Builds catalog policy active
        { key := .str policy.key, rules := made, source := .stored, policyId := .str policy.id
          organization := .str policy.organization } none
  | rejected {before after : List PolicyRule} {rule : PolicyRule} {error : Error}
      (makes : ∀ other ∈ before, ∃ entry, catalog.Makes other entry)
      (fails : catalog.create (.str rule.type) rule.config = .error error) :
      Builds catalog policy (before ++ rule :: after)
        (.rejected (.str policy.key) (.str (refusal rule error)) (.str policy.id)
          (.str policy.organization))
        (some ⟨policy.id, policy.key, policy.organization, rule.id, refusal rule error⟩)

/-! ## The rules of a chain -/

theorem makeRules_eq_ok_iff [Host] {catalog : RuleCatalog} {active : List PolicyRule}
    {made : List ChainRule} :
    makeRules catalog active = .ok made ↔ List.Forall₂ catalog.Makes active made := by
  induction active generalizing made with
  | nil =>
      rw [makeRules, List.forall₂_nil_left_iff, Except.ok.injEq, eq_comm]
  | cons rule rest inductionHypothesis =>
      rw [makeRules, List.forall₂_cons_left_iff]
      rcases created : catalog.create (.str rule.type) rule.config with error | first
      · refine ⟨nofun, ?_⟩
        rintro ⟨entry, _, ⟨made, creates, _⟩, _⟩
        rw [created] at creates
        cases creates
      · dsimp only
        rw [Except.map_eq_ok_iff]
        constructor
        · rintro ⟨others, othersOk, rfl⟩
          exact ⟨_, others, ⟨first, created, rfl⟩, inductionHypothesis.1 othersOk, rfl⟩
        · rintro ⟨entry, others, ⟨made, creates, rfl⟩, othersOk, rfl⟩
          rw [created] at creates
          cases creates
          exact ⟨others, inductionHypothesis.2 othersOk, rfl⟩

theorem makeRules_eq_error_iff [Host] {catalog : RuleCatalog} {active : List PolicyRule}
    {rule : PolicyRule} {error : Error} :
    makeRules catalog active = .error (rule, error) ↔
      ∃ before after, active = before ++ rule :: after ∧
        (∀ other ∈ before, ∃ entry, catalog.Makes other entry) ∧
        catalog.create (.str rule.type) rule.config = .error error := by
  induction active with
  | nil =>
      refine ⟨nofun, ?_⟩
      rintro ⟨before, after, equality, _⟩
      exact absurd equality.symm (List.append_ne_nil_of_right_ne_nil _ (List.cons_ne_nil _ _))
  | cons first rest inductionHypothesis =>
      rw [makeRules]
      rcases created : catalog.create (.str first.type) first.config with failure | made
      · constructor
        · intro equality
          cases equality
          exact ⟨[], rest, rfl, List.forall_mem_nil _, created⟩
        · rintro ⟨before, after, equality, makes, fails⟩
          cases before with
          | nil =>
              cases equality
              rw [created] at fails
              cases fails
              rfl
          | cons other others =>
              cases equality
              obtain ⟨entry, made, creates, _⟩ := makes first (.head _)
              rw [created] at creates
              cases creates
      · have step : (makeRules catalog rest).map
            (ChainRule.of made (.str first.name) (.str first.id) :: ·) = .error (rule, error) ↔
            makeRules catalog rest = .error (rule, error) := by
          cases makeRules catalog rest <;> simp [Except.map]
        dsimp only
        rw [step, inductionHypothesis]
        constructor
        · rintro ⟨before, after, rfl, makes, fails⟩
          exact ⟨first :: before, after, rfl,
            List.forall_mem_cons.2 ⟨⟨_, made, created, rfl⟩, makes⟩, fails⟩
        · rintro ⟨before, after, equality, makes, fails⟩
          cases before with
          | nil =>
              cases equality
              rw [created] at fails
              cases fails
          | cons other others =>
              cases equality
              exact ⟨others, after, rfl, (List.forall_mem_cons.1 makes).2, fails⟩

/-- The chain of a policy is the one that its active rules build. -/
theorem chainOf_eq_iff [Host] {catalog : RuleCatalog} {policy : Policy} {rules : List PolicyRule}
    {chain : PolicyChain} {issue? : Option BuildIssue} :
    chainOf catalog policy rules = (chain, issue?) ↔
      Builds catalog policy (PolicyRule.activeOf rules policy.id) chain issue? := by
  unfold chainOf
  rcases made : makeRules catalog (PolicyRule.activeOf rules policy.id) with ⟨rule, error⟩ | entries
  · constructor
    · intro equality
      cases equality
      obtain ⟨before, after, isActive, makes, fails⟩ := makeRules_eq_error_iff.1 made
      rw [isActive]
      exact .rejected makes fails
    · intro builds
      generalize PolicyRule.activeOf rules policy.id = active at made builds
      cases builds with
      | accepted makes =>
          rw [makeRules_eq_ok_iff.2 makes] at made
          cases made
      | rejected makes fails =>
          rw [makeRules_eq_error_iff.2 ⟨_, _, rfl, makes, fails⟩] at made
          cases made
          rfl
  · constructor
    · intro equality
      cases equality
      exact .accepted (makeRules_eq_ok_iff.1 made)
    · intro builds
      generalize PolicyRule.activeOf rules policy.id = active at made builds
      cases builds with
      | accepted makes =>
          rw [makeRules_eq_ok_iff.2 makes] at made
          cases made
          rfl
      | rejected makes fails =>
          rw [makeRules_eq_error_iff.2 ⟨_, _, rfl, makes, fails⟩] at made
          cases made

end Snapshot

/-! ## Active rules -/

namespace PolicyRule

variable {rules : List PolicyRule} {policyId : String}

theorem mem_activeOf {rule : PolicyRule} : rule ∈ activeOf rules policyId ↔
    rule ∈ rules ∧ rule.policyId = policyId ∧ rule.active.truthy = true := by
  rw [activeOf, List.mem_mergeSort, List.mem_filter, Bool.and_eq_true, beq_iff_eq]

/-- The active rules of a policy are sorted into strictly increasing order. -/
theorem areActive_activeOf (distinct : (rules.map id).Nodup) :
    AreActive rules policyId (activeOf rules policyId) := by
  refine ⟨?_, fun rule => mem_activeOf⟩
  have ordered : (activeOf rules policyId).Pairwise fun rule other => rule.place ≤ other.place :=
    pairwise_mergeSort_of_key inOrder_iff _
  have apart : (activeOf rules policyId).Pairwise fun rule other => rule.id ≠ other.id := by
    have nodup : ((activeOf rules policyId).map id).Nodup :=
      ((List.mergeSort_perm _ _).map id).nodup_iff.2
        (distinct.sublist (List.filter_sublist.map id))
    exact List.pairwise_map.1 nodup
  exact ordered.imp₂ (fun rule other ordered apart =>
    lt_of_le_of_ne ordered fun same => apart (id_eq_of_place_eq same)) apart

/-- There is one list of the active rules of a policy. -/
theorem AreActive.unique {left right : List PolicyRule} (leftActive : AreActive rules policyId left)
    (rightActive : AreActive rules policyId right) : left = right :=
  eq_of_pairwise_lt leftActive.increasing rightActive.increasing fun rule =>
    (leftActive.members rule).trans (rightActive.members rule).symm

/-- Which rules of a policy are active depends on the set of its rules. -/
theorem AreActive.congr {others : List PolicyRule}
    (same : ∀ rule, rule.policyId = policyId → (rule ∈ rules ↔ rule ∈ others))
    {active : List PolicyRule} (areActive : AreActive rules policyId active) :
    AreActive others policyId active :=
  ⟨areActive.increasing, fun rule => (areActive.members rule).trans
    (and_congr_left fun ⟨isPolicy, _⟩ => same rule isPolicy)⟩

end PolicyRule

end Authorization

/-!
## Registries that agree with a store

A registry agrees with a policy store when the chain in charge of every key in every organization, the
chain of every policy and the issues are what the set of stored records says. A snapshot that is built
from the records of a sound store agrees with it: no chain hides another, since no key is taken twice.
-/

namespace Authorization

namespace PolicyStore

variable (store : PolicyStore) (catalog : RuleCatalog)

/-- The chain that the stored rules of a policy build, and the issue when it is rejected. -/
def Chains [Host] (policy : Policy) (chain : PolicyChain) (issue? : Option BuildIssue) : Prop :=
  ∃ active, PolicyRule.AreActive store.rules.values policy.id active ∧
    Snapshot.Builds catalog policy active chain issue?

/-- A stored policy is in charge of its key: it is active and has an active rule. -/
structure InCharge (policy : Policy) : Prop where
  stored : policy ∈ store.policies.values
  active : policy.active.truthy = true
  hasRule : ∃ rule ∈ store.rules.values, rule.policyId = policy.id ∧ rule.active.truthy = true

/-- The chain that governs a key in an organization, as the stored records say: the one of the policy in
charge, or else the fixed chain of the key. -/
inductive Governs [Host] (fixed : Keyed String PolicyChain) (key : String) :
    Option String → Option PolicyChain → Prop
  | stored {policy : Policy} {chain : PolicyChain} {issue? : Option BuildIssue}
      (inCharge : store.InCharge policy) (isKey : policy.key = key)
      (chains : store.Chains catalog policy chain issue?) :
      Governs fixed key (some policy.organization) (some chain)
  | fixed {organization : Option String}
      (noOther : ∀ policy, store.InCharge policy → policy.key = key →
        organization ≠ some policy.organization) : Governs fixed key organization (fixed.get? key)

/-- The chain of an identifier, as the stored records say: the one of the policy, active or not. -/
inductive ChainsOf [Host] (id : String) : Option PolicyChain → Prop
  | stored {policy : Policy} {chain : PolicyChain} {issue? : Option BuildIssue}
      (member : policy ∈ store.policies.values) (isId : policy.id = id)
      (chains : store.Chains catalog policy chain issue?) : ChainsOf id (some chain)
  | missing (absent : ∀ policy ∈ store.policies.values, policy.id ≠ id) : ChainsOf id none

end PolicyStore

/-- A registry agrees with a store: its catalog and its fixed chains are given ones, and everything else
is what the stored records say. -/
structure Registry.Agrees [Host] (registry : Registry) (catalog : RuleCatalog)
    (fixed : Keyed String PolicyChain) (store : PolicyStore) : Prop where
  sameCatalog : registry.catalog = catalog
  sameFixed : registry.snapshot.fixed = fixed
  chainFor : ∀ key organization found,
    registry.snapshot.chainFor key organization = found ↔
      store.Governs catalog fixed key organization found
  chainForPolicy : ∀ id found,
    registry.snapshot.chainForPolicy id = found ↔ store.ChainsOf catalog id found
  errors : ∀ issue, issue ∈ registry.snapshot.errors ↔
    ∃ policy ∈ store.policies.values, ∃ chain, store.Chains catalog policy chain (some issue)
  oneIssue : (registry.snapshot.errors.map BuildIssue.policyId).Nodup

namespace Snapshot

variable {catalog : RuleCatalog} {rules : List PolicyRule}

/-! ### The parts of a snapshot -/

/-- The chain that is made for a policy. -/
def chainIn [Host] (catalog : RuleCatalog) (rules : List PolicyRule) (policy : Policy) : PolicyChain :=
  (chainOf catalog policy rules).1

theorem foldl_addPolicy [Host] (policies : List Policy) (snapshot : Snapshot) :
    policies.foldl (addPolicy catalog rules) snapshot =
      { snapshot with
        stored := Keyed.puts (fun policy => governs policy (chainIn catalog rules policy))
          (fun policy => (policy.organization, policy.key)) (chainIn catalog rules) policies
          snapshot.stored
        byPolicy := Keyed.puts (fun _ => true) Policy.id (chainIn catalog rules) policies
          snapshot.byPolicy
        errors := snapshot.errors ++
          policies.flatMap fun policy => (chainOf catalog policy rules).2.toList } := by
  induction policies generalizing snapshot with
  | nil => simp [Keyed.puts]
  | cons policy rest inductionHypothesis =>
      rw [List.foldl_cons, inductionHypothesis]
      simp only [addPolicy, Keyed.puts, List.foldl_cons, chainIn, if_true, List.flatMap_cons,
        List.append_assoc]
      rfl

/-- A policy with an active rule governs its key when it is active, and no other does. -/
theorem governs_iff [Host] (policy : Policy) :
    governs policy (chainIn catalog rules policy) = true ↔
      policy.active.truthy = true ∧
        ∃ rule ∈ rules, rule.policyId = policy.id ∧ rule.active.truthy = true := by
  have hasRule : (∃ rule ∈ rules, rule.policyId = policy.id ∧ rule.active.truthy = true) ↔
      PolicyRule.activeOf rules policy.id ≠ [] := by
    constructor
    · rintro ⟨rule, isActive⟩ empty
      have member := PolicyRule.mem_activeOf.2 isActive
      rw [empty] at member
      cases member
    · intro nonEmpty
      obtain ⟨rule, member⟩ := List.exists_mem_of_ne_nil _ nonEmpty
      exact ⟨rule, PolicyRule.mem_activeOf.1 member⟩
  rcases made : chainOf catalog policy rules with ⟨chain, issue?⟩
  have builds := chainOf_eq_iff.1 made
  rw [governs, Bool.and_eq_true, hasRule, chainIn, made]
  refine and_congr_right fun _ => ?_
  generalize PolicyRule.activeOf rules policy.id = active at builds
  cases builds with
  | accepted makes =>
      cases makes with
      | nil => simp [PolicyChain.isRejected]
      | cons _ _ => simp [PolicyChain.isRejected]
  | rejected _ _ => simp [PolicyChain.isRejected, PolicyChain.rejected]

/-- An issue is reported for each policy whose chain is rejected, once. -/
theorem sublist_issues [Host] (policies : List Policy) :
    ((policies.flatMap fun policy => (chainOf catalog policy rules).2.toList).map
      BuildIssue.policyId).Sublist (policies.map Policy.id) := by
  induction policies with
  | nil => exact List.Sublist.refl []
  | cons policy rest inductionHypothesis =>
      rw [List.flatMap_cons, List.map_append, List.map_cons]
      rcases made : chainOf catalog policy rules with ⟨chain, _ | issue⟩
      · exact inductionHypothesis.cons policy.id
      · have isOwn : issue.policyId = policy.id := by
          have builds := chainOf_eq_iff.1 made
          generalize PolicyRule.activeOf rules policy.id = active at builds
          cases builds
          rfl
        rw [Option.toList_some, List.map_cons, isOwn]
        exact inductionHypothesis.cons_cons policy.id

end Snapshot

namespace PolicyStore

variable {store : PolicyStore} {catalog : RuleCatalog}

theorem mem_policiesIn_null {policy : Policy} :
    policy ∈ store.policiesIn .null ↔ policy ∈ store.policies.values := by
  have isNull : Value.null.equal .null = true := (Value.equal_null_iff .null).2 rfl
  rw [policiesIn, mem_sortedBy, List.mem_filter, isNull, Bool.true_or]
  exact and_iff_left rfl

theorem nodup_policiesIn_null (sound : store.Sound) :
    ((store.policiesIn .null).map Policy.id).Nodup :=
  ((List.mergeSort_perm _ _).map Policy.id).nodup_iff.2
    (sound.policies.nodup_keys.sublist (List.filter_sublist.map Policy.id))

/-- The chain that is made of sorted rules is the one of the stored rules. -/
theorem chains_iff [Host] (sound : store.Sound) {policy : Policy} {chain : PolicyChain}
    {issue? : Option BuildIssue} : store.Chains catalog policy chain issue? ↔
      Snapshot.chainOf catalog policy (PolicyRule.sorted store.rules.values) = (chain, issue?) := by
  have areActive : PolicyRule.AreActive store.rules.values policy.id
      (PolicyRule.activeOf (PolicyRule.sorted store.rules.values) policy.id) :=
    (PolicyRule.areActive_activeOf
      (((List.mergeSort_perm _ _).map PolicyRule.id).nodup_iff.2 sound.rules.nodup_keys)).congr
      fun rule _ => PolicyRule.mem_sorted
  rw [Snapshot.chainOf_eq_iff]
  constructor
  · rintro ⟨active, isActive, builds⟩
    rw [← isActive.unique areActive]
    exact builds
  · intro builds
    exact ⟨_, areActive, builds⟩

end PolicyStore

namespace Registry

variable {store : PolicyStore} {catalog : RuleCatalog} {fixed : Keyed String PolicyChain}

/-- The registry with the snapshot of a store. -/
def ofStore [Host] (catalog : RuleCatalog) (fixed : Keyed String PolicyChain) (version : Nat)
    (store : PolicyStore) : Registry :=
  ⟨catalog, Snapshot.build catalog fixed version (store.policiesIn .null)
    (PolicyRule.sorted store.rules.values)⟩

theorem snapshot_ofStore [Host] (version : Nat) :
    (ofStore catalog fixed version store).snapshot =
      { version, fixed
        stored := Keyed.puts
          (fun policy => Snapshot.governs policy
            (Snapshot.chainIn catalog (PolicyRule.sorted store.rules.values) policy))
          (fun policy => (policy.organization, policy.key))
          (Snapshot.chainIn catalog (PolicyRule.sorted store.rules.values))
          (store.policiesIn .null) []
        byPolicy := Keyed.puts (fun _ => true) Policy.id
          (Snapshot.chainIn catalog (PolicyRule.sorted store.rules.values))
          (store.policiesIn .null) []
        errors := (store.policiesIn .null).flatMap fun policy =>
          (Snapshot.chainOf catalog policy (PolicyRule.sorted store.rules.values)).2.toList } := by
  rw [ofStore, Snapshot.build, Snapshot.foldl_addPolicy, List.nil_append]

/-- The chain that a snapshot holds for a policy is the one of the stored rules. -/
theorem chains_chainIn [Host] (sound : store.Sound) (policy : Policy) : ∃ issue?,
    store.Chains catalog policy
      (Snapshot.chainIn catalog (PolicyRule.sorted store.rules.values) policy) issue? :=
  ⟨_, (PolicyStore.chains_iff sound).2 rfl⟩

theorem inCharge_iff [Host] (catalog : RuleCatalog) {policy : Policy} : store.InCharge policy ↔
    policy ∈ store.policiesIn .null ∧ Snapshot.governs policy
      (Snapshot.chainIn catalog (PolicyRule.sorted store.rules.values) policy) = true := by
  simp only [Snapshot.governs_iff, PolicyStore.mem_policiesIn_null, PolicyRule.mem_sorted]
  exact ⟨fun inCharge => ⟨inCharge.stored, inCharge.active, inCharge.hasRule⟩,
    fun ⟨stored, active, hasRule⟩ => ⟨stored, active, hasRule⟩⟩

theorem pairwise_policiesIn (sound : store.Sound) {κ : Type} (place : Policy → κ)
    (apart : ∀ policy ∈ store.policies.values, ∀ other ∈ store.policies.values,
      place policy = place other → policy = other) :
    (store.policiesIn .null).Pairwise fun policy other => place policy ≠ place other := by
  have distinct : (store.policiesIn .null).Nodup :=
    (PolicyStore.nodup_policiesIn_null sound).of_map Policy.id
  refine distinct.imp_of_mem fun {policy other} member otherMember different same => different ?_
  exact apart policy (PolicyStore.mem_policiesIn_null.1 member) other
    (PolicyStore.mem_policiesIn_null.1 otherMember) same

theorem stored_of_inCharge [Host] (sound : store.Sound) {policy : Policy}
    (inCharge : store.InCharge policy) (version : Nat) :
    (ofStore catalog fixed version store).snapshot.stored.get? (policy.organization, policy.key) =
      some (Snapshot.chainIn catalog (PolicyRule.sorted store.rules.values) policy) := by
  have apart := pairwise_policiesIn sound (fun policy => (policy.organization, policy.key))
    fun policy member other otherMember same =>
      sound.unique policy member other otherMember (congrArg Prod.snd same) (congrArg Prod.fst same)
  obtain ⟨member, governs⟩ := (inCharge_iff catalog).1 inCharge
  rw [snapshot_ofStore]
  exact Keyed.get?_puts_of_mem apart member governs []

/-- Without a policy in charge there is no stored chain. -/
theorem stored_eq_none [Host] {key organization : String}
    (noOther : ∀ policy, store.InCharge policy → policy.key = key →
      policy.organization ≠ organization) (version : Nat) :
    (ofStore catalog fixed version store).snapshot.stored.get? (organization, key) = none := by
  rw [snapshot_ofStore]
  refine Keyed.get?_puts_of_not (fun policy member governs same => ?_) []
  exact noOther policy ((inCharge_iff catalog).2 ⟨member, governs⟩) (congrArg Prod.snd same)
    (congrArg Prod.fst same)

theorem chains_unique [Host] (sound : store.Sound) {policy : Policy} {chain : PolicyChain}
    {issue? : Option BuildIssue} (chains : store.Chains catalog policy chain issue?) :
    Snapshot.chainIn catalog (PolicyRule.sorted store.rules.values) policy = chain :=
  congrArg Prod.fst ((PolicyStore.chains_iff sound).1 chains)

theorem chainFor_ofStore [Host] (sound : store.Sound) (version : Nat) (key : String)
    (organization : Option String) (found : Option PolicyChain) :
    (ofStore catalog fixed version store).snapshot.chainFor key organization = found ↔
      store.Governs catalog fixed key organization found := by
  have fixedChains : (ofStore catalog fixed version store).snapshot.fixed = fixed := by
    rw [snapshot_ofStore]
  have fallsBack (noOther : ∀ policy, store.InCharge policy → policy.key = key →
      organization ≠ some policy.organization) :
      (ofStore catalog fixed version store).snapshot.chainFor key organization =
        fixed.get? key := by
    rw [Snapshot.chainFor, fixedChains]
    cases organization with
    | none => rfl
    | some organization =>
        rw [Option.bind_some, stored_eq_none fun policy inCharge isKey same =>
          noOther policy inCharge isKey (congrArg some same.symm)]
        rfl
  have provides {policy : Policy} (inCharge : store.InCharge policy) (isKey : policy.key = key) :
      (ofStore catalog fixed version store).snapshot.chainFor key (some policy.organization) =
        some (Snapshot.chainIn catalog (PolicyRule.sorted store.rules.values) policy) := by
    rw [Snapshot.chainFor, Option.bind_some, ← isKey, stored_of_inCharge sound inCharge]
    rfl
  constructor
  · rintro rfl
    by_cases isThere : ∃ policy, store.InCharge policy ∧ policy.key = key ∧
        organization = some policy.organization
    · obtain ⟨policy, inCharge, isKey, rfl⟩ := isThere
      obtain ⟨issue?, chains⟩ := chains_chainIn sound policy
      rw [provides inCharge isKey]
      exact .stored inCharge isKey chains
    · have noOther : ∀ policy, store.InCharge policy → policy.key = key →
          organization ≠ some policy.organization := fun policy inCharge isKey same =>
        isThere ⟨policy, inCharge, isKey, same⟩
      rw [fallsBack noOther]
      exact .fixed noOther
  · intro governs
    cases governs with
    | stored inCharge isKey chains => rw [provides inCharge isKey, chains_unique sound chains]
    | fixed noOther => exact fallsBack noOther

theorem chainForPolicy_ofStore [Host] (sound : store.Sound) (version : Nat) (id : String)
    (found : Option PolicyChain) :
    (ofStore catalog fixed version store).snapshot.chainForPolicy id = found ↔
      store.ChainsOf catalog id found := by
  have provides {policy : Policy} (member : policy ∈ store.policies.values) :
      (ofStore catalog fixed version store).snapshot.chainForPolicy policy.id =
        some (Snapshot.chainIn catalog (PolicyRule.sorted store.rules.values) policy) := by
    rw [Snapshot.chainForPolicy, snapshot_ofStore]
    exact Keyed.get?_puts_of_mem
      (pairwise_policiesIn sound Policy.id fun policy member other otherMember same =>
        sound.policies.eq_of_key_eq member otherMember same)
      (PolicyStore.mem_policiesIn_null.2 member) rfl []
  have isMissing (absent : ∀ policy ∈ store.policies.values, policy.id ≠ id) :
      (ofStore catalog fixed version store).snapshot.chainForPolicy id = none := by
    rw [Snapshot.chainForPolicy, snapshot_ofStore]
    exact Keyed.get?_puts_of_not
      (fun policy member _ => absent policy (PolicyStore.mem_policiesIn_null.1 member)) []
  constructor
  · rintro rfl
    by_cases isThere : ∃ policy ∈ store.policies.values, policy.id = id
    · obtain ⟨policy, member, rfl⟩ := isThere
      obtain ⟨issue?, chains⟩ := chains_chainIn sound policy
      rw [provides member]
      exact .stored member rfl chains
    · have absent : ∀ policy ∈ store.policies.values, policy.id ≠ id :=
        fun policy member same => isThere ⟨policy, member, same⟩
      rw [isMissing absent]
      exact .missing absent
  · intro chainsOf
    cases chainsOf with
    | stored member isId chains => rw [← isId, provides member, chains_unique sound chains]
    | missing absent => exact isMissing absent

theorem mem_errors_ofStore [Host] (sound : store.Sound) (version : Nat) (issue : BuildIssue) :
    issue ∈ (ofStore catalog fixed version store).snapshot.errors ↔
      ∃ policy ∈ store.policies.values, ∃ chain,
        store.Chains catalog policy chain (some issue) := by
  rw [snapshot_ofStore, List.mem_flatMap]
  refine exists_congr fun policy => and_congr PolicyStore.mem_policiesIn_null ?_
  rw [Option.mem_toList]
  constructor
  · intro isIssue
    exact ⟨_, (PolicyStore.chains_iff sound).2 (Prod.ext rfl isIssue)⟩
  · rintro ⟨chain, chains⟩
    exact congrArg Prod.snd ((PolicyStore.chains_iff sound).1 chains)

/-- A registry that is built from a sound store agrees with it. -/
theorem agrees_ofStore [Host] (sound : store.Sound) (version : Nat) :
    (ofStore catalog fixed version store).Agrees catalog fixed store where
  sameCatalog := rfl
  sameFixed := by rw [snapshot_ofStore]
  chainFor := chainFor_ofStore sound version
  chainForPolicy := chainForPolicy_ofStore sound version
  errors := mem_errors_ofStore sound version
  oneIssue := by
    rw [snapshot_ofStore]
    exact (PolicyStore.nodup_policiesIn_null sound).sublist
      (Snapshot.sublist_issues (store.policiesIn .null))

end Registry

end Authorization

/-!
### Snapshots without rejected chains

When every stored rule can be made, no chain is rejected: each policy has the chain of its active rules,
there is no issue, and the chains of a table have been made already.
-/

namespace Authorization

variable {catalog : RuleCatalog} {fixed : Keyed String PolicyChain}

namespace Snapshot

/-- All chains of a snapshot. -/
def chains (snapshot : Snapshot) : List PolicyChain :=
  snapshot.fixed.values ++ snapshot.stored.values ++ snapshot.byPolicy.values

theorem chainOf_of_accepts [Host] {rules : List PolicyRule}
    (accepts : ∀ rule ∈ rules, catalog.Accepts rule.type rule.config) (policy : Policy) :
    (chainIn catalog rules policy).isRejected = false ∧ (chainOf catalog policy rules).2 = none := by
  have activeAccepts : ∀ rule ∈ PolicyRule.activeOf rules policy.id,
      catalog.Accepts rule.type rule.config := fun rule member =>
    accepts rule (PolicyRule.mem_activeOf.1 member).1
  rcases made : chainOf catalog policy rules with ⟨chain, issue?⟩
  have builds := chainOf_eq_iff.1 made
  rw [chainIn, made]
  generalize PolicyRule.activeOf rules policy.id = active at activeAccepts builds
  cases builds with
  | accepted makes => exact ⟨rfl, rfl⟩
  | @rejected before after rule error makes fails =>
      obtain ⟨made, creates⟩ := activeAccepts rule (List.mem_append_right _ (.head _))
      rw [creates] at fails
      cases fails

end Snapshot

namespace Registry

variable {store : PolicyStore}

theorem errors_ofStore [Host] (accepts : ∀ rule ∈ store.rules.values, catalog.Accepts rule.type rule.config)
    (version : Nat) : (ofStore catalog fixed version store).snapshot.errors = [] := by
  rw [snapshot_ofStore, List.flatMap_eq_nil_iff]
  intro policy _
  rw [(Snapshot.chainOf_of_accepts (fun rule member =>
    accepts rule (PolicyRule.mem_sorted.1 member)) policy).2, Option.toList_none]

/-- Where every stored rule can be made, only a fixed chain can be a rejected one. -/
theorem isRejected_ofStore [Host]
    (accepts : ∀ rule ∈ store.rules.values, catalog.Accepts rule.type rule.config)
    (fixedAccepted : ∀ chain ∈ fixed.values, chain.isRejected = false) {version : Nat} :
    ∀ chain ∈ (ofStore catalog fixed version store).snapshot.chains, chain.isRejected = false := by
  have made (policy : Policy) := (Snapshot.chainOf_of_accepts (fun rule member =>
    accepts rule (PolicyRule.mem_sorted.1 member)) policy).1
  intro chain member
  rw [Snapshot.chains, snapshot_ofStore, List.mem_append, List.mem_append] at member
  rcases member with (isFixed | isStored) | ofPolicy
  · exact fixedAccepted chain isFixed
  · rcases Keyed.mem_values_puts isStored with old | ⟨policy, _, rfl⟩
    · cases old
    · exact made policy
  · rcases Keyed.mem_values_puts ofPolicy with old | ⟨policy, _, rfl⟩
    · cases old
    · exact made policy

end Registry

/-! #### Fixed chains -/

namespace PolicyTable

theorem isRejected_chainOf [Host] {key : String} {rules : List (Value × Value)} {chain : PolicyChain}
    (made : chainOf catalog key rules = .ok chain) : chain.isRejected = false := by
  obtain ⟨_, _, made⟩ := Except.bind_eq_ok_iff.1 made
  cases made
  rfl

theorem isRejected_addTo [Host] {table : PolicyTable} {found : Keyed String PolicyChain}
    (foundAccepted : ∀ chain ∈ found.values, chain.isRejected = false)
    (made : addTo catalog found table = .ok fixed) :
    ∀ chain ∈ fixed.values, chain.isRejected = false := by
  induction table generalizing found with
  | nil =>
      cases made
      exact foundAccepted
  | cons entry rest inductionHypothesis =>
      obtain ⟨key, rules⟩ := entry
      rw [addTo] at made
      split at made
      · cases made
      · obtain ⟨chain, isMade, made⟩ := Except.bind_eq_ok_iff.1 made
        refine inductionHypothesis (fun other member => ?_) made
        rw [Keyed.values, List.map_append, List.mem_append] at member
        rcases member with old | isNew
        · exact foundAccepted other old
        · rw [List.mem_singleton.1 isNew]
          exact isRejected_chainOf isMade

/-- The chains of a table are never rejected. -/
theorem isRejected_chains [Host] {table : PolicyTable} (made : chains catalog table = .ok fixed) :
    ∀ chain ∈ fixed.values, chain.isRejected = false :=
  isRejected_addTo (List.forall_mem_nil _) made

end PolicyTable

end Authorization
