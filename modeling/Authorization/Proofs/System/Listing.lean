import Authorization.Proofs.Store.Order
import Authorization.Proofs.Store.Policy
import Authorization.Proofs.System.Storing

/-!
# What a policy store lists

A sound policy store lists the records that are asked for, each of them once, strictly in the order of
their places, and deletes a policy unless a rule still belongs to it.

A policy store that was accepted from the start stays one in which every record stands under its own
identifier, no key is taken twice in an organization, and every rule belongs to a policy that is there.
This is so whatever has been called, and whether or not it failed. So the store lists every record that is
asked for once and in order, and refuses to delete exactly those policies that have rules.
-/

namespace Authorization

/-! ## Listings of a sound store -/

/-- A listing holds what is asked for and nothing else, strictly in order, so that nothing is repeated. -/
structure IsListing {α β : Type} [LT β] (place : α → β) (isAskedFor : α → Prop)
    (listed : List α) : Prop where
  ordered : listed.Pairwise fun first second => place first < place second
  complete : ∀ record, record ∈ listed ↔ isAskedFor record

section

variable {α β : Type} [LinearOrder β] {place : α → β} {records listed other : List α}

/-- There is one listing of what is asked for. -/
theorem IsListing.unique {isAskedFor : α → Prop} (isListing : IsListing place isAskedFor listed)
    (otherIsListing : IsListing place isAskedFor other) : listed = other :=
  eq_of_pairwise_lt isListing.ordered otherIsListing.ordered fun record =>
    (isListing.complete record).trans (otherIsListing.complete record).symm

/-- Records without repetition, of which no two have one place, stand strictly in order once they are
sorted. -/
theorem pairwise_lt_of_perm (nodup : records.Nodup)
    (apart : ∀ a ∈ records, ∀ b ∈ records, place a = place b → a = b) (perm : listed.Perm records)
    (ordered : listed.Pairwise fun a b => place a ≤ place b) :
    listed.Pairwise fun a b => place a < place b := by
  have listedNodup : listed.Nodup := perm.nodup_iff.2 nodup
  refine (ordered.and listedNodup).imp_of_mem fun {a b} aMember bMember related => ?_
  obtain ⟨inOrder, different⟩ := related
  have distinct : place a ≠ place b := by
    intro same
    exact different (apart a (perm.mem_iff.1 aMember) b (perm.mem_iff.1 bMember) same)
  exact lt_of_le_of_ne inOrder distinct

end

/-- The place of a policy among all policies: by organization, then by key, then by identifier. -/
def Policy.place (policy : Policy) : List (List ℕ) :=
  policy.sortKey.map codesOf

theorem Policy.id_eq_of_place_eq {left right : Policy} (same : left.place = right.place) :
    left.id = right.id := by
  have sameKey : left.sortKey = right.sortKey :=
    List.map_injective_iff.2 codesOf_injective same
  simp only [Policy.sortKey, List.cons.injEq] at sameKey
  exact sameKey.2.2.1

namespace PolicyStore

variable {store : PolicyStore}

theorem mem_policiesIn {organization : Option String} {policy : Policy} :
    policy ∈ store.policiesIn (.ofOption organization) ↔
      policy ∈ store.policies.values ∧
        ∀ wanted, organization = some wanted → policy.organization = wanted := by
  rw [policiesIn, mem_sortedBy, List.mem_filter, Bool.or_eq_true]
  apply and_congr_right
  intro _
  cases organization with
  | none =>
      have isNull : (Value.ofOption none).equal .null = true := (Value.equal_null_iff _).2 rfl
      simp [isNull]
  | some wanted =>
      have notNull : ¬(Value.str wanted).equal .null = true := by
        rw [Value.equal_null_iff]
        exact Value.noConfusion
      simp [notNull, Value.ofOption]

/-- The policies of an organization, or all of them, are listed once each and in order. -/
theorem Sound.isListing_policiesIn (sound : store.Sound) (organization : Option String) :
    IsListing Policy.place
      (fun policy => policy ∈ store.policies.values ∧
        ∀ wanted, organization = some wanted → policy.organization = wanted)
      (store.policiesIn (.ofOption organization)) := by
  refine ⟨?_, fun policy => mem_policiesIn⟩
  unfold policiesIn
  generalize hasBeen : store.policies.values.filter _ = found
  have stored : ∀ policy ∈ found, policy ∈ store.policies.values := by
    intro policy member
    rw [← hasBeen] at member
    exact List.mem_of_mem_filter member
  have nodup : found.Nodup := hasBeen ▸ sound.policies.nodup_values.filter _
  have ordered := pairwise_mergeSort_of_key
    (fun a b : Policy => (keysInOrder_iff a.sortKey b.sortKey).trans not_lt) found
  refine pairwise_lt_of_perm nodup (fun a aMember b bMember same => ?_)
    (List.mergeSort_perm found _) ordered
  exact sound.policies.eq_of_key_eq (stored a aMember) (stored b bMember)
    (Policy.id_eq_of_place_eq same)

/-! ## Rules -/

theorem Sound.ordered_sorted (sound : store.Sound) {rules : List PolicyRule} (nodup : rules.Nodup)
    (stored : ∀ rule ∈ rules, rule ∈ store.rules.values) :
    (PolicyRule.sorted rules).Pairwise fun a b => a.placeOfAll < b.placeOfAll := by
  have ordered := pairwise_mergeSort_of_key PolicyRule.sorted_order_iff rules
  refine pairwise_lt_of_perm nodup (fun a aMember b bMember same => ?_)
    (List.mergeSort_perm rules _) ordered
  have samePlace : a.place = b.place := congrArg (fun place => (ofLex place).2) same
  exact sound.rules.eq_of_key_eq (stored a aMember) (stored b bMember)
    (PolicyRule.id_eq_of_place_eq samePlace)

theorem rulesOf_given (store : PolicyStore) (given : String) :
    store.rulesOf (.str given) = .ok (PolicyRule.sorted (store.rules.values.filter fun rule =>
      some rule.policyId == store.backend.named? given)) := by
  unfold PolicyStore.rulesOf rulesWithin
  rw [Backend.identifier_eq_named?]
  cases store.backend with
  | memory =>
      dsimp only
      rw [equal_policyId]
      rfl
  | tables =>
      dsimp only
      rw [Except.ok_bind]
      rcases Backend.tables.named? given with _ | known
      · have nothing : (store.rules.values.filter fun rule => some rule.policyId == none) = [] :=
          List.filter_eq_nil_iff.2 fun _ _ => Bool.false_ne_true
        rw [nothing, PolicyRule.sorted, List.mergeSort_nil]
        rfl
      · rfl

/-- The rules of a policy, or all of them, are listed once each and in order. -/
theorem Sound.isListing_rulesOf (sound : store.Sound) (policyId : Option String) :
    ∃ listed, store.rulesOf (.ofOption policyId) = .ok listed ∧
      IsListing PolicyRule.placeOfAll
        (fun rule => rule ∈ store.rules.values ∧ ∀ given, policyId = some given →
          store.backend.named? given = some rule.policyId) listed := by
  cases policyId with
  | none =>
      refine ⟨PolicyRule.sorted store.rules.values, rfl, ?_, fun rule => ?_⟩
      · exact sound.ordered_sorted sound.rules.nodup_values fun _ member => member
      · rw [PolicyRule.mem_sorted]
        exact (and_iff_left nofun).symm
  | some given =>
      refine ⟨_, store.rulesOf_given given, ?_, fun rule => ?_⟩
      · exact sound.ordered_sorted (sound.rules.nodup_values.filter _)
          fun _ member => List.mem_of_mem_filter member
      · rw [PolicyRule.mem_sorted, List.mem_filter, beq_iff_eq]
        simp only [Option.some.injEq, forall_eq', eq_comm]

/-! ## Deleting -/

/-- To delete the policy that a text names fails exactly when a rule belongs to it. -/
theorem deletePolicy_fails_iff {given : String} :
    (∃ error, store.deletePolicy (.str given) = .error error) ↔
      ∃ rule ∈ store.rules.values, store.backend.named? given = some rule.policyId := by
  unfold PolicyStore.deletePolicy
  rw [Backend.identifier_eq_named?, Except.ok_bind]
  rcases store.backend.named? given with _ | known
  · constructor
    · rintro ⟨error, fails⟩
      cases fails
    · rintro ⟨rule, member, named⟩
      cases named
  · have isText : (Value.str given).toText = .ok given := rfl
    dsimp only
    by_cases noRules : store.rulesWithin known = []
    · rw [noRules]
      constructor
      · rintro ⟨error, fails⟩
        cases fails
      · rintro ⟨rule, member, named⟩
        have within := mem_rulesWithin.2 ⟨member, (Option.some.inj named).symm⟩
        rw [noRules] at within
        cases within
    · obtain ⟨rule, member⟩ := List.exists_mem_of_ne_nil _ noRules
      obtain ⟨stored, isOwner⟩ := mem_rulesWithin.1 member
      have hasRules : (!(store.rulesWithin known).isEmpty) = true := by
        simp [noRules]
      rw [if_pos hasRules, isText]
      exact ⟨fun _ => ⟨rule, stored, congrArg some isOwner.symm⟩, fun _ => ⟨_, rfl⟩⟩

end PolicyStore

/-! ## Listings after any calls -/

open Service

namespace Service

variable {system : System}

/-- A deletion fails when the store refuses it; to announce it never fails. -/
theorem fails_deletePolicy_iff [Host] (unplanned : system.plans = []) (id : Value) :
    (∃ error, (exec (deletePolicy id) system).1 = .error error) ↔
      ∃ error, system.policies.deletePolicy id = .error error := by
  unfold deletePolicy
  rw [exec_performedValue unplanned, exec_bind, exec_changePolicies]
  rcases system.policies.deletePolicy id with error | ⟨policies, deleted⟩
  · exact ⟨fun _ => ⟨error, rfl⟩, fun _ => ⟨error, rfl⟩⟩
  · have stillUnplanned : System.plans { system with policies } = [] := unplanned
    have succeeds : (exec (do
        if deleted then announce
        return deleted : Service Bool) { system with policies }).1 = .ok deleted := by
      cases deleted with
      | true =>
          obtain ⟨registry, journal, counted, waiting, announced⟩ :=
            exec_announce_of_unplanned stillUnplanned
          rw [if_pos rfl, exec_bind_of_ok announced, exec_pure]
      | false => rfl
    dsimp only
    rw [succeeds]
    constructor
    · rintro ⟨error, fails⟩
      cases fails
    · rintro ⟨error, fails⟩
      cases fails

end Service

variable {system after : System}

/-- A policy store that was accepted and any calls, successful or not: the store is sound, it lists the
policies of an organization and the rules of a policy (or all of them), and it refuses to delete a policy
exactly when the policy has rules. Tables cannot be asked for a text in which half of a pair stands alone;
else a listing does not fail. -/
theorem System.policies_listed_of_reaches [Host] (unplanned : system.plans = [])
    (closed : system.savepoints = []) (accepted : system.policies.Accepted)
    (reaches : system.Reaches after) :
    after.policies.Sound ∧
      (∀ organization : Option String, ∃ listed,
        IsListing Policy.place (fun policy => policy ∈ after.policies.policies.values ∧
          ∀ wanted, organization = some wanted → policy.organization = wanted) listed ∧
        exec (policiesIn (.ofOption organization)) after =
          ((after.policies.backend.asks [.ofOption organization]).map fun _ => listed, after)) ∧
      (∀ policyId : Option String, ∃ listed,
        IsListing PolicyRule.placeOfAll (fun rule => rule ∈ after.policies.rules.values ∧
          ∀ given, policyId = some given →
            after.policies.backend.named? given = some rule.policyId) listed ∧
        exec (rulesOfPolicy (.ofOption policyId)) after = (.ok listed, after)) ∧
      ∀ policyId : String,
        (∃ error, (exec (deletePolicy (.str policyId)) after).1 = .error error) ↔
          ∃ rule ∈ after.policies.rules.values,
            after.policies.backend.named? policyId = some rule.policyId := by
  have start : system.Storing (fun _ => True) PolicyStore.Sound :=
    ⟨unplanned, closed, trivial, accepted.sound⟩
  have lasting := @System.Storing.lasting (fun _ => True) PolicyStore.Sound _
    (fun _ _ _ _ => trivial) fun _ _ sound step => sound.step step
  obtain ⟨stillUnplanned, _, _, sound⟩ := reaches.keeps lasting start
  refine ⟨sound, fun organization => ?_, fun policyId => ?_, fun policyId => ?_⟩
  · exact ⟨_, sound.isListing_policiesIn organization, exec_policiesIn stillUnplanned _⟩
  · obtain ⟨listed, isRead, isListing⟩ := sound.isListing_rulesOf policyId
    refine ⟨listed, isListing, ?_⟩
    rw [exec_rulesOfPolicy stillUnplanned, isRead]
  · exact (fails_deletePolicy_iff stillUnplanned _).trans PolicyStore.deletePolicy_fails_iff

namespace System

/-- The system with a policy and its rule, after the policy could not be deleted because of its rule. -/
def refusedAfter [Host] : System :=
  (exec (Service.call "policy_store.delete_policy" ⟨[.str "p1"], []⟩) updatesSystem).2

open scoped Host in
/-- The rule is still there, so that the policy would not be deleted the next time either. -/
theorem refusedAfter_policies_listed :
    updatesSystem.plans = [] ∧ updatesSystem.savepoints = [] ∧ updatesSystem.policies.Accepted ∧
      updatesSystem.Reaches refusedAfter ∧ refusedAfter.policies.Sound ∧
      ∃ error, (exec (deletePolicy (.str "p1")) refusedAfter).1 = .error error := by
  have accepted : updatesSystem.policies.Accepted :=
    .made ⟨[.list [updatesPolicy.toValue], .list [updatesRule.toValue]], []⟩ rfl
  have reaches : updatesSystem.Reaches refusedAfter := .call .refl _ _
  obtain ⟨sound, _, _, isRefused⟩ := policies_listed_of_reaches rfl rfl accepted reaches
  have stored : updatesRule ∈ refusedAfter.policies.rules.values := by
    rw [sound.rules.mem_values_iff]
    rfl
  exact ⟨rfl, rfl, accepted, reaches, sound, (isRefused "p1").2 ⟨updatesRule, stored, rfl⟩⟩

end System

end Authorization
