import Authorization.Proofs.Store.Order
import Authorization.Proofs.Store.Policy
import Authorization.Proofs.Tenancy.Finding

/-!
# Policy stores and organizations

Two policy stores agree on some organizations when they hold the same policies of these and the same
rules of those policies; what they hold of others may differ. An operation on records of some
organizations comes to the same in stores that agree on them, leaves such stores in agreement, and
changes nothing that belongs to the others.
-/

namespace Authorization.PolicyStore

/-- Two stores keep their records in one way and hold the same policies of some organizations, with the
same rules. -/
structure AgreesOn (within : String → Prop) (store other : PolicyStore) : Prop where
  backend : store.backend = other.backend
  policies : ∀ policy : Policy, within policy.organization →
    (policy ∈ store.policies.values ↔ policy ∈ other.policies.values)
  rules : ∀ policy ∈ store.policies.values, within policy.organization →
    ∀ rule : PolicyRule, rule.policyId = policy.id →
      (rule ∈ store.rules.values ↔ rule ∈ other.rules.values)

/-- No policy of another organization has an identifier. -/
def OwnsPolicy (within : String → Prop) (store : PolicyStore) (id : String) : Prop :=
  ∀ policy ∈ store.policies.values, policy.id = id → within policy.organization

/-- No rule of a policy of another organization has an identifier. -/
def OwnsRule (within : String → Prop) (store : PolicyStore) (id : String) : Prop :=
  ∀ rule ∈ store.rules.values, rule.id = id → store.OwnsPolicy within rule.policyId

/-- A policy or a rule has an identifier. -/
def Uses (store : PolicyStore) (id : String) : Prop :=
  (∃ policy ∈ store.policies.values, policy.id = id) ∨ ∃ rule ∈ store.rules.values, rule.id = id

variable {within : String → Prop} {store other last next : PolicyStore}

namespace AgreesOn

theorem refl (store : PolicyStore) : store.AgreesOn within store :=
  ⟨rfl, fun _ _ => .rfl, fun _ _ _ _ _ => .rfl⟩

theorem symm (agrees : store.AgreesOn within other) : other.AgreesOn within store :=
  ⟨agrees.backend.symm, fun policy isWithin => (agrees.policies policy isWithin).symm,
    fun policy member isWithin rule isRule =>
      (agrees.rules policy ((agrees.policies policy isWithin).2 member) isWithin rule isRule).symm⟩

theorem trans (first : store.AgreesOn within other) (second : other.AgreesOn within last) :
    store.AgreesOn within last :=
  ⟨first.backend.trans second.backend,
    fun policy isWithin => (first.policies policy isWithin).trans (second.policies policy isWithin),
    fun policy member isWithin rule isRule =>
      (first.rules policy member isWithin rule isRule).trans
        (second.rules policy ((first.policies policy isWithin).1 member) isWithin rule isRule)⟩

/-- A stored rule of a policy that is owned is stored in both. -/
theorem mem_rule (agrees : store.AgreesOn within other) (sound : store.Sound) {rule : PolicyRule}
    (member : rule ∈ store.rules.values) (owns : store.OwnsPolicy within rule.policyId) :
    rule ∈ other.rules.values := by
  obtain ⟨policy, policyMember, isOwner⟩ := sound.owned rule member
  have isWithin := owns policy policyMember isOwner
  exact (agrees.rules policy policyMember isWithin rule isOwner.symm).1 member

/-- Both stores hold the same rules of a policy that both own. -/
theorem mem_rule_iff (agrees : store.AgreesOn within other) (sound : store.Sound)
    (otherSound : other.Sound) {rule : PolicyRule} (owns : store.OwnsPolicy within rule.policyId)
    (otherOwns : other.OwnsPolicy within rule.policyId) :
    rule ∈ store.rules.values ↔ rule ∈ other.rules.values :=
  ⟨fun member => agrees.mem_rule sound member owns,
    fun member => agrees.symm.mem_rule otherSound member otherOwns⟩

theorem exists_policy_iff (agrees : store.AgreesOn within other) {id : String}
    (owns : store.OwnsPolicy within id) (otherOwns : other.OwnsPolicy within id) :
    (∃ policy ∈ store.policies.values, policy.id = id) ↔
      ∃ policy ∈ other.policies.values, policy.id = id := by
  constructor
  · rintro ⟨policy, member, isId⟩
    exact ⟨policy, (agrees.policies policy (owns policy member isId)).1 member, isId⟩
  · rintro ⟨policy, member, isId⟩
    exact ⟨policy, (agrees.policies policy (otherOwns policy member isId)).2 member, isId⟩

theorem exists_rule_iff (agrees : store.AgreesOn within other) (sound : store.Sound)
    (otherSound : other.Sound) {id : String} (owns : store.OwnsRule within id)
    (otherOwns : other.OwnsRule within id) :
    (∃ rule ∈ store.rules.values, rule.id = id) ↔ ∃ rule ∈ other.rules.values, rule.id = id := by
  constructor
  · rintro ⟨rule, member, isId⟩
    exact ⟨rule, agrees.mem_rule sound member (owns rule member isId), isId⟩
  · rintro ⟨rule, member, isId⟩
    exact ⟨rule, agrees.symm.mem_rule otherSound member (otherOwns rule member isId), isId⟩

theorem has_policy (agrees : store.AgreesOn within other) (sound : store.Sound)
    (otherSound : other.Sound) {id : String} (owns : store.OwnsPolicy within id)
    (otherOwns : other.OwnsPolicy within id) : store.policies.has id = other.policies.has id := by
  rw [Bool.eq_iff_iff, sound.policies.has_iff, otherSound.policies.has_iff]
  exact agrees.exists_policy_iff owns otherOwns

theorem has_rule (agrees : store.AgreesOn within other) (sound : store.Sound)
    (otherSound : other.Sound) {id : String} (owns : store.OwnsRule within id)
    (otherOwns : other.OwnsRule within id) : store.rules.has id = other.rules.has id := by
  rw [Bool.eq_iff_iff, sound.rules.has_iff, otherSound.rules.has_iff]
  exact agrees.exists_rule_iff sound otherSound owns otherOwns

end AgreesOn

/-! ## Owning, while others are left alone -/

/-- A store that holds the same of all other organizations owns what it owned. -/
theorem OwnsPolicy.of_agrees {id : String} (owns : store.OwnsPolicy within id)
    (spared : store.AgreesOn (fun organization => ¬within organization) next) :
    next.OwnsPolicy within id := by
  intro policy member isId
  by_contra foreign
  exact foreign (owns policy ((spared.policies policy foreign).2 member) isId)

theorem OwnsRule.of_agrees {id : String} (owns : store.OwnsRule within id)
    (spared : store.AgreesOn (fun organization => ¬within organization) next) :
    next.OwnsRule within id := by
  intro rule member isId policy policyMember isOwner
  by_contra foreign
  have old := (spared.policies policy foreign).2 policyMember
  have ruleOld := (spared.rules policy old foreign rule isOwner.symm).2 member
  exact foreign (owns rule ruleOld isId policy old isOwner)

theorem ownsPolicy_of_not_uses {id : String} (unused : ¬store.Uses id) :
    store.OwnsPolicy within id :=
  fun policy member isId => absurd (.inl ⟨policy, member, isId⟩) unused

theorem ownsRule_of_not_uses {id : String} (unused : ¬store.Uses id) :
    store.OwnsRule within id :=
  fun rule member isId => absurd (.inr ⟨rule, member, isId⟩) unused

theorem ownsPolicy_of_mem (sound : store.Sound) {policy : Policy}
    (member : policy ∈ store.policies.values) (isWithin : within policy.organization) :
    store.OwnsPolicy within policy.id := by
  intro same sameMember isId
  rw [sound.policies.eq_of_key_eq sameMember member isId]
  exact isWithin

theorem ownsRule_of_mem (sound : store.Sound) {rule : PolicyRule}
    (member : rule ∈ store.rules.values) (owns : store.OwnsPolicy within rule.policyId) :
    store.OwnsRule within rule.id := by
  intro same sameMember isId
  rw [sound.rules.eq_of_key_eq sameMember member isId]
  exact owns

/-! ## Saving a policy -/

theorem hasClash_eq (agrees : store.AgreesOn within other) (policy : Policy)
    (isWithin : within policy.organization) : store.hasClash policy = other.hasClash policy := by
  rw [Bool.eq_iff_iff, hasClash_iff, hasClash_iff]
  constructor
  · rintro ⟨found, member, apart, sameKey, sameOrganization⟩
    exact ⟨found, (agrees.policies found (sameOrganization ▸ isWithin)).1 member, apart, sameKey,
      sameOrganization⟩
  · rintro ⟨found, member, apart, sameKey, sameOrganization⟩
    exact ⟨found, (agrees.policies found (sameOrganization ▸ isWithin)).2 member, apart, sameKey,
      sameOrganization⟩

theorem AgreesOn.put (agrees : store.AgreesOn within other) (sound : store.Sound)
    (otherSound : other.Sound) {kept : Policy} (owns : store.OwnsPolicy within kept.id)
    (otherOwns : other.OwnsPolicy within kept.id) :
    AgreesOn within { store with policies := Keyed.put kept.id kept store.policies }
      { other with policies := Keyed.put kept.id kept other.policies } := by
  refine ⟨agrees.backend, fun policy isWithin => ?_, fun policy member isWithin rule isRule => ?_⟩
  · rw [sound.policies.mem_values_put, otherSound.policies.mem_values_put,
      agrees.policies policy isWithin]
  · rcases sound.policies.mem_values_put.1 member with rfl | ⟨old, _⟩
    · exact agrees.mem_rule_iff sound otherSound (isRule ▸ owns) (isRule ▸ otherOwns)
    · exact agrees.rules policy old isWithin rule isRule

theorem AgreesOn.savePolicy (agrees : store.AgreesOn within other) (sound : store.Sound)
    (otherSound : other.Sound) {policy : Policy} (isWithin : within policy.organization)
    (owns : ∀ id, store.backend.identifier (.str policy.id) = .ok (some id) →
      store.OwnsPolicy within id ∧ other.OwnsPolicy within id) :
    Except.Related (AgreesOn within) (store.savePolicy policy) (other.savePolicy policy) := by
  have sameIdentifier : store.policyIdentifier policy.id = other.policyIdentifier policy.id := by
    rw [policyIdentifier, policyIdentifier, agrees.backend]
  unfold PolicyStore.savePolicy
  rw [← sameIdentifier]
  refine (Except.Related.same _).bind fun id _ identified _ same => ?_
  subst same
  have sameKept : store.kept { policy with id } = other.kept { policy with id } := by
    rw [kept, kept, agrees.backend]
  dsimp only
  rw [hasClash_eq agrees { policy with id } isWithin, ← sameKept]
  split
  · exact .error _
  · refine (Except.Related.same _).bind fun kept _ isKept _ same => ?_
    subst same
    have sameId : kept.id = id := by
      obtain ⟨_, _, shape⟩ := kept_eq isKept
      rw [shape]
    have owned := owns id (policyIdentifier_eq_ok_iff.1 identified)
    subst sameId
    exact .ok (agrees.put sound otherSound owned.1 owned.2)

theorem savePolicy_spares (sound : store.Sound) {policy : Policy}
    (isWithin : within policy.organization)
    (owns : ∀ id, store.backend.identifier (.str policy.id) = .ok (some id) →
      store.OwnsPolicy within id) (saved : store.savePolicy policy = .ok next) :
    store.AgreesOn (fun organization => ¬within organization) next := by
  obtain ⟨kept, identified, _, _, sameOrganization, _, _, rfl⟩ := savePolicy_eq_ok saved
  have keptWithin : within kept.organization := sameOrganization ▸ isWithin
  refine ⟨rfl, fun found foreign => ?_, fun _ _ _ _ _ => .rfl⟩
  rw [sound.policies.mem_values_put]
  constructor
  · exact fun member => .inr ⟨member, fun isId => foreign (owns kept.id identified found member isId)⟩
  · rintro (rfl | ⟨member, _⟩)
    · exact absurd keptWithin foreign
    · exact member

theorem uses_of_savePolicy (sound : store.Sound) {policy : Policy} {id : String}
    (saved : store.savePolicy policy = .ok next) (uses : next.Uses id) :
    store.Uses id ∨ store.backend.identifier (.str policy.id) = .ok (some id) := by
  obtain ⟨kept, identified, _, _, _, _, _, rfl⟩ := savePolicy_eq_ok saved
  rcases uses with ⟨found, member, rfl⟩ | isRule
  · rcases sound.policies.mem_values_put.1 member with rfl | ⟨old, _⟩
    · exact .inr identified
    · exact .inl (.inl ⟨found, old, rfl⟩)
  · exact .inl (.inr isRule)

/-! ## Deleting a policy -/

theorem AgreesOn.deletePolicy (agrees : store.AgreesOn within other) (sound : store.Sound)
    (otherSound : other.Sound) {given : Value}
    (allOwned : ∀ id, store.backend.identifier given = .ok (some id) →
      store.OwnsPolicy within id ∧ other.OwnsPolicy within id) :
    Except.Related (fun left right => left.1.AgreesOn within right.1 ∧ left.2 = right.2)
      (store.deletePolicy given) (other.deletePolicy given) := by
  unfold PolicyStore.deletePolicy
  rw [← agrees.backend]
  refine (Except.Related.same _).bind fun known _ identified _ same => ?_
  subst same
  cases known with
  | none => exact .ok ⟨agrees, rfl⟩
  | some id => ?_
  obtain ⟨owns, otherOwns⟩ := allOwned id identified
  have noRules : (store.rulesWithin id).isEmpty = (other.rulesWithin id).isEmpty := by
    rw [Bool.eq_iff_iff, List.isEmpty_iff, List.isEmpty_iff, List.eq_nil_iff_forall_not_mem,
      List.eq_nil_iff_forall_not_mem]
    refine forall_congr' fun rule => not_congr ?_
    rw [mem_rulesWithin, mem_rulesWithin]
    exact and_congr_left fun isRule =>
      agrees.mem_rule_iff sound otherSound (isRule ▸ owns) (isRule ▸ otherOwns)
  dsimp only
  rw [noRules, agrees.has_policy sound otherSound owns otherOwns]
  split
  · refine (Except.Related.same _).bind fun text _ _ _ same => ?_
    subst same
    exact .error _
  · refine .ok ⟨⟨rfl, fun policy isWithin => ?_, fun policy member isWithin => ?_⟩, rfl⟩
    · rw [sound.policies.mem_values_erase, otherSound.policies.mem_values_erase,
        agrees.policies policy isWithin]
    · exact agrees.rules policy (sound.policies.mem_values_erase.1 member).1 isWithin

theorem deletePolicy_spares (sound : store.Sound) {given : Value} {answer : Bool}
    (owns : ∀ id, store.backend.identifier given = .ok (some id) → store.OwnsPolicy within id)
    (deleted : store.deletePolicy given = .ok (next, answer)) :
    store.AgreesOn (fun organization => ¬within organization) next := by
  rcases deletePolicy_eq_ok deleted with ⟨_, rfl, _⟩ | ⟨known, identified, _, rfl, _⟩
  · exact .refl _
  · refine ⟨rfl, fun policy foreign => ?_, fun _ _ _ _ _ => .rfl⟩
    rw [sound.policies.mem_values_erase]
    exact ⟨fun member =>
      ⟨member, fun isId => foreign (owns known identified policy member isId)⟩, And.left⟩

theorem uses_of_deletePolicy (sound : store.Sound) {given : Value} {answer : Bool} {id : String}
    (deleted : store.deletePolicy given = .ok (next, answer)) (uses : next.Uses id) :
    store.Uses id := by
  rcases deletePolicy_eq_ok deleted with ⟨_, rfl, _⟩ | ⟨known, _, _, rfl, _⟩
  · exact uses
  · rcases uses with ⟨policy, member, isId⟩ | isRule
    · exact .inl ⟨policy, (sound.policies.mem_values_erase.1 member).1, isId⟩
    · exact .inr isRule

/-! ## Rules -/

theorem AgreesOn.saveRule (agrees : store.AgreesOn within other) (sound : store.Sound)
    (otherSound : other.Sound) {rule : PolicyRule}
    (ownsPolicy : ∀ id, store.backend.identifier (.str rule.policyId) = .ok (some id) →
      store.OwnsPolicy within id ∧ other.OwnsPolicy within id) :
    Except.Related (AgreesOn within) (store.saveRule rule) (other.saveRule rule) := by
  have sameNamed : store.identified rule = other.identified rule := by
    rw [identified, identified, agrees.backend]
  unfold PolicyStore.saveRule
  rw [← sameNamed]
  refine (Except.Related.same _).bind fun named _ isNamed _ same => ?_
  subst same
  obtain ⟨_, isPolicy, _⟩ := identified_eq_ok isNamed
  have owned := ownsPolicy named.policyId isPolicy
  have sameOwner : store.checkOwner rule named = other.checkOwner rule named := by
    rw [checkOwner, checkOwner, agrees.has_policy sound otherSound owned.1 owned.2]
  have sameKept : store.keptRule named = other.keptRule named := by
    rw [keptRule, keptRule, agrees.backend]
  rw [← sameOwner, ← sameKept]
  refine (Except.Related.same _).bind fun _ _ _ _ _ => ?_
  refine (Except.Related.same _).bind fun kept _ isKept _ same => ?_
  subst same
  have sameId : kept.id = named.id := (keptRule_eq isKept).1
  rw [← sameId]
  refine .ok ⟨agrees.backend, agrees.policies, fun policy member isWithin found isRule => ?_⟩
  rw [sound.rules.mem_values_put, otherSound.rules.mem_values_put,
    agrees.rules policy member isWithin found isRule]

theorem saveRule_spares (sound : store.Sound) {rule : PolicyRule}
    (ownsPolicy : ∀ id, store.backend.identifier (.str rule.policyId) = .ok (some id) →
      store.OwnsPolicy within id)
    (ownsRule : ∀ id, store.backend.identifier (.str rule.id) = .ok (some id) →
      store.OwnsRule within id) (saved : store.saveRule rule = .ok next) :
    store.AgreesOn (fun organization => ¬within organization) next := by
  obtain ⟨kept, isId, isPolicy, _, _, rfl⟩ := saveRule_eq_ok saved
  refine ⟨rfl, fun _ _ => .rfl, fun policy member foreign found isRule => ?_⟩
  rw [sound.rules.mem_values_put]
  constructor
  · intro foundMember
    refine .inr ⟨foundMember, fun same => foreign ?_⟩
    exact ownsRule kept.id isId found foundMember same policy member isRule.symm
  · rintro (rfl | ⟨old, _⟩)
    · exact absurd (ownsPolicy found.policyId isPolicy policy member isRule.symm) foreign
    · exact old

theorem uses_of_saveRule (sound : store.Sound) {rule : PolicyRule} {id : String}
    (saved : store.saveRule rule = .ok next) (uses : next.Uses id) :
    store.Uses id ∨ store.backend.identifier (.str rule.id) = .ok (some id) := by
  obtain ⟨kept, isId, _, _, _, rfl⟩ := saveRule_eq_ok saved
  rcases uses with isPolicy | ⟨found, member, rfl⟩
  · exact .inl (.inl isPolicy)
  · rcases sound.rules.mem_values_put.1 member with rfl | ⟨old, _⟩
    · exact .inr isId
    · exact .inl (.inr ⟨found, old, rfl⟩)

/-- A rule that administrators may save: no rule or policy of another organization stands under its
identifiers. -/
structure Grants (within : String → Prop) (store : PolicyStore) (rule : PolicyRule) : Prop where
  policy : ∀ id, store.backend.identifier (.str rule.policyId) = .ok (some id) →
    store.OwnsPolicy within id
  rule : ∀ id, store.backend.identifier (.str rule.id) = .ok (some id) → store.OwnsRule within id

theorem Grants.of_agrees {rule : PolicyRule} (grants : store.Grants within rule)
    (spared : store.AgreesOn (fun organization => ¬within organization) next) :
    next.Grants within rule := by
  refine ⟨fun id identified => ?_, fun id identified => ?_⟩
  · rw [← spared.backend] at identified
    exact (grants.policy id identified).of_agrees spared
  · rw [← spared.backend] at identified
    exact (grants.rule id identified).of_agrees spared

theorem AgreesOn.saveRules (agrees : store.AgreesOn within other) (sound : store.Sound)
    (otherSound : other.Sound) {rules : List PolicyRule}
    (grants : ∀ rule ∈ rules, store.Grants within rule ∧ other.Grants within rule) :
    Except.Related (AgreesOn within) (store.saveRules rules) (other.saveRules rules) := by
  rw [saveRules_eq_foldlM, saveRules_eq_foldlM]
  induction rules generalizing store other with
  | nil => exact .ok agrees
  | cons rule rest inductionHypothesis =>
      obtain ⟨⟨granted, otherGranted⟩, others⟩ := List.forall_mem_cons.1 grants
      rw [List.foldlM_cons, List.foldlM_cons]
      refine (agrees.saveRule sound otherSound fun id identified =>
        ⟨granted.policy id identified,
          otherGranted.policy id (agrees.backend ▸ identified)⟩).bind fun next last saved
            otherSaved nextAgrees => ?_
      refine inductionHypothesis nextAgrees (sound.saveRule saved) (otherSound.saveRule otherSaved)
        fun another member => ?_
      obtain ⟨anotherGranted, otherAnotherGranted⟩ := others another member
      exact ⟨anotherGranted.of_agrees (saveRule_spares sound granted.policy granted.rule saved),
        otherAnotherGranted.of_agrees
          (saveRule_spares otherSound otherGranted.policy otherGranted.rule otherSaved)⟩

theorem saveRules_spares (sound : store.Sound) {rules : List PolicyRule}
    (grants : ∀ rule ∈ rules, store.Grants within rule) (saved : store.saveRules rules = .ok next) :
    store.AgreesOn (fun organization => ¬within organization) next := by
  rw [saveRules_eq_foldlM] at saved
  induction rules generalizing store with
  | nil =>
      cases saved
      exact .refl _
  | cons rule rest inductionHypothesis =>
      obtain ⟨granted, others⟩ := List.forall_mem_cons.1 grants
      rw [List.foldlM_cons] at saved
      obtain ⟨middle, stepped, saved⟩ := Except.bind_eq_ok_iff.1 saved
      have spared := saveRule_spares sound granted.policy granted.rule stepped
      exact spared.trans (inductionHypothesis (sound.saveRule stepped)
        (fun another member => (others another member).of_agrees spared) saved)

theorem uses_of_saveRules (sound : store.Sound) {rules : List PolicyRule} {id : String}
    (saved : store.saveRules rules = .ok next) (uses : next.Uses id) :
    store.Uses id ∨ ∃ rule ∈ rules, store.backend.identifier (.str rule.id) = .ok (some id) := by
  rw [saveRules_eq_foldlM] at saved
  induction rules generalizing store with
  | nil =>
      cases saved
      exact .inl uses
  | cons rule rest inductionHypothesis =>
      rw [List.foldlM_cons] at saved
      obtain ⟨middle, stepped, saved⟩ := Except.bind_eq_ok_iff.1 saved
      have sameBackend : middle.backend = store.backend := by
        obtain ⟨_, _, _, _, _, rfl⟩ := saveRule_eq_ok stepped
        rfl
      rcases inductionHypothesis (sound.saveRule stepped) saved with used | ⟨another, member, isId⟩
      · rcases uses_of_saveRule sound stepped used with old | isId
        · exact .inl old
        · exact .inr ⟨rule, List.mem_cons_self, isId⟩
      · exact .inr ⟨another, .tail _ member, sameBackend ▸ isId⟩

theorem AgreesOn.deleteRule (agrees : store.AgreesOn within other) (sound : store.Sound)
    (otherSound : other.Sound) {id : String} (keeps : store.backend.Keeps id)
    (owns : store.OwnsRule within id) (otherOwns : other.OwnsRule within id) :
    Except.Related (fun left right => left.1.AgreesOn within right.1 ∧ left.2 = right.2)
      (store.deleteRule (.str id)) (other.deleteRule (.str id)) := by
  have otherKeeps : other.backend.Keeps id := agrees.backend ▸ keeps
  unfold PolicyStore.deleteRule
  rw [keeps.identifier, otherKeeps.identifier, Except.ok_bind, Except.ok_bind]
  refine .ok ⟨⟨agrees.backend, agrees.policies, fun policy member isWithin rule isRule => ?_⟩,
    agrees.has_rule sound otherSound owns otherOwns⟩
  rw [sound.rules.mem_values_erase, otherSound.rules.mem_values_erase,
    agrees.rules policy member isWithin rule isRule]

theorem deleteRule_spares (sound : store.Sound) {id : String} {answer : Bool}
    (keeps : store.backend.Keeps id) (owns : store.OwnsRule within id)
    (deleted : store.deleteRule (.str id) = .ok (next, answer)) :
    store.AgreesOn (fun organization => ¬within organization) next := by
  rcases deleteRule_eq_ok deleted with ⟨_, rfl, _⟩ | ⟨known, identified, rfl, _⟩
  · exact .refl _
  · obtain rfl := keeps.eq identified
    refine ⟨rfl, fun _ _ => .rfl, fun policy member foreign rule isRule => ?_⟩
    rw [sound.rules.mem_values_erase]
    exact ⟨fun ruleMember => ⟨ruleMember, fun isId =>
      foreign (owns rule ruleMember isId policy member isRule.symm)⟩, And.left⟩

theorem uses_of_deleteRule (sound : store.Sound) {given : Value} {answer : Bool} {id : String}
    (deleted : store.deleteRule given = .ok (next, answer)) (uses : next.Uses id) :
    store.Uses id := by
  rcases deleteRule_eq_ok deleted with ⟨_, rfl, _⟩ | ⟨known, _, rfl, _⟩
  · exact uses
  · rcases uses with isPolicy | ⟨rule, member, isId⟩
    · exact .inl isPolicy
    · exact .inr ⟨rule, (sound.rules.mem_values_erase.1 member).1, isId⟩

/-! ## Asking -/

/-- Stores that own a policy hold the same rules of it. -/
theorem AgreesOn.perm_rulesWithin (agrees : store.AgreesOn within other) (sound : store.Sound)
    (otherSound : other.Sound) {id : String} (owns : store.OwnsPolicy within id)
    (otherOwns : other.OwnsPolicy within id) :
    (store.rulesWithin id).Perm (other.rulesWithin id) := by
  refine (List.perm_ext_iff_of_nodup (sound.rules.nodup_values.filter _)
    (otherSound.rules.nodup_values.filter _)).2 fun rule => ?_
  rw [← rulesWithin, ← rulesWithin, mem_rulesWithin, mem_rulesWithin]
  exact and_congr_left fun isRule =>
    agrees.mem_rule_iff sound otherSound (isRule ▸ owns) (isRule ▸ otherOwns)

theorem AgreesOn.rulesOf (agrees : store.AgreesOn within other) (sound : store.Sound)
    (otherSound : other.Sound) {id : String} (keeps : store.backend.Keeps id)
    (owns : store.OwnsPolicy within id) (otherOwns : other.OwnsPolicy within id) :
    store.rulesOf (.str id) = other.rulesOf (.str id) := by
  rw [rulesOf_str keeps, rulesOf_str (agrees.backend ▸ keeps)]
  refine congrArg Except.ok (PolicyRule.sorted_eq_of_perm (fun rule member another anotherMember =>
    ?_) (agrees.perm_rulesWithin sound otherSound owns otherOwns))
  exact sound.rules.eq_of_key_eq (mem_rulesWithin.1 member).1 (mem_rulesWithin.1 anotherMember).1

theorem AgreesOn.countRules (agrees : store.AgreesOn within other) (sound : store.Sound)
    (otherSound : other.Sound) {given : String}
    (owned : ∀ id, store.backend.identifier (.str given) = .ok (some id) →
      store.OwnsPolicy within id ∧ other.OwnsPolicy within id) :
    store.countRules (.str given) = other.countRules (.str given) := by
  rw [countRules_str, countRules_str, ← agrees.backend]
  rcases identified : store.backend.identifier (.str given) with error | _ | id
  · rfl
  · rfl
  · obtain ⟨owns, otherOwns⟩ := owned id identified
    exact (agrees.perm_rulesWithin sound otherSound owns otherOwns).length_eq

/-- At most one policy of an organization has the key that a value asks for. -/
theorem policyByKey?_eq_some_iff (sound : store.Sound) {key : Value} {organization : String}
    {policy : Policy} : store.policyByKey? key (.str organization) = some policy ↔
      policy ∈ store.policies.values ∧ store.backend.matchesText policy.key key = true ∧
        policy.organization = organization := by
  unfold PolicyStore.policyByKey?
  constructor
  · intro found
    have matching := List.find?_some found
    rw [Bool.and_eq_true, Backend.matchesText_str, decide_eq_true_iff] at matching
    exact ⟨List.mem_of_find?_eq_some found, matching⟩
  · rintro ⟨member, isWanted, rfl⟩
    have isThere : (store.policies.values.find? fun other =>
        store.backend.matchesText other.key key &&
          store.backend.matchesText other.organization (.str policy.organization)).isSome = true := by
      rw [List.find?_isSome]
      refine ⟨policy, member, ?_⟩
      rw [isWanted, Backend.matchesText_str, decide_eq_true rfl]
      rfl
    obtain ⟨other, found⟩ := Option.isSome_iff_exists.1 isThere
    have matching := List.find?_some found
    rw [Bool.and_eq_true, Backend.matchesText_str, decide_eq_true_iff] at matching
    rw [found, sound.unique other (List.mem_of_find?_eq_some found) policy member
      (Backend.matchesText_unique matching.1 isWanted) matching.2]

theorem AgreesOn.policyByKey? (agrees : store.AgreesOn within other) (sound : store.Sound)
    (otherSound : other.Sound) (key : Value) {organization : String}
    (covered : ∀ policy ∈ store.policies.values,
      policy.organization = organization → within organization)
    (otherCovered : ∀ policy ∈ other.policies.values,
      policy.organization = organization → within organization) :
    store.policyByKey? key (.str organization) = other.policyByKey? key (.str organization) := by
  refine Option.ext fun policy => ?_
  rw [policyByKey?_eq_some_iff sound, policyByKey?_eq_some_iff otherSound,
    agrees.backend]
  constructor
  · rintro ⟨member, isWanted, rfl⟩
    exact ⟨(agrees.policies policy (covered policy member rfl)).1 member, isWanted, rfl⟩
  · rintro ⟨member, isWanted, rfl⟩
    exact ⟨(agrees.policies policy (otherCovered policy member rfl)).2 member, isWanted, rfl⟩

/-- What is found of an identifier in an organization. -/
def found (store : PolicyStore) (organization : String) (id : Value) : Except Error Policy :=
  store.policies.finding store.backend (.notFound .policy id)
    (fun policy => policy.organization = organization) id

theorem found_eq_ok {organization : String} {id : Value} {policy : Policy}
    (isFound : store.found organization id = .ok policy) :
    policy ∈ store.policies.values ∧ policy.organization = organization :=
  (Keyed.finding_eq_ok isFound).imp_right of_decide_eq_true

/-- Stores that agree find the same, where all that an organization has is among what they agree on. -/
theorem AgreesOn.found (agrees : store.AgreesOn within other) (sound : store.Sound)
    (otherSound : other.Sound) {organization : String}
    (covered : ∀ policy ∈ store.policies.values,
      policy.organization = organization → within organization)
    (otherCovered : ∀ policy ∈ other.policies.values,
      policy.organization = organization → within organization) (id : Value) :
    store.found organization id = other.found organization id := by
  rw [PolicyStore.found, PolicyStore.found, ← agrees.backend]
  refine sound.policies.finding_eq otherSound.policies fun policy isOrganization => ?_
  obtain rfl := of_decide_eq_true isOrganization
  exact ⟨fun member => (agrees.policies policy (covered policy member rfl)).1 member,
    fun member => (agrees.policies policy (otherCovered policy member rfl)).2 member⟩

/-- What is found of an identifier among the rules of a policy. -/
def foundRule (store : PolicyStore) (policyId : String) (id : Value) : Except Error PolicyRule :=
  store.rules.finding store.backend (.notFound .rule id) (fun rule => rule.policyId == policyId) id

theorem foundRule_eq_ok {policyId : String} {id : Value} {rule : PolicyRule}
    (isFound : store.foundRule policyId id = .ok rule) :
    rule ∈ store.rules.values ∧ rule.policyId = policyId :=
  (Keyed.finding_eq_ok isFound).imp_right beq_iff_eq.1

theorem AgreesOn.foundRule (agrees : store.AgreesOn within other) (sound : store.Sound)
    (otherSound : other.Sound) {policyId : String} (owns : store.OwnsPolicy within policyId)
    (otherOwns : other.OwnsPolicy within policyId) (id : Value) :
    store.foundRule policyId id = other.foundRule policyId id := by
  rw [PolicyStore.foundRule, PolicyStore.foundRule, ← agrees.backend]
  refine sound.rules.finding_eq otherSound.rules fun rule isPolicy => ?_
  obtain rfl := beq_iff_eq.1 isPolicy
  exact agrees.mem_rule_iff sound otherSound owns otherOwns

theorem mem_policiesIn_str {organization : String} {policy : Policy} :
    policy ∈ store.policiesIn (.str organization) ↔
      policy ∈ store.policies.values ∧ policy.organization = organization := by
  have isText : (Value.str organization).equal .null = false := by
    rw [Bool.eq_false_iff, ne_eq, Value.equal_null_iff]
    nofun
  rw [PolicyStore.policiesIn, mem_sortedBy, List.mem_filter, isText, Bool.false_or,
    Backend.matchesText_str, decide_eq_true_iff]

theorem AgreesOn.policiesIn (agrees : store.AgreesOn within other) (sound : store.Sound)
    (otherSound : other.Sound) {organization : String} (isWithin : within organization) :
    store.policiesIn (.str organization) = other.policiesIn (.str organization) := by
  refine sortedBy_eq_of_perm (fun policy member another anotherMember same => ?_)
    ((List.perm_ext_iff_of_nodup (sound.policies.nodup_values.filter _)
      (otherSound.policies.nodup_values.filter _)).2 fun policy => ?_)
  · have sameId : policy.id = another.id := by
      simpa [Policy.sortKey] using congrArg List.getLast? same
    exact sound.policies.eq_of_key_eq (List.mem_filter.1 member).1 (List.mem_filter.1 anotherMember).1
      sameId
  · have listed {store : PolicyStore} : policy ∈ store.policies.values.filter (fun policy =>
        (Value.str organization).equal .null ||
          store.backend.matchesText policy.organization (.str organization)) ↔
        policy ∈ store.policiesIn (.str organization) := mem_sortedBy.symm
    rw [listed, listed, mem_policiesIn_str, mem_policiesIn_str]
    exact and_congr_left fun isOrganization =>
      agrees.policies policy (isOrganization ▸ isWithin)

end Authorization.PolicyStore
