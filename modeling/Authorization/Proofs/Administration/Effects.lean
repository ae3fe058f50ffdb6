import Authorization.Proofs.Administration.Clones
import Authorization.Proofs.Store.Memory

/-!
# What a call changes

A call of an administrator that succeeds exchanges one record under its identifier, or settles whether one
user holds one role. The words for this are here: one role, one policy or one rule is exchanged and nothing
else that is stored is changed, and a field is replaced when it is among the changes.
-/

namespace Authorization

variable {system after : System}

/-! ## Stores -/

namespace System

/-- The role of an identifier is exchanged, and nothing else that is stored is changed. -/
structure ExchangesRole (system after : System) (id : String) (before now : Option Role) : Prop where
  role : system.roles.roles.Exchanged after.roles.roles id before now
  permissions : after.roles.permissions = system.roles.permissions
  assignments : after.roles.assignments = system.roles.assignments
  policies : after.policies = system.policies

/-- The policy of an identifier is exchanged, and nothing else that is stored is changed. -/
structure ExchangesPolicy (system after : System) (id : String) (before now : Option Policy) :
    Prop where
  policy : system.policies.policies.Exchanged after.policies.policies id before now
  rules : after.policies.rules = system.policies.rules
  roles : after.roles = system.roles

/-- The rule of an identifier is exchanged, and nothing else that is stored is changed. -/
structure ExchangesRule (system after : System) (id : String) (before now : Option PolicyRule) :
    Prop where
  rule : system.policies.rules.Exchanged after.policies.rules id before now
  policies : after.policies.policies = system.policies.policies
  roles : after.roles = system.roles

/-- A policy is added together with as many rules as another one has, which repeat them, and nothing else
that is stored is changed. -/
structure AddsCopy (system after : System) (source copy : Policy) (made : List PolicyRule) :
    Prop where
  policy : system.policies.policies.Exchanged after.policies.policies copy.id none (some copy)
  count : made.length = (system.policies.rulesWithin source.id).length
  repeats : List.Forall₂ PolicyRule.Repeats
    (PolicyRule.sorted (system.policies.rulesWithin source.id)) made
  distinct : (made.map PolicyRule.id).Nodup
  owned : ∀ rule ∈ made, rule.policyId = copy.id
  areNew : ∀ rule ∈ made, system.policies.rules.get? rule.id = none
  areThere : ∀ rule ∈ made, after.policies.rules.get? rule.id = some rule
  others : ∀ id, (∀ rule ∈ made, rule.id ≠ id) →
    after.policies.rules.get? id = system.policies.rules.get? id
  roles : after.roles = system.roles

/-- The rules of a policy that some entries name, and these name no others, are given numbers of the
entries. Nothing else that is stored is changed. -/
structure Renumbers (system after : System) (policy : Policy) (entries : List (Value × Value)) :
    Prop where
  named : ∀ entry ∈ entries, ∃ rule number, system.policies.rules.get? rule.id = some rule ∧
    rule.policyId = policy.id ∧ entry = (.str rule.id, .int number)
  numbered : ∀ rule given, system.policies.rules.get? rule.id = some rule →
    (.str rule.id, given) ∈ entries → ∃ number, (.str rule.id, .int number) ∈ entries ∧
      after.policies.rules.get? rule.id = some { rule with order := number }
  others : ∀ id, (∀ given, (.str id, given) ∉ entries) →
    after.policies.rules.get? id = system.policies.rules.get? id
  policies : after.policies.policies = system.policies.policies
  roles : after.roles = system.roles

end System

/-! ## Fields -/

namespace Cleaning

variable {α β : Type} {changes : Bindings} {field : String} {clean : Value → Except Error α}

/-- A field after some changes: what is given for it, cleaned, or what it has been where nothing is given
for it. -/
inductive Replaced (changes : Bindings) (field : String) (clean : Value → Except Error α) (before : α) :
    α → Prop
  | kept (isMissing : changes.lookup field = none) : Replaced changes field clean before before
  | given {value : Value} {now : α} (isGiven : changes.lookup field = some value)
      (isClean : clean value = .ok now) : Replaced changes field clean before now

theorem replaced_of_change {found : Option α} (changed : change changes field clean = .ok found)
    (before : α) : Replaced changes field clean before (found.getD before) := by
  unfold change at changed
  split at changed
  · rename_i isMissing
    cases changed
    exact .kept isMissing
  · rename_i value isGiven
    obtain ⟨now, isClean, rfl⟩ := Except.map_eq_ok_iff.1 changed
    exact .given isGiven isClean

theorem change_map {found : Option α} (changed : change changes field clean = .ok found)
    (write : α → β) :
    change changes field (fun value => (clean value).map write) = .ok (found.map write) := by
  unfold change at changed ⊢
  split at changed
  · cases changed
    rfl
  · obtain ⟨now, isClean, rfl⟩ := Except.map_eq_ok_iff.1 changed
    dsimp only
    rw [isClean]
    rfl

/-- Only fields that can be changed are among changes that are known. -/
theorem mem_of_knownFields {known : List String} (areKnown : knownFields changes known = .ok ())
    {given : String × Value} (member : given ∈ changes) : given.1 ∈ known := by
  by_contra isUnknown
  have isListed : given.1 ∈ ((changes.map Prod.fst).filter fun name =>
      !known.contains name).mergeSort textsInOrder := by
    rw [List.mem_mergeSort, List.mem_filter]
    exact ⟨List.mem_map_of_mem member, by simpa using isUnknown⟩
  unfold knownFields at areKnown
  dsimp only at areKnown
  split at areKnown
  · rename_i isEmpty
    rw [isEmpty] at isListed
    cases isListed
  · cases areKnown

end Cleaning

end Authorization
