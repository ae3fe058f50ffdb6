import Authorization.Proofs.Administration.Appending
import Authorization.Proofs.Decision.Twins
import Authorization.Proofs.System.Sealed

/-!
# Copies of policies

With a policy store in memory, to copy a policy adds a policy and to it one copy of each of the listed
rules, in turn, each under the identifier that is drawn for it, and changes nothing else that is stored.
The copies are listed by their numbers, which are those of the rules, and then by the new identifiers. So
they stand in the order of the rules, and the chain of the copy reports what the chain of the policy does,
line by line, as long as the identifiers of rules with one number are drawn in increasing order. Otherwise
these rules may change places, and the lines of the reports with them.
-/

namespace Authorization

open Service

variable {catalog : RuleCatalog} {fixed : Keyed String PolicyChain} {system after : System}

/-! ## Copies of rules -/

namespace PolicyAdministration

/-- Copies of rules with sealed configurations repeat them. -/
theorem forall₂_copiesOf (policyId : String) {rules : List PolicyRule}
    (areSealed : ∀ rule ∈ rules, rule.Sealed) (ids : IdSource) :
    List.Forall₂ PolicyRule.Repeats rules (copiesOf policyId ids rules) := by
  induction rules generalizing ids with
  | nil => exact .nil
  | cons rule rest inductionHypothesis =>
      obtain ⟨isSealed, restSealed⟩ := List.forall_mem_cons.1 areSealed
      refine .cons ?_ (inductionHypothesis restSealed _)
      rw [PolicyRule.Repeats, isSealed]

theorem ids_copiesOf (policyId : String) (ids : IdSource) (rules : List PolicyRule) :
    (copiesOf policyId ids rules).map PolicyRule.id =
      (List.range' (ids.drawn + 1) rules.length).map ids.spell := by
  induction rules generalizing ids with
  | nil => rfl
  | cons rule rest inductionHypothesis =>
      rw [copiesOf, List.map_cons, inductionHypothesis, List.length_cons, List.range'_succ,
        List.map_cons]

theorem policyId_of_mem_copiesOf {policyId : String} {ids : IdSource} {rules : List PolicyRule} :
    ∀ copy ∈ copiesOf policyId ids rules, copy.policyId = policyId := by
  induction rules generalizing ids with
  | nil => exact List.forall_mem_nil _
  | cons rule rest inductionHypothesis =>
      exact List.forall_mem_cons.2 ⟨rfl, inductionHypothesis⟩

end PolicyAdministration

namespace PolicyRule

variable {rules listed made : List PolicyRule} {policyId : String}

/-- The active ones of the rules that are listed for a policy. -/
theorem areActive_of_isListing (isListing : IsListing place
      (fun rule => rule ∈ rules ∧ rule.policyId = policyId) listed) :
    AreActive rules policyId (listed.filter fun rule => rule.active.truthy) := by
  refine ⟨isListing.ordered.sublist List.filter_sublist, fun rule => ?_⟩
  rw [List.mem_filter, isListing.complete, and_assoc]

theorem filter_active_of_repeats (repeats : List.Forall₂ Repeats listed made) :
    List.Forall₂ Repeats (listed.filter fun rule => rule.active.truthy)
      (made.filter fun rule => rule.active.truthy) := by
  refine List.rel_filter (fun rule copy isRepeated => ?_) repeats
  rw [isRepeated]

/-- Copies of rules in order are in order when those with one number have increasing identifiers. -/
theorem pairwise_place_of_repeats (repeats : List.Forall₂ Repeats listed made)
    (ordered : listed.Pairwise fun rule other => rule.place < other.place)
    (ascending : made.Pairwise fun rule other =>
      rule.order = other.order → codesOf rule.id < codesOf other.id) :
    made.Pairwise fun rule other => rule.place < other.place := by
  have sameNumbers : listed.map order = made.map order := by
    rw [← List.forall₂_eq_eq_eq, List.forall₂_map_left_iff, List.forall₂_map_right_iff]
    refine repeats.imp fun rule copy isRepeated => ?_
    rw [isRepeated]
  have numbered : (made.map order).Pairwise (· ≤ ·) := by
    rw [← sameNumbers, List.pairwise_map]
    refine ordered.imp fun {rule other} less => ?_
    rw [place, place, Prod.Lex.toLex_lt_toLex] at less
    exact less.elim le_of_lt fun tied => tied.1.le
  refine (List.pairwise_map.1 numbered).imp₂ (fun rule other inOrder ascends => ?_) ascending
  rw [place, place, Prod.Lex.toLex_lt_toLex]
  exact inOrder.lt_or_eq.imp_right fun same => ⟨same, ascends same⟩

end PolicyRule

/-! ## A store with one policy more -/

namespace PolicyStore

variable {store middle next : PolicyStore} {policy : Policy} {rules : List PolicyRule}

/-- A store has gained a policy under a new identifier, with some rules, and nothing else. -/
structure GainsPolicy (store next : PolicyStore) (policy : Policy) (rules : List PolicyRule) :
    Prop where
  isNew : ¬store.Uses policy.id
  owned : ∀ rule ∈ rules, rule.policyId = policy.id
  isNext : next = { store with
    policies := store.policies ++ [(policy.id, policy)]
    rules := store.rules ++ rules.map fun rule => (rule.id, rule) }

/-- In memory a policy and rules under new identifiers are added to what is there. -/
theorem gainsPolicy_of_saved (inMemory : store.backend = .memory) (sound : store.Sound)
    (isNew : ¬store.Uses policy.id) (rulesNew : ∀ rule ∈ rules, ¬store.Uses rule.id)
    (distinct : (rules.map PolicyRule.id).Nodup) (owned : ∀ rule ∈ rules, rule.policyId = policy.id)
    (saved : store.savePolicy policy = .ok middle) (rulesSaved : middle.saveRules rules = .ok next) :
    store.GainsPolicy next policy rules := by
  have middleInMemory := (Step.savePolicy saved).sameBackend.trans inMemory
  have absent : store.policies.has policy.id = false := by
    rw [Bool.eq_false_iff]
    intro isThere
    exact isNew (.inl (sound.policies.has_iff.1 isThere))
  have rulesAbsent : ∀ rule ∈ rules, store.rules.has rule.id = false := by
    intro rule member
    rw [Bool.eq_false_iff]
    intro isThere
    exact rulesNew rule member (.inr (sound.rules.has_iff.1 isThere))
  obtain ⟨_, rfl⟩ := (savePolicy_memory_iff inMemory).1 saved
  obtain ⟨_, rfl⟩ := (saveRules_memory_iff middleInMemory).1 rulesSaved
  refine ⟨isNew, owned, ?_⟩
  rw [Keyed.put_of_absent absent, Keyed.puts_of_new (fun _ _ => rfl) rulesAbsent
    (List.pairwise_map.1 distinct)]
  rfl

namespace GainsPolicy

variable (gains : store.GainsPolicy next policy rules)

include gains

theorem values_policies : next.policies.values = store.policies.values ++ [policy] := by
  rw [gains.isNext, Keyed.values, Keyed.values, List.map_append]
  rfl

theorem mem_policies {other : Policy} :
    other ∈ next.policies.values ↔ other ∈ store.policies.values ∨ other = policy := by
  rw [gains.values_policies, List.mem_append, List.mem_singleton]

theorem id_ne {other : Policy} (stored : other ∈ store.policies.values) : other.id ≠ policy.id :=
  fun same => gains.isNew (.inl ⟨other, stored, same⟩)

theorem values_rules : next.rules.values = store.rules.values ++ rules := by
  rw [gains.isNext, Keyed.values, Keyed.values, List.map_append, List.map_map]
  exact congrArg _ (List.map_id _)

theorem rulesWithin_own (sound : store.Sound) : next.rulesWithin policy.id = rules := by
  have noneBefore : store.rules.values.filter (fun rule => rule.policyId == policy.id) = [] := by
    rw [List.filter_eq_nil_iff]
    intro rule member isOwn
    obtain ⟨owner, isStored, isOwner⟩ := sound.owned rule member
    exact gains.isNew (.inl ⟨owner, isStored, isOwner.trans (beq_iff_eq.1 isOwn)⟩)
  have allOwn : rules.filter (fun rule => rule.policyId == policy.id) = rules := by
    rw [List.filter_eq_self]
    exact fun rule member => beq_iff_eq.2 (gains.owned rule member)
  rw [rulesWithin, gains.values_rules, List.filter_append, noneBefore, allOwn, List.nil_append]

theorem rulesWithin_other {id : String} (apart : id ≠ policy.id) :
    next.rulesWithin id = store.rulesWithin id := by
  have noneNew : rules.filter (fun rule => rule.policyId == id) = [] := by
    rw [List.filter_eq_nil_iff]
    intro rule member isOther
    exact apart ((beq_iff_eq.1 isOther).symm.trans (gains.owned rule member))
  rw [rulesWithin, gains.values_rules, List.filter_append, noneNew, List.append_nil, rulesWithin]

/-- The chains of other policies are what they were. -/
theorem chains_other [Host] {other : Policy} (apart : other.id ≠ policy.id) {chain : PolicyChain}
    {issue? : Option BuildIssue} (chains : store.Chains catalog other chain issue?) :
    next.Chains catalog other chain issue? := by
  obtain ⟨active, areActive, builds⟩ := chains
  refine ⟨active, areActive.congr fun rule isOther => ?_, builds⟩
  rw [gains.values_rules, List.mem_append]
  refine ⟨.inl, fun either => either.resolve_right fun member => ?_⟩
  exact apart (isOther.symm.trans (gains.owned rule member))

end GainsPolicy

end PolicyStore

/-! ## Copying a policy -/

namespace System

/-- A system that has gained a policy keeps its policies in memory still. -/
theorem InMemory.ofGains [Host] (inMemory : system.InMemory catalog fixed) {policy : Policy}
    (gains : system.Gains catalog fixed policy after) : after.InMemory catalog fixed :=
  ⟨gains.toOrderly, (PolicyStore.Step.savePolicy gains.saved).sameBackend.trans inMemory.backend,
    gains.listeners ▸ inMemory.hearOnce⟩

variable {number another : Nat}

/-- In memory an identifier that is still to be drawn is not in use. -/
theorem FreshIds.unused_memory (fresh : system.FreshIds)
    (inMemory : system.policies.backend = .memory) (isLater : system.ids.drawn < number) :
    ¬system.policies.Uses (system.ids.spell number) := by
  refine fresh.policies.unused number _ isLater ?_
  rw [inMemory, Backend.identifier_memory_iff]

/-- In memory no identifier is drawn twice. -/
theorem FreshIds.distinct_memory (fresh : system.FreshIds)
    (inMemory : system.policies.backend = .memory) (isLater : system.ids.drawn < number)
    (anotherIsLater : system.ids.drawn < another)
    (same : system.ids.spell number = system.ids.spell another) : number = another := by
  refine fresh.policies.distinct number another (system.ids.spell another) isLater anotherIsLater ?_ ?_
  · rw [inMemory, Backend.identifier_memory_iff, same]
  · rw [inMemory, Backend.identifier_memory_iff]

/-- In memory the identifiers that are drawn for records are new and differ from one another. -/
theorem FreshIds.unused_and_distinct (fresh : system.FreshIds)
    (inMemory : system.policies.backend = .memory) {made : List PolicyRule} {first count : Nat}
    (drawn : made.map PolicyRule.id =
      (List.range' (system.ids.drawn + 1 + first) count).map system.ids.spell) :
    (∀ rule ∈ made, ¬system.policies.Uses rule.id) ∧ (made.map PolicyRule.id).Nodup := by
  have areLater : ∀ number ∈ List.range' (system.ids.drawn + 1 + first) count,
      system.ids.drawn < number := by
    intro number member
    have isLater := (List.mem_range'_1.1 member).1
    omega
  rw [drawn]
  refine ⟨fun rule member => ?_,
    List.Nodup.map_on (fun number member another anotherMember same => ?_) List.nodup_range'⟩
  · have isId : rule.id ∈ made.map PolicyRule.id := List.mem_map_of_mem member
    rw [drawn] at isId
    obtain ⟨number, isDrawn, same⟩ := List.mem_map.1 isId
    rw [← same]
    exact fresh.unused_memory inMemory (areLater number isDrawn)
  · exact fresh.distinct_memory inMemory (areLater number member) (areLater another anotherMember)
      same

end System

namespace PolicyAdministration

variable {organization sourceId name key description actor : Value} {source copy : Policy}
  {listed made copied : List PolicyRule}

/-- What copying a policy saves. -/
theorem saved_of_clone [Host] (inMemory : system.InMemory catalog fixed) (fresh : system.FreshIds)
    (succeeds : exec (clone organization sourceId name key description actor) system =
      (.ok copy, after)) :
    ∃ source, exec (find organization sourceId) system = (.ok source, system) ∧
      IsCreated organization name key (copyDescription source description) (.bool true) copy ∧
      copy.id = system.ids.spell (system.ids.drawn + 1) ∧
      (∃ middle, system.policies.savePolicy copy = .ok middle ∧
        middle.saveRules (copiesOf copy.id { system.ids with drawn := system.ids.drawn + 1 }
          (PolicyRule.sorted (system.policies.rulesWithin source.id))) = .ok after.policies) ∧
      after.roles = system.roles ∧ after.InMemory catalog fixed := by
  obtain ⟨found, looked⟩ := exists_exec_find inMemory.unplanned organization sourceId
  unfold clone at succeeds
  obtain ⟨source, rfl, succeeds⟩ := exec_read looked succeeds
  obtain ⟨rules, areListed, succeeds⟩ :=
    exec_read (exec_rulesOfPolicy_memory inMemory source.id) succeeds
  cases areListed
  obtain ⟨created, middle, creating, succeeds⟩ := exec_bind_eq_ok succeeds
  obtain ⟨⟨⟩, later, copying, succeeds⟩ := exec_bind_eq_ok succeeds
  obtain ⟨⟨⟩, last, noting, succeeds⟩ := exec_bind_eq_ok succeeds
  cases succeeds
  obtain ⟨isCreated, isDrawn, sameIds, gains⟩ := gains_of_create inMemory.toOrderly creating
  have middleInMemory := inMemory.ofGains gains
  have makes := exec_mapM_copyRule copy.id
    (PolicyRule.sorted (system.policies.rulesWithin source.id)) middle
  rcases saving : exec (saveRules ((PolicyRule.sorted
      (system.policies.rulesWithin source.id)).mapM (copyRule copy.id))) middle with
    ⟨error | value, next⟩
  · obtain ⟨final, fails, _⟩ := exec_copyRules_of_error inMemory.toOrderly
      (fresh.unused_of_drawn isDrawn) gains saving organization source
    rw [fails] at copying
    cases copying
  · rw [exec_copyRules_of_ok saving organization source] at copying
    cases copying
    obtain ⟨rulesSaved, laterInMemory, others⟩ :=
      (middleInMemory.withIds _).savedFrom middleInMemory.unplanned makes saving
    obtain ⟨lastInMemory, sameButJournal⟩ := laterInMemory.noted noting
    refine ⟨source, looked, isCreated, isDrawn, ⟨middle.policies, gains.saved, ?_⟩, ?_,
      lastInMemory⟩
    · rw [sameButJournal, ← sameIds]
      exact rulesSaved
    · rw [sameButJournal, others]
      exact gains.sameRoles

section Possible

variable {written owner named keyed : String} {described : Option String}

/-- With a policy store in memory, a policy is created when what is given for it is right and its key is
free. -/
theorem exists_exec_create [Host] (inMemory : system.InMemory catalog fixed)
    (isWritten : actor.toText = .ok written)
    (isOwner : Cleaning.text "organization_id" organization = .ok owner)
    (isNamed : Cleaning.text "name" name = .ok named) (isKeyed : Cleaning.key key = .ok keyed)
    (isDescribed : Cleaning.optionalText "description" description = .ok described)
    (free : ∀ policy ∈ system.policies.policies.values, policy.key = keyed →
      policy.organization ≠ owner) (active : Bool) :
    ∃ policy after, exec (create organization name key description (.bool active) actor) system =
      (.ok policy, after) := by
  have asked : system.policies.backend.asks [.str keyed, .str owner] = .ok () := by
    rw [inMemory.backend]
    rfl
  have unused : (system.policies.policyByKey? (.str keyed) (.str owner)).isSome = false := by
    rw [Bool.eq_false_iff, PolicyStore.policyByKey?, ne_eq, List.find?_isSome]
    rintro ⟨policy, member, matched⟩
    rw [inMemory.backend, Bool.and_eq_true, Backend.matchesText, Backend.matchesText,
      Value.equal_str_iff, Value.equal_str_iff] at matched
    exact free policy member (Value.str.inj matched.1).symm (Value.str.inj matched.2).symm
  have noClash (id : String) (description : Value) : system.policies.hasClash
      ⟨id, keyed, named, owner, description, .bool active⟩ = false := by
    rw [Bool.eq_false_iff, PolicyStore.hasClash, ne_eq, List.any_eq_true]
    rintro ⟨policy, member, clashes⟩
    rw [Bool.and_eq_true, Bool.and_eq_true, beq_iff_eq, beq_iff_eq] at clashes
    exact free policy member clashes.1.2 clashes.2
  have created := exec_create_of_free inMemory.toOrderly isWritten isOwner isNamed isKeyed isDescribed
    active asked unused
    ((PolicyStore.savePolicy_memory_iff inMemory.backend).2 ⟨noClash _ _, rfl⟩)
  exact ⟨_, _, Prod.ext created rfl⟩

/-- A policy that is there is copied when what is given for the copy is right and its key is free. -/
theorem exists_exec_clone [Host] (inMemory : system.InMemory catalog fixed)
    (isWritten : actor.toText = .ok written)
    (found : exec (find organization sourceId) system = (.ok source, system))
    (isOwner : Cleaning.text "organization_id" organization = .ok owner)
    (isNamed : Cleaning.text "name" name = .ok named) (isKeyed : Cleaning.key key = .ok keyed)
    (isDescribed : Cleaning.optionalText "description" (copyDescription source description) =
      .ok described)
    (free : ∀ policy ∈ system.policies.policies.values, policy.key = keyed →
      policy.organization ≠ owner) :
    ∃ copy after, exec (clone organization sourceId name key description actor) system =
      (.ok copy, after) := by
  obtain ⟨copy, middle, creating⟩ :=
    exists_exec_create inMemory isWritten isOwner isNamed isKeyed isDescribed free true
  obtain ⟨_, _, _, gains⟩ := gains_of_create inMemory.toOrderly creating
  have middleInMemory := inMemory.ofGains gains
  obtain ⟨_, isMiddle⟩ := (PolicyStore.savePolicy_memory_iff inMemory.backend).1 gains.saved
  have isThere : middle.policies.policies.has copy.id = true := by
    rw [isMiddle, Keyed.has, Keyed.get?_put, if_pos rfl]
    rfl
  have areOwned : ∀ rule ∈ copiesOf copy.id middle.ids
      (PolicyRule.sorted (system.policies.rulesWithin source.id)),
      middle.policies.policies.has rule.policyId = true := by
    intro rule member
    rw [policyId_of_mem_copiesOf rule member]
    exact isThere
  have makes := exec_mapM_copyRule copy.id
    (PolicyRule.sorted (system.policies.rulesWithin source.id)) middle
  obtain ⟨later, saving, _⟩ :=
    exec_saveRules gains.unplanned makes (middleInMemory.withIds _).toOrderly
  rw [(PolicyStore.saveRules_memory_iff middleInMemory.backend).2 ⟨areOwned, rfl⟩] at saving
  have listed : system.policies.rulesOf (.str source.id) =
      .ok (PolicyRule.sorted (system.policies.rulesWithin source.id)) :=
    PolicyStore.rulesOf_str (inMemory.backend ▸ rfl)
  rw [exec_clone_of_found inMemory.unplanned found listed, exec_bind_of_ok creating,
    exec_bind_of_ok (exec_copyRules_of_ok saving organization source),
    exec_bind_of_ok (exec_noteChange isWritten _ _ later)]
  exact ⟨copy, _, rfl⟩

end Possible

/-- What a copy is, where `listed` are the rules of a policy in their order, `made` their copies in that
order and `copied` the copies as they are listed: each rule is copied, under the identifiers that are
drawn, the copies are added, and nothing else that is stored is changed. -/
structure Cloned (organization sourceId : Value) (source copy : Policy)
    (listed made copied : List PolicyRule) (system after : System) : Prop where
  found : exec (find organization sourceId) system = (.ok source, system)
  isListed : exec (listRules organization sourceId) system = (.ok listed, system)
  isListedStill : exec (listRules organization sourceId) after = (.ok listed, after)
  isCopied : exec (listRules (.str copy.organization) (.str copy.id)) after = (.ok copied, after)
  repeats : List.Forall₂ PolicyRule.Repeats listed made
  drawn : made.map PolicyRule.id =
    (List.range' (system.ids.drawn + 2) listed.length).map system.ids.spell
  areNew : ∀ rule ∈ made, ¬system.policies.Uses rule.id
  distinct : (made.map PolicyRule.id).Nodup
  gains : system.policies.GainsPolicy after.policies copy made
  roles : after.roles = system.roles
  perm : copied.Perm made
  ordered : copied.Pairwise fun rule other => rule.place < other.place
  inTurn : (made.Pairwise fun rule other =>
    rule.order = other.order → codesOf rule.id < codesOf other.id) → copied = made

/-- What the chains of a policy and of its copy report. -/
structure ReportsAlike [Host] (inTurn : Prop) (chain copyChain : PolicyChain) : Prop where
  lineByLine : inTurn → ∀ attributes journal later, journal.cursors = later.cursors →
    copyChain.lines attributes later = chain.lines attributes journal ∧
      (copyChain.report attributes later).allowed = (chain.report attributes journal).allowed
  inSomeOrder : ∀ attributes : DecisionAttributes, attributes.Repeatable → ∀ journal later,
    (copyChain.lines attributes later).Perm (chain.lines attributes journal) ∧
      (copyChain.report attributes later).allowed = (chain.report attributes journal).allowed

/-- What is saved for a copy makes it one. -/
theorem cloned_of_saved [Host] (inMemory : system.InMemory catalog fixed) (fresh : system.FreshIds)
    (isSealed : system.policies.Sealed)
    (found : exec (find organization sourceId) system = (.ok source, system))
    (isDrawn : copy.id = system.ids.spell (system.ids.drawn + 1)) {middle : PolicyStore}
    (saved : system.policies.savePolicy copy = .ok middle)
    (rulesSaved : middle.saveRules (copiesOf copy.id
      { system.ids with drawn := system.ids.drawn + 1 }
      (PolicyRule.sorted (system.policies.rulesWithin source.id))) = .ok after.policies)
    (sameRoles : after.roles = system.roles) (afterInMemory : after.InMemory catalog fixed) :
    ∃ made copied, Cloned organization sourceId source copy
      (PolicyRule.sorted (system.policies.rulesWithin source.id)) made copied system after := by
  obtain ⟨stored, isSource, isOwn⟩ := (find_eq_ok_iff inMemory).1 found
  generalize isMade : copiesOf copy.id { system.ids with drawn := system.ids.drawn + 1 }
    (PolicyRule.sorted (system.policies.rulesWithin source.id)) = made at rulesSaved
  have drawn := ids_copiesOf copy.id { system.ids with drawn := system.ids.drawn + 1 }
    (PolicyRule.sorted (system.policies.rulesWithin source.id))
  rw [isMade] at drawn
  obtain ⟨areNew, distinct⟩ := fresh.unused_and_distinct inMemory.backend drawn
  have isNew : ¬system.policies.Uses copy.id := by
    rw [isDrawn]
    exact fresh.unused_memory inMemory.backend (Nat.lt_succ_self _)
  have gains := PolicyStore.gainsPolicy_of_saved inMemory.backend inMemory.policies isNew areNew
    distinct (isMade ▸ policyId_of_mem_copiesOf) saved rulesSaved
  have foundStill : exec (find organization sourceId) after = (.ok source, after) :=
    (find_eq_ok_iff afterInMemory).2 ⟨gains.mem_policies.2 (.inl stored), isSource, isOwn⟩
  have copyFound : exec (find (.str copy.organization) (.str copy.id)) after = (.ok copy, after) :=
    (find_eq_ok_iff afterInMemory).2 ⟨gains.mem_policies.2 (.inr rfl), rfl, rfl⟩
  have listing := inMemory.policies.isListing_rulesWithin source.id
  have copyListing := afterInMemory.policies.isListing_rulesWithin copy.id
  rw [gains.rulesWithin_own inMemory.policies] at copyListing
  have repeats : List.Forall₂ PolicyRule.Repeats _ made :=
    isMade ▸ forall₂_copiesOf copy.id (fun rule member =>
      isSealed rule ((listing.complete rule).1 member).1) _
  refine ⟨made, PolicyRule.sorted made, found, exec_listRules_memory inMemory found, ?_, ?_, repeats,
    drawn, areNew, distinct, gains, sameRoles, List.mergeSort_perm _ _, copyListing.ordered,
    fun ascending => eq_of_pairwise_lt copyListing.ordered
      (PolicyRule.pairwise_place_of_repeats repeats listing.ordered ascending)
      fun rule => PolicyRule.mem_sorted⟩
  · rw [exec_listRules_memory afterInMemory foundStill, gains.rulesWithin_other (gains.id_ne stored)]
  · rw [exec_listRules_memory afterInMemory copyFound, gains.rulesWithin_own inMemory.policies]

/-- A policy that has been copied has a copy. -/
theorem cloned_of_clone [Host] (inMemory : system.InMemory catalog fixed) (fresh : system.FreshIds)
    (isSealed : system.policies.Sealed)
    (succeeds : exec (clone organization sourceId name key description actor) system =
      (.ok copy, after)) :
    ∃ source listed made copied,
      IsCreated organization name key (copyDescription source description) (.bool true) copy ∧
      Cloned organization sourceId source copy listed made copied system after ∧
      after.InMemory catalog fixed := by
  obtain ⟨source, found, isCreated, isDrawn, ⟨middle, saved, rulesSaved⟩, sameRoles, afterInMemory⟩ :=
    saved_of_clone inMemory fresh succeeds
  obtain ⟨made, copied, cloned⟩ := cloned_of_saved inMemory fresh isSealed found isDrawn saved
    rulesSaved sameRoles afterInMemory
  exact ⟨source, _, made, copied, isCreated, cloned, afterInMemory⟩

/-- The chains of a policy and of its copy report alike. -/
theorem exists_reportsAlike [Host] (inMemory : system.InMemory catalog fixed)
    (afterInMemory : after.InMemory catalog fixed)
    (cloned : Cloned organization sourceId source copy listed made copied system after) :
    ∃ chain copyChain, system.registry.snapshot.chainForPolicy source.id = some chain ∧
      after.registry.snapshot.chainForPolicy source.id = some chain ∧
      after.registry.snapshot.chainForPolicy copy.id = some copyChain ∧
      ReportsAlike (copied = made) chain copyChain := by
  have gains := cloned.gains
  obtain ⟨stored, _, _⟩ := (find_eq_ok_iff inMemory).1 cloned.found
  have storedStill := gains.mem_policies.2 (.inl stored)
  have copyStored := gains.mem_policies.2 (.inr rfl)
  obtain ⟨issue?, chains⟩ := @Registry.chains_chainIn _ catalog _ inMemory.policies source
  obtain ⟨copyIssue?, copyChains⟩ := @Registry.chains_chainIn _ catalog _ afterInMemory.policies copy
  refine ⟨_, _, (inMemory.agrees.chainForPolicy source.id _).2 (.stored stored rfl chains),
    (afterInMemory.agrees.chainForPolicy source.id _).2
      (.stored storedStill rfl (gains.chains_other (gains.id_ne stored) chains)),
    (afterInMemory.agrees.chainForPolicy copy.id _).2 (.stored copyStored rfl copyChains), ?_⟩
  have isListed := cloned.isListed
  rw [exec_listRules_memory inMemory cloned.found] at isListed
  obtain rfl : PolicyRule.sorted (system.policies.rulesWithin source.id) = listed :=
    Except.ok.inj (congrArg Prod.fst isListed)
  have listing := inMemory.policies.isListing_rulesWithin source.id
  have copyListing : IsListing PolicyRule.place
      (fun rule => rule ∈ after.policies.rules.values ∧ rule.policyId = copy.id) copied := by
    refine ⟨cloned.ordered, fun rule => ?_⟩
    rw [cloned.perm.mem_iff, ← PolicyStore.mem_rulesWithin, gains.rulesWithin_own inMemory.policies]
  obtain ⟨active, areActive, builds⟩ := chains
  obtain ⟨copyActive, areCopyActive, copyBuilds⟩ := copyChains
  rw [areActive.unique (PolicyRule.areActive_of_isListing listing)] at builds
  rw [areCopyActive.unique (PolicyRule.areActive_of_isListing copyListing)] at copyBuilds
  have repeats := PolicyRule.filter_active_of_repeats cloned.repeats
  constructor
  · rintro rfl attributes journal later same
    have sameLines := (builds.twins copyBuilds repeats).lines_eq (builds.isNotable attributes)
      (copyBuilds.isNotable attributes) same
    exact ⟨sameLines, PolicyChain.allowed_eq_of_perm (.of_eq sameLines)⟩
  · intro attributes repeatable journal later
    have kin := builds.kin copyBuilds repeats (cloned.perm.symm.filter _)
    have samePerm := kin.lines_perm (builds.isNotable attributes) (copyBuilds.isNotable attributes)
      (builds.steady repeatable) journal later
    exact ⟨samePerm, PolicyChain.allowed_eq_of_perm samePerm⟩

/-- In a system in use that was put together with a policy store in memory and draws fresh identifiers, the
copy of a policy is an active policy of the organization, trimmed, under the name and the key that are
given for it, cleaned. Its rules repeat those of the policy under the identifiers that are drawn for them,
and nothing else that is stored is changed. When the identifiers of rules with one number are drawn in
increasing order, the rules of the copy are listed in the order of those of the policy, and the chains of
both report the same of every decision, line by line. In any case they are listed by number and then by
identifier, and on what can be gone through again the chains report the same lines in some order and
decide the same. -/
theorem clone_repeats_policy [Host] {parts : Parts} {start : System} (roles : parts.roles.Accepted)
    (policies : parts.policies.Accepted) (inMemory : parts.policies.backend = .memory)
    (assembled : assemble parts = .ok start) (ids : IdSource)
    (reaches : System.Reaches { start with ids } system) (fresh : system.FreshIds)
    (succeeds : exec (clone organization sourceId name key description actor) system =
      (.ok copy, after)) :
    (Cleaning.text "organization_id" organization = .ok copy.organization ∧
      Cleaning.text "name" name = .ok copy.name ∧ Cleaning.key key = .ok copy.key ∧
      copy.active = .bool true) ∧
    ∃ source listed made copied,
      Cloned organization sourceId source copy listed made copied system after ∧
      ∃ chain copyChain, system.registry.snapshot.chainForPolicy source.id = some chain ∧
        after.registry.snapshot.chainForPolicy source.id = some chain ∧
        after.registry.snapshot.chainForPolicy copy.id = some copyChain ∧
        ReportsAlike (copied = made) chain copyChain := by
  obtain ⟨catalog, fixed, isInMemory⟩ := reaches.exists_inMemory roles policies inMemory assembled ids
  have isSealed := reaches.sealed policies inMemory assembled ids
  obtain ⟨source, listed, made, copied, isCreated, cloned, afterInMemory⟩ :=
    cloned_of_clone isInMemory fresh isSealed succeeds
  refine ⟨⟨isCreated.organization, isCreated.name, isCreated.key, ?_⟩, source, listed, made, copied,
    cloned, exists_reportsAlike isInMemory afterInMemory cloned⟩
  exact (Except.ok.inj isCreated.active).symm

/-! ## Rules with one number -/

/-- A policy with two rules that have one number, and one of an organization with blanks around its
name. -/
def partsOfTies : Parts :=
  { policies :=
      { policies := [("p1", System.updatesPolicy),
          ("p2", { System.updatesPolicy with id := "p2", organization := " acme " })]
        rules := [("r1", ⟨"r1", "p1", "Owners", "ownership", .proxy [], 1, .bool true, .null⟩),
          ("r2", ⟨"r2", "p1", "Colleagues", "same_organization", .proxy [], 1, .bool true, .null⟩)] }
    clock := ⟨0, some 0⟩
    isSeeded := false }

theorem accepted_partsOfTies : partsOfTies.roles.Accepted ∧ partsOfTies.policies.Accepted :=
  ⟨.made ⟨[], []⟩ rfl, .made ⟨[.list (partsOfTies.policies.policies.values.map Policy.toValue),
    .list (partsOfTies.policies.rules.values.map PolicyRule.toValue)], []⟩ rfl⟩

/-- No record is stored under an identifier like those that are drawn. -/
theorem unlike_partsOfTies {id : String} (isUsed : partsOfTies.policies.Uses id) :
    ¬"id-".toList <+: id.toList := by
  have policies : ∀ policy ∈ partsOfTies.policies.policies.values,
      ¬"id-".toList <+: policy.id.toList := by decide
  have rules : ∀ rule ∈ partsOfTies.policies.rules.values, ¬"id-".toList <+: rule.id.toList := by
    decide
  rcases isUsed with ⟨policy, member, rfl⟩ | ⟨rule, member, rfl⟩
  · exact policies policy member
  · exact rules rule member

/-- A system of these parts draws fresh identifiers, however many have been drawn. -/
theorem exists_systemOfTies [Host] (drawn : Nat) : ∃ start, assemble partsOfTies = .ok start ∧
    System.FreshIds { start with ids := { drawn } } ∧
    (∃ catalog fixed, System.InMemory catalog fixed { start with ids := { drawn } }) ∧
    start.policies = partsOfTies.policies := by
  obtain ⟨roles, policies⟩ := accepted_partsOfTies
  obtain ⟨registry, counted, journal, assembled⟩ :=
    @exists_assemble _ partsOfTies rfl roles.sound policies.sound
  refine ⟨_, assembled, ⟨?_, ?_⟩,
    System.Reaches.exists_inMemory roles policies rfl assembled _ .refl, rfl⟩
  · exact IdSource.avoids_numbered rfl fun id => unlike_partsOfTies
  · refine IdSource.avoids_numbered rfl ?_
    rintro id (⟨role, member, _⟩ | ⟨assignment, member, _⟩)
    · cases member
    · cases member

section

variable [Host] {catalog : RuleCatalog} {fixed : Keyed String PolicyChain} {system : System}
  (inMemory : system.InMemory catalog fixed) (ofTies : system.policies = partsOfTies.policies)

include inMemory ofTies

theorem find_partsOfTies : exec (find (.str "acme") (.str "p1")) system =
    (.ok System.updatesPolicy, system) := by
  rw [find_eq_ok_iff inMemory, ofTies]
  exact ⟨.head _, rfl, rfl⟩

/-- A policy of these is copied under another key. -/
theorem exists_exec_clone_partsOfTies {policy : Policy}
    (stored : policy ∈ partsOfTies.policies.policies.values)
    (isOwner : Cleaning.text "organization_id" (.str policy.organization) = .ok "acme") :
    ∃ copy after, exec (clone (.str policy.organization) (.str policy.id) (.str "Reads")
      (.str "customer:read") .null .null) system = (.ok copy, after) := by
  have found : exec (find (.str policy.organization) (.str policy.id)) system =
      (.ok policy, system) := by
    rw [find_eq_ok_iff inMemory, ofTies]
    exact ⟨stored, rfl, rfl⟩
  have isNamed : Cleaning.text "name" (.str "Reads") = .ok "Reads" := rfl
  have isKeyed : Cleaning.key (.str "customer:read") = .ok "customer:read" := rfl
  have otherKeys : ∀ policy ∈ partsOfTies.policies.policies.values,
      policy.key ≠ "customer:read" := by decide
  refine exists_exec_clone inMemory (rfl : Value.toText .null = .ok "None") found isOwner isNamed
    isKeyed rfl fun other member isKey => absurd isKey (otherKeys other (ofTies ▸ member))

/-- The two rules with one number, and their copies in turn. -/
theorem made_of_cloned {copy : Policy} {listed made copied : List PolicyRule} {source : Policy}
    (cloned : Cloned (.str "acme") (.str "p1") source copy listed made copied system after) :
    listed.map PolicyRule.name = ["Owners", "Colleagues"] ∧ ∃ owners colleagues,
      made = [owners, colleagues] ∧ owners.name = "Owners" ∧ colleagues.name = "Colleagues" ∧
      owners.order = 1 ∧ colleagues.order = 1 ∧
      owners.id = system.ids.spell (system.ids.drawn + 2) ∧
      colleagues.id = system.ids.spell (system.ids.drawn + 3) := by
  have isListed := exec_listRules_memory inMemory (find_partsOfTies inMemory ofTies)
  rw [cloned.isListed, ofTies] at isListed
  obtain rfl : listed = PolicyRule.sorted (partsOfTies.policies.rulesWithin "p1") :=
    Except.ok.inj (congrArg Prod.fst isListed)
  have inOrder : PolicyRule.sorted (partsOfTies.policies.rulesWithin "p1") =
      partsOfTies.policies.rules.values :=
    List.mergeSort_of_pairwise (by decide)
  have repeats := cloned.repeats
  have drawn := cloned.drawn
  rw [inOrder] at repeats drawn ⊢
  refine ⟨rfl, ?_⟩
  cases repeats with
  | cons isOwners repeats =>
      cases repeats with
      | cons isColleagues repeats =>
          cases repeats
          obtain ⟨ownersDrawn, colleaguesDrawn⟩ := List.cons.inj drawn
          refine ⟨_, _, rfl, ?_, ?_, ?_, ?_, ownersDrawn, (List.cons.inj colleaguesDrawn).1⟩
          · rw [isOwners]
          · rw [isColleagues]
          · rw [isOwners]
          · rw [isColleagues]

end

open scoped Host in
/-- After seven identifiers have been drawn, the copies of two rules with one number have the identifiers
"id-9" and "id-10" and change places. The copy of a policy of an organization with blanks around its name
belongs to the organization without them. -/
theorem clone_changes_places : partsOfTies.roles.Accepted ∧ partsOfTies.policies.Accepted ∧
    partsOfTies.policies.backend = .memory ∧
    ∃ start, assemble partsOfTies = .ok start ∧
      System.FreshIds { start with ids := { drawn := 7 } } ∧
      (∃ copy after listed copied,
        exec (clone (.str "acme") (.str "p1") (.str "Reads") (.str "customer:read") .null .null)
          { start with ids := { drawn := 7 } } = (.ok copy, after) ∧
        exec (listRules (.str "acme") (.str "p1")) after = (.ok listed, after) ∧
        exec (listRules (.str copy.organization) (.str copy.id)) after = (.ok copied, after) ∧
        listed.map PolicyRule.name = ["Owners", "Colleagues"] ∧
        copied.map PolicyRule.name = ["Colleagues", "Owners"]) ∧
      ∃ copy after,
        exec (clone (.str " acme ") (.str "p2") (.str "Reads") (.str "customer:read") .null .null)
          { start with ids := { drawn := 7 } } = (.ok copy, after) ∧
        copy.organization = "acme" := by
  obtain ⟨roles, policies⟩ := accepted_partsOfTies
  obtain ⟨start, assembled, fresh, ⟨catalog, fixed, inMemory⟩, ofTies⟩ := exists_systemOfTies 7
  have isSealed := System.Reaches.sealed policies rfl assembled { drawn := 7 } .refl
  refine ⟨roles, policies, rfl, start, assembled, fresh, ?_, ?_⟩
  · obtain ⟨copy, after, executed⟩ := exists_exec_clone_partsOfTies inMemory ofTies (.head _) rfl
    obtain ⟨source, listed, made, copied, _, cloned, _⟩ :=
      cloned_of_clone inMemory fresh isSealed executed
    refine ⟨copy, after, listed, copied, executed, cloned.isListedStill, cloned.isCopied, ?_⟩
    obtain ⟨names, owners, colleagues, rfl, isOwners, isColleagues, ownersNumber, colleaguesNumber,
      ownersDrawn, colleaguesDrawn⟩ := made_of_cloned inMemory ofTies cloned
    have tenthFirst : codesOf (IdStyle.numbered.spell 10) < codesOf (IdStyle.numbered.spell 9) := by
      decide
    have ownersId : owners.id = IdStyle.numbered.spell 9 := ownersDrawn
    have colleaguesId : colleagues.id = IdStyle.numbered.spell 10 := colleaguesDrawn
    have less : colleagues.place < owners.place := by
      rw [PolicyRule.place, PolicyRule.place, ownersNumber, colleaguesNumber, ownersId,
        colleaguesId, Prod.Lex.toLex_lt_toLex]
      exact .inr ⟨rfl, tenthFirst⟩
    have places : copied = [colleagues, owners] := by
      refine eq_of_pairwise_lt cloned.ordered (List.pairwise_pair.2 less) fun rule => ?_
      rw [cloned.perm.mem_iff]
      exact (List.Perm.swap _ _ []).mem_iff
    rw [places, List.map_cons, List.map_singleton, isOwners, isColleagues]
    exact ⟨names, rfl⟩
  · obtain ⟨copy, after, executed⟩ :=
      exists_exec_clone_partsOfTies inMemory ofTies (.tail _ (.head _)) rfl
    obtain ⟨_, _, _, _, isCreated, _⟩ := cloned_of_clone inMemory fresh isSealed executed
    exact ⟨copy, after, executed, (Except.ok.inj isCreated.organization).symm⟩

open scoped Host in
/-- With the identifiers "id-2" and "id-3" the copies stay in their places. -/
theorem clone_repeats_policy_ties : ∃ start, assemble partsOfTies = .ok start ∧
    System.FreshIds { start with ids := { drawn := 0 } } ∧
    ∃ copy after copied,
      exec (clone (.str "acme") (.str "p1") (.str "Reads") (.str "customer:read") .null .null)
        { start with ids := { drawn := 0 } } = (.ok copy, after) ∧
      exec (listRules (.str "acme") (.str copy.id)) after = (.ok copied, after) ∧
      copied.map PolicyRule.name = ["Owners", "Colleagues"] := by
  obtain ⟨roles, policies⟩ := accepted_partsOfTies
  obtain ⟨start, assembled, fresh, ⟨catalog, fixed, inMemory⟩, ofTies⟩ := exists_systemOfTies 0
  obtain ⟨copy, after, executed⟩ := exists_exec_clone_partsOfTies inMemory ofTies (.head _) rfl
  obtain ⟨⟨isOwn, _⟩, source, listed, made, copied, cloned, _⟩ :=
    clone_repeats_policy roles policies rfl assembled _ .refl fresh executed
  obtain ⟨_, owners, colleagues, rfl, isOwners, isColleagues, _, _, ownersDrawn, colleaguesDrawn⟩ :=
    made_of_cloned inMemory ofTies cloned
  have secondFirst : codesOf (IdStyle.numbered.spell 2) < codesOf (IdStyle.numbered.spell 3) := by
    decide
  have inTurn : copied = [owners, colleagues] := by
    refine cloned.inTurn (List.pairwise_pair.2 fun _ => ?_)
    rw [ownersDrawn, colleaguesDrawn]
    exact secondFirst
  have isCopied := cloned.isCopied
  rw [← Except.ok.inj isOwn] at isCopied
  refine ⟨start, assembled, fresh, copy, after, copied, executed, isCopied, ?_⟩
  rw [inTurn, List.map_cons, List.map_singleton, isOwners, isColleagues]

end PolicyAdministration

end Authorization
