import Authorization.Proofs.Decision.Bench
import Authorization.Proofs.Record
import Authorization.Proofs.System.Storing

/-!
# Keys in a system in use

The chain that is in charge of a key tells the key, and a key that is split tells its parts: no two
requests share a chain unless they are for one action on one resource. The keys of the stored policies
have all passed the check of keys, whoever stored them.
-/

namespace Authorization

open Service

variable {catalog : RuleCatalog} {fixed : Keyed String PolicyChain} {parts : Parts}
  {start system : System} {key : String} {organization : Option String} {chain : PolicyChain}

/-! ## The keys of chains -/

namespace PolicyTable

variable {table : PolicyTable} {found chains : Keyed String PolicyChain}

theorem key_of_addTo [Host] (told : ∀ entry ∈ found, entry.2.key = .str entry.1)
    (taken : addTo catalog found table = .ok chains) :
    ∀ entry ∈ chains, entry.2.key = .str entry.1 := by
  induction table generalizing found with
  | nil =>
      cases taken
      exact told
  | cons entry rest inductionHypothesis =>
      rw [addTo] at taken
      split at taken
      · cases taken
      · obtain ⟨made, isMade, taken⟩ := Except.bind_eq_ok_iff.1 taken
        obtain ⟨rules, _, isMade⟩ := Except.bind_eq_ok_iff.1 isMade
        cases isMade
        exact inductionHypothesis (List.forall_mem_append.2
          ⟨told, List.forall_mem_singleton.2 rfl⟩) taken

end PolicyTable

/-- The chain of a policy tells the key of the policy, also when it is rejected. -/
theorem PolicyStore.Chains.key_eq [Host] {store : PolicyStore} {policy : Policy}
    {issue? : Option BuildIssue} (chains : store.Chains catalog policy chain issue?) : chain.key = .str policy.key := by
  obtain ⟨active, _, builds⟩ := chains
  cases builds <;> rfl

/-- The chain that governs a key tells the key. -/
theorem PolicyStore.Governs.key_eq [Host] {store : PolicyStore}
    (told : ∀ entry ∈ fixed, entry.2.key = .str entry.1)
    (governs : store.Governs catalog fixed key organization (some chain)) : chain.key = .str key := by
  generalize isFound : some chain = found at governs
  cases governs with
  | stored _ isKey chains =>
      cases isFound
      rw [chains.key_eq, isKey]
  | fixed _ => exact told _ (Keyed.mem_of_get? isFound.symm)

/-- In a system in use, the chain that is in charge of a key tells the key. -/
theorem System.Reaches.key_of_chainFor [Host] (roles : parts.roles.Accepted)
    (policies : parts.policies.Accepted) (assembled : assemble parts = .ok start) {ids : IdSource}
    (reaches : System.Reaches { start with ids } system)
    (isFound : system.registry.snapshot.chainFor key organization = some chain) :
    chain.key = .str key := by
  obtain ⟨fixed, isTaken, started⟩ :=
    orderly_standard_of_assemble roles.sound policies.sound assembled
  have orderly := reaches.orderly (System.ofStores_orderly.others start _ _ _ _ _ _ started)
  exact ((orderly.agrees.chainFor _ _ _).1 isFound).key_eq
    (PolicyTable.key_of_addTo (List.forall_mem_nil _) isTaken)

/-! ## The keys of stored policies -/

namespace PolicyStore

variable {store next : PolicyStore}

/-- The keys of all policies have passed the check of keys. -/
def Checked (store : PolicyStore) : Prop :=
  ∀ policy ∈ store.policies.values, Key.isPolicyKey policy.key = true

namespace Checked

variable (checked : store.Checked)

include checked

theorem savePolicy {policy : Policy} (isKey : Key.isPolicyKey policy.key = true)
    (saved : store.savePolicy policy = .ok next) : next.Checked := by
  obtain ⟨kept, _, _, sameKey, _, _, _, rfl⟩ := savePolicy_eq_ok saved
  intro other member
  obtain ⟨entry, entryMember, rfl⟩ := List.mem_map.1 member
  rcases Keyed.mem_of_mem_put entryMember with rfl | old
  · dsimp only
    rw [sameKey]
    exact isKey
  · exact checked _ (List.mem_map_of_mem old)

theorem deletePolicy {id : Value} {answer : Bool}
    (deleted : store.deletePolicy id = .ok (next, answer)) : next.Checked := by
  rcases deletePolicy_eq_ok deleted with ⟨_, rfl, _⟩ | ⟨known, _, _, rfl, _⟩
  · exact checked
  · intro policy member
    obtain ⟨entry, entryMember, rfl⟩ := List.mem_map.1 member
    exact checked _ (List.mem_map_of_mem (List.mem_of_mem_filter entryMember))

theorem deleteRule {id : Value} {answer : Bool}
    (deleted : store.deleteRule id = .ok (next, answer)) : next.Checked := by
  rcases deleteRule_eq_ok deleted with ⟨_, rfl, _⟩ | ⟨known, _, rfl, _⟩ <;> exact checked

theorem saveRule {rule : PolicyRule} (saved : store.saveRule rule = .ok next) : next.Checked := by
  obtain ⟨kept, _, _, _, _, rfl⟩ := saveRule_eq_ok saved
  exact checked

theorem saveRules {rules : List PolicyRule} (saved : store.saveRules rules = .ok next) :
    next.Checked := by
  rw [saveRules_eq_foldlM] at saved
  exact foldlM_keeps (fun checked savedRule => Checked.saveRule checked savedRule) checked saved

theorem saveRuleValues {values : List Value}
    (saved : values.foldlM (fun found value => ruleOf value >>= found.saveRule) store = .ok next) :
    next.Checked := by
  refine foldlM_keeps (fun checked stepped => ?_) checked saved
  obtain ⟨rule, _, stepped⟩ := Except.bind_eq_ok_iff.1 stepped
  exact checked.saveRule stepped

end Checked

end PolicyStore

/-- Where all stored keys have been checked, so has the key of a policy that is saved. -/
theorem Policy.Keyed.isPolicyKey {roles : RoleStore → Prop} {policy : Policy}
    (keyed : policy.Keyed (System.Storing roles PolicyStore.Checked)) :
    Key.isPolicyKey policy.key = true := by
  cases keyed with
  | checked isKey => exact isKey
  | kept storing member sameKey =>
      rw [sameKey]
      exact storing.policies _ member

/-- That all keys have been checked is kept by whatever is saved. -/
theorem tending_checked [Host] : Tending (System.Storing (fun _ => True) PolicyStore.Checked)
    (fun _ _ => True) (fun _ => True) where
  toEnduring := System.Storing.enduring (fun _ _ _ _ => trivial)
    (fun _ _ _ checked keyed saved => checked.savePolicy keyed.isPolicyKey saved)
    (fun _ _ _ _ checked deleted => checked.deletePolicy deleted)
    fun _ _ _ _ checked deleted => checked.deleteRule deleted
  tried _ _ _ _ _ := trivial
  stored _ _ _ _ := trivial
  saveRules _ keeps yields := System.Storing.keeps_saveRules keeps yields
    fun _ _ _ checked _ saved => checked.saveRules saved
  saveRuleValues := System.Storing.keeps_saveRuleValues fun _ _ _ checked saved =>
    checked.saveRuleValues saved

/-- In a system in use, all keys have been checked when those of the policies from the start have. -/
theorem System.Reaches.checked [Host] (checked : parts.policies.Checked)
    (assembled : assemble parts = .ok start) {ids : IdSource}
    (reaches : System.Reaches { start with ids } system) : system.policies.Checked := by
  have started : start.Storing (fun _ => True) PolicyStore.Checked :=
    .of_assemble (fun _ _ _ _ => trivial) trivial checked assembled
  have storing := reaches.tends tending_checked
    ⟨started.unplanned, started.closed, trivial, started.policies⟩
  exact storing.policies

/-! ## Splitting and joining -/

namespace System

open Key in
/-- To split a key is the inverse of joining it. A key is split if and only if it is joined of two texts
that are not empty and hold no separator, and then into these; every other key raises a value error. So
neither two permissions nor two requests of which one has such a resource and such an action share a slug
or, in any system in use and in any organizations, a chain. -/
theorem keys_tell_their_parts [Host] :
    (∀ resource action, IsSide resource → IsSide action →
      split (join resource action) = .ok (resource, action)) ∧
    (∀ resource action, ¬ (IsSide resource ∧ IsSide action) →
      ∃ error, split (join resource action) = .error error ∧ error.label = "ValueError") ∧
    (∀ key resource action, split key = .ok (resource, action) →
      join resource action = key ∧ IsSide resource ∧ IsSide action) ∧
    (∀ resource action other rest, IsSide resource → IsSide action →
      join other rest = join resource action → other = resource ∧ rest = action) ∧
    (∀ arguments permission otherArguments other, Permission.ofArguments arguments = .ok permission →
      Permission.ofArguments otherArguments = .ok other → IsSide permission.resource →
      IsSide permission.action → other.slug = permission.slug →
      other.resource = permission.resource ∧ other.action = permission.action) ∧
    ∀ parts start ids system, parts.roles.Accepted → parts.policies.Accepted →
      assemble parts = .ok start → System.Reaches { start with ids } system →
      ∀ resource action organization other rest otherOrganization chain, IsSide resource →
        IsSide action →
        system.registry.snapshot.chainFor (join resource action) organization = some chain →
        system.registry.snapshot.chainFor (join other rest) otherOrganization = some chain →
        other = resource ∧ rest = action := by
  refine ⟨fun _ _ isResource isAction => split_eq_ok_iff.2 ⟨rfl, isResource, isAction⟩,
    fun _ _ apart => ⟨_, split_eq_error apart, rfl⟩, fun _ _ _ => split_eq_ok_iff.1,
    fun _ _ _ _ => eq_of_join_eq, ?_, ?_⟩
  · intro arguments permission otherArguments other isMade otherIsMade isResource isAction same
    obtain ⟨given, _, isMade⟩ := Except.bind_eq_ok_iff.1 isMade
    obtain ⟨otherGiven, _, otherIsMade⟩ := Except.bind_eq_ok_iff.1 otherIsMade
    rw [Permission.slug_of_ofBindings isMade, Permission.slug_of_ofBindings otherIsMade] at same
    exact eq_of_join_eq isResource isAction same
  · intro parts start ids system roles policies assembled reaches resource action organization other
      rest otherOrganization chain isResource isAction isFound otherIsFound
    have isKey := reaches.key_of_chainFor roles policies assembled isFound
    have otherIsKey := reaches.key_of_chainFor roles policies assembled otherIsFound
    exact eq_of_join_eq isResource isAction (Value.str.inj (otherIsKey.symm.trans isKey))

open scoped Host in
/-- Changes of customers have a chain of their own in the system with a policy on them. -/
theorem keys_tell_their_parts_update :
    Key.split (Key.join "customer" "update") = .ok ("customer", "update") ∧
    (∃ error, Key.split (Key.join "customer:update" "") = .error error ∧
      error.label = "ValueError") ∧
    ∃ start chain, assemble Question.partsOfUsers = .ok start ∧
      start.registry.snapshot.chainFor (Key.join "customer" "update") (some "acme") = some chain ∧
      ∀ other rest organization,
        start.registry.snapshot.chainFor (Key.join other rest) organization = some chain →
        other = "customer" ∧ rest = "update" := by
  have isResource : Key.IsSide "customer" := by decide
  have isAction : Key.IsSide "update" := by decide
  have apart : ¬ (Key.IsSide "customer:update" ∧ Key.IsSide "") := by decide
  obtain ⟨splits, refuses, _, _, _, shares⟩ := keys_tell_their_parts
  have roles : Question.partsOfUsers.roles.Accepted := .made ⟨[], []⟩ rfl
  have policies : Question.partsOfUsers.policies.Accepted :=
    .made ⟨[.list [updatesPolicy.toValue], .list [updatesRule.toValue]], []⟩ rfl
  obtain ⟨registry, counted, journal, assembled⟩ :=
    @exists_assemble _ Question.partsOfUsers rfl roles.sound policies.sound
  obtain ⟨catalog, fixed, orderly⟩ := Reaches.refl.exists_orderly roles policies assembled _
  have inCharge : Question.partsOfUsers.policies.InCharge updatesPolicy :=
    ⟨.head _, rfl, updatesRule, .head _, rfl, rfl⟩
  obtain ⟨chain, _, _, isGoverning, _⟩ := orderly.agrees.exists_chain policies.sound inCharge
  refine ⟨splits _ _ isResource isAction, refuses _ _ apart, _, chain, assembled, isGoverning, ?_⟩
  exact fun other rest organization =>
    shares _ _ _ _ roles policies assembled .refl _ _ _ _ _ _ chain isResource isAction isGoverning

/-! ## Checking keys and slugs -/

open Key in
/-- Of otherwise proper fields, a policy is made if and only if its key is two runs of small letters,
digits and underscores with a colon between them, after which one line feed may stand; a role is made if
and only if its slug is one such run, after which one line feed may stand. The key that is made is split
into the runs, the line feed staying with the action, and all policies of a system in use have such keys,
when those from the start are policies that have been made. -/
theorem keys_and_slugs_are_checked [Host] (arguments : Arguments) (given : Bindings)
    (text resource action : String) (parts : Parts) (ids : IdSource) (start system : System) :
    (arguments.bindTo Policy.parameters = .ok given → Policy.Fit given →
      given.value "key" = .str text →
      ((∃ policy, Policy.ofArguments arguments = .ok policy) ↔
        ∃ resource action, IsRun resource ∧ IsRun action ∧
          (text = join resource action ∨ text = join resource action ++ "\n")) ∧
      ∀ policy, Policy.ofArguments arguments = .ok policy → policy.key = text) ∧
    (IsRun resource → IsRun action →
      split (join resource action) = .ok (resource, action) ∧
      split (join resource action ++ "\n") = .ok (resource, action ++ "\n")) ∧
    (arguments.bindTo Role.parameters = .ok given → Role.Fit given →
      given.value "slug" = .str text →
      ((∃ role, Role.ofArguments arguments = .ok role) ↔
        ∃ run, IsRun run ∧ (text = run ∨ text = run ++ "\n")) ∧
      ∀ role, Role.ofArguments arguments = .ok role → role.slug = text) ∧
    ((∀ policy ∈ parts.policies.policies.values,
        ∃ arguments, Policy.ofArguments arguments = .ok policy) →
      assemble parts = .ok start → System.Reaches { start with ids } system →
      ∀ policy ∈ system.policies.policies.values,
        ∃ resource action, IsRun resource ∧ IsRun action ∧
          (policy.key = join resource action ∨ policy.key = join resource action ++ "\n")) := by
  refine ⟨?_, ?_, ?_, ?_⟩
  · intro isBound fit isGiven
    have isMade : Policy.ofArguments arguments = Policy.ofBindings given := by
      rw [Policy.ofArguments, isBound, Except.ok_bind]
    rw [isMade, Policy.exists_ofBindings_iff fit isGiven, isPolicyKey_iff]
    refine ⟨.rfl, fun policy made => ?_⟩
    have same := (Policy.key_of_ofBindings made).1
    rw [isGiven] at same
    exact (Value.str.inj same).symm
  · intro isResource isAction
    refine ⟨split_eq_ok_iff.2 ⟨rfl, isResource.isSide, isAction.isSide⟩, ?_⟩
    rw [split_eq_ok_iff, join_concat]
    exact ⟨rfl, isResource.isSide, isAction.isSide.concat (by decide)⟩
  · intro isBound fit isGiven
    have isMade : Role.ofArguments arguments = Role.ofBindings given := by
      rw [Role.ofArguments, isBound, Except.ok_bind]
    rw [isMade, Role.exists_ofBindings_iff fit isGiven, isSlug_iff]
    refine ⟨.rfl, fun role made => ?_⟩
    have same := (Role.slug_of_ofBindings made).1
    rw [isGiven] at same
    exact (Value.str.inj same).symm
  · intro areMade assembled reaches policy member
    have checked : parts.policies.Checked := by
      intro policy member
      obtain ⟨arguments, isMade⟩ := areMade policy member
      obtain ⟨given, _, isMade⟩ := Except.bind_eq_ok_iff.1 isMade
      exact (Policy.key_of_ofBindings isMade).2
    exact isPolicyKey_iff.1 (reaches.checked checked assembled policy member)

/-- A policy whose key has a line feed at its end. -/
def lineFeedPolicy : Policy :=
  ⟨"p1", "customer:read\n", "N", "acme", .str "Policy for customer:read\n", .bool true⟩

/-- The parts of a system in memory that holds this policy. -/
def lineFeedParts : Parts :=
  { policies := { policies := [("p1", lineFeedPolicy)] }
    clock := ⟨0, some 0⟩
    isSeeded := false }

open scoped Host in
/-- A line feed passes at the end of a key, where it becomes a part of the action, and of a slug. -/
theorem keys_and_slugs_are_checked_lineFeed :
    (∃ policy, Policy.ofArguments
      ⟨[.str "p1", .str "customer:read\n", .str "N", .str "acme"], []⟩ = .ok policy) ∧
    Key.split "customer:read\n" = .ok ("customer", "read\n") ∧
    (∃ role, Role.ofArguments ⟨[.str "r1", .str "N", .str "sales\n", .str "acme"], []⟩ = .ok role) ∧
    ∃ start, assemble lineFeedParts = .ok start ∧ lineFeedPolicy ∈ start.policies.policies.values ∧
      ∃ resource action, Key.IsRun resource ∧ Key.IsRun action ∧
        (lineFeedPolicy.key = Key.join resource action ∨
          lineFeedPolicy.key = Key.join resource action ++ "\n") := by
  have isResource : Key.IsRun "customer" := by decide
  have isAction : Key.IsRun "read" := by decide
  have isRun : Key.IsRun "sales" := by decide
  have fit : Policy.Fit [("policy_id", .str "p1"), ("key", .str "customer:read\n"),
      ("name", .str "N"), ("organization_id", .str "acme"), ("description", .str ""),
      ("active", .bool true)] :=
    ⟨⟨_, by decide, rfl⟩, ⟨_, by decide, rfl⟩, ⟨_, by decide, rfl⟩⟩
  have roleFit : Role.Fit [("role_id", .str "r1"), ("name", .str "N"), ("slug", .str "sales\n"),
      ("organization_id", .str "acme"), ("permissions", .set true []), ("is_default", .bool false),
      ("description", .null)] :=
    ⟨⟨_, by decide, rfl⟩, ⟨_, by decide, rfl⟩, ⟨_, by decide, rfl⟩, ⟨_, _, rfl, rfl⟩⟩
  have roles : lineFeedParts.roles.Accepted := .made ⟨[], []⟩ rfl
  have policies : lineFeedParts.policies.Accepted :=
    .made ⟨[.list [lineFeedPolicy.toValue]], []⟩ rfl
  obtain ⟨start, assembled, member⟩ : ∃ start, assemble lineFeedParts = .ok start ∧
      lineFeedPolicy ∈ start.policies.policies.values := by
    obtain ⟨_, _, _, assembled⟩ := @exists_assemble _ lineFeedParts rfl roles.sound policies.sound
    exact ⟨_, assembled, .head _⟩
  have areMade : ∀ policy ∈ lineFeedParts.policies.policies.values,
      ∃ arguments, Policy.ofArguments arguments = .ok policy :=
    List.forall_mem_singleton.2
      ⟨⟨[.str "p1", .str "customer:read\n", .str "N", .str "acme"], []⟩, rfl⟩
  obtain ⟨makes, splits, _, stored⟩ := keys_and_slugs_are_checked
    ⟨[.str "p1", .str "customer:read\n", .str "N", .str "acme"], []⟩ _ "customer:read\n" "customer" "read"
    lineFeedParts start.ids start start
  obtain ⟨_, _, makesRole, _⟩ := keys_and_slugs_are_checked
    ⟨[.str "r1", .str "N", .str "sales\n", .str "acme"], []⟩ _ "sales\n" "" "" lineFeedParts
    start.ids start start
  have joined := stored areMade assembled .refl _ member
  exact ⟨(makes rfl fit rfl).1.2 ⟨_, _, isResource, isAction, .inr rfl⟩,
    (splits isResource isAction).2, (makesRole rfl roleFit rfl).1.2 ⟨_, isRun, .inr rfl⟩, _,
    assembled, member, joined⟩

end System

end Authorization
