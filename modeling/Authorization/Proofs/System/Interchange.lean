import Authorization.Proofs.Service.Run
import Authorization.Proofs.Store.Interchange

/-!
# Systems on either backend

A service is indifferent when it does the same whether policies are kept in memory or in tables: it gives
the same result and leaves the same system, apart from the backend. So are all requests to the policy
store that stay within what tables can hold. One after the other, they have the same results on either
backend, and those who listen are told as often. A configuration is written as text in tables, which an
integer of too many digits does not have: in memory such a rule is kept, by tables it is refused.
-/

namespace Authorization

open Service

/-- The system with another backend of the policy store and the same records. -/
def System.on (system : System) (backend : Backend) : System :=
  { system with policies := system.policies.on backend }

namespace Service

variable {α β : Type}

/-- A service that does not depend on the backend of the policy store. -/
def Indifferent (action : Service α) : Prop :=
  ∀ system backend, exec action (system.on backend) =
    ((exec action system).1, (exec action system).2.on backend)

theorem indifferent_pure (value : α) : Indifferent (pure value : Service α) :=
  fun _ _ => rfl

theorem indifferent_throw (error : Error) : Indifferent (throw error : Service α) :=
  fun _ _ => rfl

theorem indifferent_orFail (result : Except Error α) : Indifferent (orFail result) := by
  cases result with
  | error error => exact indifferent_throw error
  | ok value => exact indifferent_pure value

theorem Indifferent.bind {action : Service α} {next : α → Service β} (first : Indifferent action)
    (rest : ∀ value, Indifferent (next value)) : Indifferent (action >>= next) := by
  intro system backend
  rw [exec_bind, exec_bind, first system backend]
  rcases exec action system with ⟨error | value, after⟩
  · rfl
  · exact rest value after backend

theorem Indifferent.map {action : Service α} (indifferent : Indifferent action) (write : α → β) :
    Indifferent (write <$> action) := by
  intro system backend
  rw [exec_map, exec_map, indifferent system backend]

theorem Indifferent.outcome {action : Service α} (indifferent : Indifferent action) :
    Indifferent (outcome action) := by
  intro system backend
  rw [exec_outcome, exec_outcome, indifferent system backend]

/-- What is read of the system may depend on anything but the backend. -/
theorem indifferent_get {next : System → Service α}
    (same : ∀ system backend, next (system.on backend) = next system)
    (rest : ∀ system, Indifferent (next system)) : Indifferent (get >>= next) := by
  intro system backend
  rw [exec_get_bind, exec_get_bind, same]
  exact rest system system backend

theorem indifferent_modify {change : System → System}
    (commutes : ∀ system backend, change (system.on backend) = (change system).on backend) :
    Indifferent (modify change : Service Unit) := by
  intro system backend
  rw [exec_modify, exec_modify, commutes]

theorem indifferent_noteAll (records : List LogRecord) : Indifferent (noteAll records) := by
  intro system backend
  rw [exec_noteAll, exec_noteAll]
  rfl

/-! ## Announcements -/

theorem indifferent_due? (operation : StoreOperation) : Indifferent (due? operation) := by
  intro system backend
  have samePlans : (system.on backend).plans = system.plans := rfl
  unfold due?
  rw [exec_get_bind, exec_get_bind, samePlans]
  rcases system.plans.get? operation with _ | ⟨effect, left⟩
  · rfl
  · cases left with
    | zero => rfl
    | succ left => rfl

theorem Indifferent.plannedOr {action : Service α} (indifferent : Indifferent action)
    (operation : StoreOperation) : Indifferent (plannedOr operation action) := by
  refine (indifferent_due? operation).bind fun found => ?_
  split
  · exact (indifferent_orFail _).bind fun _ => indifferent_pure _
  · exact indifferent.bind fun _ => indifferent_pure _

theorem Indifferent.performed {action : Service α} (indifferent : Indifferent action)
    (operation : StoreOperation) (read : Value → Except Error α) :
    Indifferent (performed operation read action) := by
  refine (indifferent.plannedOr operation).bind fun found => ?_
  split
  · exact indifferent_orFail _
  · exact indifferent_pure _

theorem Indifferent.performedValue {action : Service α} (indifferent : Indifferent action)
    (operation : StoreOperation) (write : α → Value) :
    Indifferent (performedValue operation write action) := by
  refine (indifferent.plannedOr operation).bind fun found => ?_
  split
  · exact indifferent_pure _
  · exact indifferent_pure _

theorem indifferent_readOr (read : Value → Except Error α) (found : Value ⊕ α) :
    Indifferent (readOr read found) := by
  cases found with
  | inl value => exact indifferent_orFail _
  | inr result => exact indifferent_pure _

theorem indifferent_stored : Indifferent stored := by
  have policies : Indifferent (do
      return (← get).policies.policiesIn .null : Service (List Policy)) :=
    indifferent_get (fun system backend =>
      congrArg pure (system.policies.policiesIn_on backend none)) fun _ => indifferent_pure _
  have rules : Indifferent (do orFail ((← get).policies.rulesOf .null) : Service (List PolicyRule)) :=
    indifferent_get (fun _ _ => rfl) fun _ => indifferent_orFail _
  exact (policies.plannedOr _).bind fun _ => (rules.plannedOr _).bind fun _ => indifferent_pure _

theorem indifferent_reload [Host] : Indifferent reload := by
  refine indifferent_stored.outcome.bind fun found => ?_
  split
  · exact indifferent_get (fun _ _ => rfl) fun _ => (indifferent_orFail _).bind fun _ =>
      (indifferent_noteAll [⟨_, _, _⟩]).bind fun _ => indifferent_throw _
  · exact (indifferent_readOr _ _).bind fun _ => (indifferent_readOr _ _).bind fun _ =>
      indifferent_get (fun _ _ => rfl) fun _ => (indifferent_modify fun _ _ => rfl).bind fun _ =>
        (indifferent_noteAll _).bind fun _ => indifferent_pure _

theorem indifferent_tell [Host] (listener : Listener) : Indifferent (tell listener) := by
  cases listener with
  | registry => exact indifferent_reload.bind fun _ => indifferent_pure _
  | counter => exact indifferent_modify fun _ _ => rfl
  | function tag => exact indifferent_pure _

theorem indifferent_announce [Host] : Indifferent announce := by
  have telling (listeners : List Listener) : Indifferent (listeners.forM tell) := by
    induction listeners with
    | nil => exact indifferent_pure _
    | cons listener rest inductionHypothesis =>
        exact (indifferent_tell listener).bind fun _ => inductionHypothesis
  refine indifferent_get (fun _ _ => rfl) fun system => ?_
  split
  · exact indifferent_get (fun _ _ => rfl) fun _ => telling _
  · exact indifferent_modify fun _ _ => rfl

/-- A change of the policy store that comes to the same on either backend. -/
theorem indifferent_changePolicies {change : PolicyStore → Except Error (PolicyStore × α)}
    (commutes : ∀ store backend, change (store.on backend) =
      (change store).map fun changed => (changed.1.on backend, changed.2)) :
    Indifferent (changePolicies change) := by
  intro system backend
  have changed : change (system.on backend).policies =
      (change system.policies).map fun changed => (changed.1.on backend, changed.2) :=
    commutes system.policies backend
  unfold changePolicies
  rw [exec_get_bind, exec_get_bind, changed]
  rcases change system.policies with error | ⟨next, result⟩
  · rfl
  · rfl

/-- A change that is announced if its result says so. -/
theorem indifferent_change [Host] {change : PolicyStore → Except Error (PolicyStore × α)}
    (announces : α → Bool) (commutes : ∀ store backend, change (store.on backend) =
      (change store).map fun changed => (changed.1.on backend, changed.2)) :
    Indifferent (do
      let result ← changePolicies change
      if announces result then announce
      return result) := by
  refine (indifferent_changePolicies commutes).bind fun result => ?_
  dsimp only
  split
  · exact indifferent_announce.bind fun _ => indifferent_pure _
  · exact indifferent_pure _

/-! ## The policy store at work -/

/-- A question about texts that can be written. -/
theorem indifferent_asking {wanted : List Value} (asked : ∀ backend : Backend,
    backend.asks wanted = .ok ()) {read : PolicyStore → α}
    (same : ∀ store backend, read (PolicyStore.on store backend) = read store) :
    Indifferent (do
      let store := (← get).policies
      orFail (store.backend.asks wanted)
      return read store) := by
  refine indifferent_get (fun system backend => ?_) fun _ =>
    (indifferent_orFail _).bind fun _ => indifferent_pure _
  have sameRead : read (system.on backend).policies = read system.policies :=
    same system.policies backend
  dsimp only
  rw [asked, asked, sameRead]

theorem indifferent_policiesIn {organization : Option String}
    (whole : ∀ text, organization = some text → Text.holdsHalf text = false) :
    Indifferent (policiesIn (.ofOption organization)) := by
  have asked (backend : Backend) : backend.asks [.ofOption organization] = .ok () :=
    @Backend.asks_texts backend [organization] fun text member =>
      whole text (List.mem_singleton.1 member).symm
  unfold policiesIn
  have asking := @indifferent_asking _ _ asked (fun store => store.policiesIn (.ofOption organization))
    fun store backend => store.policiesIn_on backend organization
  exact asking.performed _ _

theorem indifferent_policy? {id : String} (keeps : Backend.tables.Keeps id) :
    Indifferent (policy? (.str id)) := by
  refine Indifferent.performed (indifferent_get (fun system backend => ?_) fun _ =>
    indifferent_orFail _) _ _
  exact congrArg orFail (system.policies.policy?_on backend keeps)

theorem indifferent_policyByKey? {key organization : String}
    (whole : ∀ text ∈ [key, organization], Text.holdsHalf text = false) :
    Indifferent (policyByKey? (.str key) (.str organization)) := by
  have asked (backend : Backend) : backend.asks [.str key, .str organization] = .ok () :=
    @Backend.asks_texts backend [some key, some organization] fun text member =>
      whole text ((List.mem_map_of_injective (Option.some_injective _)).1 member)
  unfold policyByKey?
  have asking := @indifferent_asking _ _ asked
    (fun store => store.policyByKey? (.str key) (.str organization))
    fun store backend => store.policyByKey?_on backend key organization
  exact asking.performed _ _

theorem indifferent_savePolicy [Host] {policy : Policy} (plain : policy.Plain) :
    Indifferent (savePolicy policy) := by
  refine Indifferent.performedValue (indifferent_change (fun _ => true) fun store backend => ?_) _ _
  rw [store.savePolicy_on backend plain]
  rcases store.savePolicy policy with error | next
  · rfl
  · rfl

theorem indifferent_deletePolicy [Host] {id : String} (keeps : Backend.tables.Keeps id) :
    Indifferent (deletePolicy (.str id)) :=
  Indifferent.performedValue (indifferent_change (fun deleted => deleted) fun store backend =>
    store.deletePolicy_on backend keeps) _ _

theorem indifferent_rulesOfPolicy {policyId : Option String}
    (keeps : ∀ id, policyId = some id → Backend.tables.Keeps id) :
    Indifferent (rulesOfPolicy (.ofOption policyId)) := by
  refine Indifferent.performed (indifferent_get (fun system backend => ?_) fun _ =>
    indifferent_orFail _) _ _
  exact congrArg orFail (system.policies.rulesOf_on backend keeps)

theorem indifferent_rule? {id : String} (keeps : Backend.tables.Keeps id) :
    Indifferent (rule? (.str id)) := by
  refine Indifferent.performed (indifferent_get (fun system backend => ?_) fun _ =>
    indifferent_orFail _) _ _
  exact congrArg orFail (system.policies.rule?_on backend keeps)

theorem indifferent_countRules {policyId : String} (keeps : Backend.tables.Keeps policyId) :
    Indifferent (countRules (.str policyId)) := by
  refine Indifferent.performedValue (indifferent_get (fun system backend => ?_) fun _ =>
    indifferent_pure _) _ _
  exact congrArg pure (system.policies.countRules_on backend keeps)

theorem indifferent_saveRules [Host] {rules : List PolicyRule} (plain : ∀ rule ∈ rules, rule.Plain) :
    Indifferent (saveRules (pure rules)) := by
  unfold saveRules
  rw [pure_bind]
  refine Indifferent.performedValue
    (indifferent_change (fun _ => !rules.isEmpty) fun store backend => ?_) _ _
  rw [store.saveRules_on backend plain]
  rcases store.saveRules rules with error | next
  · rfl
  · rfl

theorem indifferent_deleteRule [Host] {id : String} (keeps : Backend.tables.Keeps id) :
    Indifferent (deleteRule (.str id)) :=
  Indifferent.performedValue (indifferent_change (fun deleted => deleted) fun store backend =>
    store.deleteRule_on backend keeps) _ _

end Service

/-! ## Requests to the policy store -/

/-- What the policy store can be asked for: by identifiers and other texts, with records to be saved. -/
inductive PolicyRequest where
  | listPolicies (organization : Option String)
  | getPolicy (id : String)
  | findPolicyByKey (key organization : String)
  | savePolicy (policy : Policy)
  | deletePolicy (id : String)
  | listRules (policyId : Option String)
  | getRule (id : String)
  | countRules (policyId : String)
  | saveRules (rules : List PolicyRule)
  | deleteRule (id : String)

namespace PolicyRequest

/-- Carries a request out. -/
def perform [Host] : PolicyRequest → Service Reply
  | .listPolicies organization => .records Policy.toValue <$> policiesIn (.ofOption organization)
  | .getPolicy id => .recordIfAny Policy.toValue <$> policy? (.str id)
  | .findPolicyByKey key organization =>
    .recordIfAny Policy.toValue <$> policyByKey? (.str key) (.str organization)
  | .savePolicy policy => .value <$> Service.savePolicy policy
  | .deletePolicy id => .value <$> Service.deletePolicy (.str id)
  | .listRules policyId => .records PolicyRule.toValue <$> rulesOfPolicy (.ofOption policyId)
  | .getRule id => .recordIfAny PolicyRule.toValue <$> rule? (.str id)
  | .countRules policyId => .value <$> Service.countRules (.str policyId)
  | .saveRules rules => .value <$> Service.saveRules (pure rules)
  | .deleteRule id => .value <$> Service.deleteRule (.str id)

/-- A request stays within the kinds of the columns: identifiers are canonical, texts can be written, and
records have fields of these kinds. -/
def IsTyped : PolicyRequest → Prop
  | .listPolicies organization => ∀ text, organization = some text → Text.holdsHalf text = false
  | .findPolicyByKey key organization => ∀ text ∈ [key, organization], Text.holdsHalf text = false
  | .getPolicy id | .deletePolicy id | .getRule id | .countRules id | .deleteRule id =>
    Backend.tables.Keeps id
  | .savePolicy policy => policy.Plain
  | .listRules policyId => ∀ id, policyId = some id → Backend.tables.Keeps id
  | .saveRules rules => ∀ rule ∈ rules, rule.Typed

/-- The rules that a request saves. -/
def rules : PolicyRequest → List PolicyRule
  | .saveRules rules => rules
  | _ => []

/-- A request stays within what tables can hold: moreover no configuration has an integer of more than 4300
digits. -/
structure IsProper (request : PolicyRequest) : Prop where
  typed : request.IsTyped
  areShort : ∀ rule ∈ request.rules, rule.configCopy.holdsLongInt = false

theorem indifferent_perform [Host] {request : PolicyRequest} (proper : request.IsProper) :
    Indifferent request.perform := by
  obtain ⟨typed, areShort⟩ := proper
  cases request with
  | listPolicies organization => exact (indifferent_policiesIn typed).map _
  | getPolicy id => exact (indifferent_policy? typed).map _
  | findPolicyByKey key organization => exact (indifferent_policyByKey? typed).map _
  | savePolicy policy => exact (indifferent_savePolicy typed).map _
  | deletePolicy id => exact (indifferent_deletePolicy typed).map _
  | listRules policyId => exact (indifferent_rulesOfPolicy typed).map _
  | getRule id => exact (indifferent_rule? typed).map _
  | countRules policyId => exact (indifferent_countRules typed).map _
  | saveRules rules =>
      have plain : ∀ rule ∈ rules, rule.Plain := fun rule member =>
        ⟨typed rule member, areShort rule member⟩
      exact (indifferent_saveRules plain).map _
  | deleteRule id => exact (indifferent_deleteRule typed).map _

/-- Carries requests out one after the other, whatever comes of each: what comes of them, and the system
after them. -/
def performAll [Host] : List PolicyRequest → System → List (Except Error Reply) × System
  | [], system => ([], system)
  | request :: rest, system =>
    let (reply, middle) := exec request.perform system
    let (replies, last) := performAll rest middle
    (reply :: replies, last)

theorem performAll_on [Host] {requests : List PolicyRequest}
    (proper : ∀ request ∈ requests, request.IsProper) (system : System) (backend : Backend) :
    performAll requests (system.on backend) =
      ((performAll requests system).1, (performAll requests system).2.on backend) := by
  induction requests generalizing system with
  | nil => rfl
  | cons request rest inductionHypothesis =>
      obtain ⟨isProper, restProper⟩ := List.forall_mem_cons.1 proper
      simp only [performAll]
      rw [indifferent_perform isProper system backend, inductionHypothesis restProper]

/-- On a system that keeps policies in memory and on one that keeps them in tables, with the same records
or none at all, requests have the same results: the same answers and the same errors, in the same order.
They leave the same records, and those who listen have been told as often. -/
theorem interchangeable_backends [Host] {requests : List PolicyRequest}
    (proper : ∀ request ∈ requests, request.IsProper) (system : System) :
    (performAll requests (system.on .tables)).1 = (performAll requests (system.on .memory)).1 ∧
      (performAll requests (system.on .tables)).2.counted =
        (performAll requests (system.on .memory)).2.counted ∧
      (performAll requests (system.on .tables)).2 =
        (performAll requests (system.on .memory)).2.on .tables := by
  rw [performAll_on proper system .tables, performAll_on proper system .memory]
  exact ⟨rfl, rfl, rfl⟩

/-! ### Some requests -/

/-- A policy on deals, and its rule. -/
def dealPolicy : Policy :=
  ⟨"00000000-0000-0000-0000-000000000001", "deal:read", "Deals", "acme",
    .str "Policy for deal:read", .bool true⟩

def dealRule : PolicyRule :=
  ⟨"00000000-0000-0000-0000-000000000002", dealPolicy.id, "Roles", "role_based",
    .proxy [(.str "roles", .list [.str "admin", .str "manager"])], 1, .bool true, .null⟩

/-- The policy is saved, its rule twice at once, and another policy under the same key, which is refused,
as it is to delete a policy with a rule. Then both are deleted. -/
def dealRequests : List PolicyRequest :=
  [.savePolicy dealPolicy, .saveRules [dealRule, { dealRule with order := 2 }],
   .savePolicy { dealPolicy with id := "00000000-0000-0000-0000-000000000003" },
   .deletePolicy dealPolicy.id, .listRules (some dealPolicy.id), .deleteRule dealRule.id,
   .deletePolicy dealPolicy.id, .listPolicies none]

/-- A system with nothing stored, and a counter that listens. -/
def emptySystem : System :=
  { roles := {}, policies := {}, registry := ⟨.builtin {}, { version := 0 }⟩
    clock := ⟨0, some 0⟩, listeners := [.counter] }

theorem native_dealRule :
    (Value.dict [(.str "roles", .list [.str "admin", .str "manager"])]).Native := by
  refine .dict (List.forall_mem_singleton.2 ⟨_, rfl⟩) (List.pairwise_singleton _ _) ?_
  refine List.forall_mem_singleton.2 (.list ?_)
  exact List.forall_mem_cons.2 ⟨.str "admin", List.forall_mem_singleton.2 (.str "manager")⟩

theorem keeps_dealPolicy : Backend.tables.Keeps dealPolicy.id := by
  rfl

theorem keeps_dealRule : Backend.tables.Keeps dealRule.id := by
  rfl

theorem whole_dealPolicy : ∀ text, .str text ∈ [Value.str dealPolicy.organization, .str dealPolicy.key,
    .str dealPolicy.name, dealPolicy.description] → Text.holdsHalf text = false :=
  Column.encoded_eq_ok_iff.1 rfl

theorem whole_dealRule : ∀ text, .str text ∈ [Value.str dealRule.name, dealRule.description,
    .str dealRule.type] → Text.holdsHalf text = false :=
  Column.encoded_eq_ok_iff.1 rfl

theorem plain_dealPolicy {id : String} (keeps : Backend.tables.Keeps id) :
    Policy.Plain { dealPolicy with id } :=
  ⟨keeps, whole_dealPolicy, ⟨_, rfl⟩, ⟨true, rfl⟩⟩

theorem typed_dealRule {order : Int}
    (inColumn : -Column.maxInteger - 1 ≤ order ∧ order ≤ Column.maxInteger)
    {entries : List (Value × Value)} (native : (Value.dict entries).Native) :
    PolicyRule.Typed { dealRule with order, config := .proxy entries } :=
  ⟨keeps_dealRule, keeps_dealPolicy, whole_dealRule, ⟨none, rfl⟩, ⟨true, rfl⟩, inColumn,
    ⟨_, rfl, native⟩⟩

theorem isProper_dealRequests : ∀ request ∈ dealRequests, request.IsProper := by
  have otherKeeps : Backend.tables.Keeps "00000000-0000-0000-0000-000000000003" := rfl
  have rulesTyped : ∀ rule ∈ [dealRule, { dealRule with order := 2 }], rule.Typed :=
    List.forall_mem_cons.2 ⟨@typed_dealRule 1 (by decide) _ native_dealRule,
      List.forall_mem_singleton.2 (@typed_dealRule 2 (by decide) _ native_dealRule)⟩
  have areShort : ∀ rule ∈ [dealRule, { dealRule with order := 2 }],
      rule.configCopy.holdsLongInt = false :=
    List.forall_mem_cons.2 ⟨rfl, List.forall_mem_singleton.2 rfl⟩
  have listed : ∀ id, some dealPolicy.id = some id → Backend.tables.Keeps id :=
    fun id same => Option.some.inj same ▸ keeps_dealPolicy
  intro request member
  simp only [dealRequests, List.mem_cons, List.not_mem_nil, or_false] at member
  rcases member with rfl | rfl | rfl | rfl | rfl | rfl | rfl | rfl
  · exact ⟨@plain_dealPolicy dealPolicy.id keeps_dealPolicy, List.forall_mem_nil _⟩
  · exact ⟨rulesTyped, areShort⟩
  · exact ⟨plain_dealPolicy otherKeeps, List.forall_mem_nil _⟩
  · exact ⟨keeps_dealPolicy, List.forall_mem_nil _⟩
  · exact ⟨listed, List.forall_mem_nil _⟩
  · exact ⟨keeps_dealRule, List.forall_mem_nil _⟩
  · exact ⟨keeps_dealPolicy, List.forall_mem_nil _⟩
  · exact ⟨nofun, List.forall_mem_nil _⟩

open scoped Host in
/-- Starting with nothing, the requests come to the same in memory and in tables; the counter is told four
times. -/
theorem dealRequests_interchangeable :
    (∀ request ∈ dealRequests, request.IsProper) ∧
      (performAll dealRequests (emptySystem.on .tables)).1 =
        (performAll dealRequests (emptySystem.on .memory)).1 ∧
      (performAll dealRequests (emptySystem.on .tables)).2.counted = 4 := by
  obtain ⟨sameReplies, sameCount, _⟩ := interchangeable_backends isProper_dealRequests emptySystem
  have counted : (performAll dealRequests (emptySystem.on .memory)).2.counted = 4 := by
    rfl
  exact ⟨isProper_dealRequests, sameReplies, sameCount.trans counted⟩

/-- The entries of a configuration with an integer of 5001 digits. -/
def longEntries : List (Value × Value) :=
  [(.str "n", .int (Nat.pow 10 5000))]

/-- The policy is saved, and a rule with that configuration. -/
def longRequests : List PolicyRequest :=
  [.savePolicy dealPolicy, .saveRules [{ dealRule with config := .proxy longEntries }]]

/-- What went wrong with requests, one after the other. -/
def failures (replies : List (Except Error Reply)) : List (Option String) :=
  replies.map fun
    | .ok _ => none
    | .error error => some error.label

open scoped Host in
/-- In memory a rule whose configuration has an integer of too many digits is saved and announced, by tables
it is refused. -/
theorem backends_differ_on_long_integers :
    (∀ request ∈ longRequests, request.IsTyped) ∧
      failures (performAll longRequests (emptySystem.on .memory)).1 = [none, none] ∧
      (performAll longRequests (emptySystem.on .memory)).2.counted = 2 ∧
      failures (performAll longRequests (emptySystem.on .tables)).1 = [none, some "ValueError"] ∧
      (performAll longRequests (emptySystem.on .tables)).2.counted = 1 := by
  have native : (Value.dict longEntries).Native :=
    .dict (List.forall_mem_singleton.2 ⟨_, rfl⟩) (List.pairwise_singleton _ _)
      (List.forall_mem_singleton.2 (.int _))
  have typed : ∀ request ∈ longRequests, request.IsTyped :=
    List.forall_mem_cons.2 ⟨@plain_dealPolicy dealPolicy.id keeps_dealPolicy,
      List.forall_mem_singleton.2
        (List.forall_mem_singleton.2 (@typed_dealRule 1 (by decide) _ native))⟩
  exact ⟨typed, by decide +kernel, by decide +kernel, by decide +kernel, by decide +kernel⟩

end PolicyRequest

end Authorization
