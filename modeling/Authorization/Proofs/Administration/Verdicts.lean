import Authorization.Proofs.Administration.Copies
import Authorization.Proofs.Decision.Bench
import Authorization.Proofs.Decision.Steady
import Authorization.Proofs.Store.Numbering
import Authorization.Proofs.Tenancy.Integrity

/-!
# Verdicts and active rules

A decision depends on which rules of a policy are active, and not on their numbers. Where nothing that a
rule may look at is a one-shot sequence, new numbers for the rules of a policy change no decision, even if
the policy is rejected. A rule that is added to a policy in charge of its key takes away from what that
policy allows, and changes nothing else. The decisions before and afterwards are runs of their own, each at
its pace; the machine is assumed to get on with the scripts of the chain alike in both.
-/

namespace Authorization

open Service

variable {catalog : RuleCatalog} {fixed : Keyed String PolicyChain} {system after : System}
  {question : Question} {policy : Policy}

/-! ## Questions that can be asked again -/

/-- The entries that are read of a value without one-shot sequences have none. -/
theorem Value.Repeatable.toEntries {value : Value} {entries : List (Value × Value)}
    (repeatable : value.Repeatable) (read : value.toEntries = .ok entries) :
    EntriesRepeatable entries := by
  unfold Value.toEntries at read
  split at read
  · rename_i found isMapping
    cases read
    cases value with
    | dict | proxy =>
        cases isMapping
        exact repeatable.entries rfl
    | _ => cases isMapping
  · obtain ⟨made, isMade, rfl⟩ := Except.map_eq_ok_iff.1 read
    have gives := Builtin.gives_applyPlain lasting_notOneShot .dict
      (List.forall_mem_singleton.2 repeatable)
    have unchecked : made.Unchecked NotOneShot := gives.post (Prod.ext isMade rfl)
    rcases isMapping : made.entries? with _ | found
    · exact List.forall_mem_nil _
    · have madeOf := unchecked.madeOf fun n same => by
        rw [same] at isMapping
        cases isMapping
      cases made with
      | dict | proxy =>
          cases isMapping
          exact madeOf.entries rfl
      | _ => cases isMapping

theorem Principal.repeatable_entries {principal : Principal}
    (roles : ∀ role ∈ principal.roles, role.Repeatable)
    (attributes : Value.EntriesRepeatable principal.attributes) :
    Value.EntriesRepeatable principal.entries := by
  have stored {entries : List (Value × Value)} (each : Value.EntriesRepeatable entries) (name : String)
      {value : Value} (repeatable : value.Repeatable) :
      Value.EntriesRepeatable (Value.store (.str name) value entries) :=
    Builtin.entriesMadeOf_store (Value.repeatable_str name) repeatable each
  have organization : (Value.ofOption principal.organization).Repeatable := by
    cases principal.organization with
    | none => exact Value.lasting_notOneShot.madeOf_null
    | some name => exact Value.repeatable_str name
  have held : (Value.tuple principal.roles).Repeatable := Value.lasting_notOneShot.madeOf_tuple roles
  exact stored (stored (stored (stored attributes "id" (Value.repeatable_str _)) "role"
    (Value.repeatable_str _)) "organization_id" organization) "roles" held

namespace Question

/-- Nothing that the question hands to rules is, or has in it, a one-shot sequence. -/
structure Repeatable (question : Question) : Prop where
  roles : ∀ role ∈ question.principal.roles, role.Repeatable
  attributes : Value.EntriesRepeatable question.principal.attributes
  resource : question.instance?.Repeatable
  context : question.context.Repeatable

theorem Repeatable.handed (repeatable : question.Repeatable)
    (proper : ∃ arguments, Principal.ofArguments arguments = .ok question.principal)
    {attributes : DecisionAttributes} (handed : question.handed = .ok attributes) :
    attributes.Repeatable := by
  obtain ⟨arguments, made⟩ := proper
  rw [handed_eq, principal_ofValue? made] at handed
  have context : (contextOr question.context).Repeatable := by
    unfold contextOr
    split
    · exact repeatable.context
    · exact Value.lasting_notOneShot.madeOf_dict (List.forall_mem_nil _)
  have principal := Principal.repeatable_entries repeatable.roles repeatable.attributes
  have action := Value.repeatable_str question.action
  dsimp only at handed
  split at handed
  · obtain ⟨entries, read, handed⟩ := Except.bind_eq_ok_iff.1 handed
    cases handed
    exact ⟨principal, repeatable.resource, action, context.toEntries read⟩
  · cases handed
    exact ⟨principal, repeatable.resource, action, List.forall_mem_nil _⟩

/-! ## What a policy in charge decides -/

/-- The chain of a policy in charge says yes when the policy has active rules and each of them does. -/
theorem exists_chain [Host] (orderly : system.Orderly catalog fixed)
    (inCharge : system.policies.InCharge policy)
    (isOwn : question.principal.organization = some policy.organization)
    (isKey : question.key = policy.key) : ∃ chain,
      question.chain? system = some chain ∧ chain.source = .stored ∧
      ∀ attributes, attributes.Repeatable → ∃ upheld,
        chain.answer attributes system.journal = .ok upheld ∧
          (upheld = true ↔ system.policies.Affirms catalog attributes policy.id) := by
  obtain ⟨issue?, chains⟩ := @Registry.chains_chainIn system.policies catalog _ orderly.policies policy
  have isAsked := (orderly.agrees.chainFor policy.key (some policy.organization) _).2
    (.stored inCharge rfl chains)
  rw [← isOwn, ← isKey] at isAsked
  obtain ⟨_, _, builds⟩ := id chains
  refine ⟨_, isAsked, builds.source_eq, fun attributes repeatable => ?_⟩
  have holds := (PolicyChain.upholds_iff _ attributes system.journal).trans
    (chains.holds_iff repeatable _)
  exact ⟨_, (builds.isNotable attributes).answer_eq system.journal, holds⟩

section Answers

variable [Host] {pace : Pace}

end Answers

end Question

/-! ## Stores with other rules -/

namespace PolicyStore

variable {store next : PolicyStore} {attributes : DecisionAttributes} {gained : PolicyRule}

theorem Renumbers.inCharge (renumbers : store.Renumbers next) (inCharge : store.InCharge policy) :
    next.InCharge policy := by
  obtain ⟨stored, active, rule, member, isPolicy, isActive⟩ := inCharge
  obtain ⟨order, other⟩ := (renumbers.rules rule).2 ⟨rule.order, member⟩
  exact ⟨renumbers.policies ▸ stored, active, _, other, isPolicy, isActive⟩

/-- What a rule says has nothing to do with its number. -/
theorem Renumbers.affirms [Host] (renumbers : store.Renumbers next) {policyId : String}
    (affirms : store.Affirms catalog attributes policyId) :
    next.Affirms catalog attributes policyId := by
  obtain ⟨⟨rule, member, isPolicy, isActive⟩, affirm⟩ := affirms
  obtain ⟨order, other⟩ := (renumbers.rules rule).2 ⟨rule.order, member⟩
  refine ⟨⟨_, other, isPolicy, isActive⟩, fun rule member isPolicy isActive => ?_⟩
  obtain ⟨order, old⟩ := (renumbers.rules rule).1 ⟨rule.order, member⟩
  exact affirm { rule with order } old isPolicy isActive

/-- A store holds one rule more than another, and the same policies. -/
structure Gains (store next : PolicyStore) (gained : PolicyRule) : Prop where
  policies : next.policies = store.policies
  rules : ∀ rule, rule ∈ next.rules.values ↔ rule = gained ∨ rule ∈ store.rules.values

namespace Gains

variable (gains : store.Gains next gained) {owner : Policy}

include gains

/-- A rule that is added to a policy in charge puts no other policy in charge. -/
theorem inCharge_iff (inCharge : store.InCharge owner) (isOwner : gained.policyId = owner.id) :
    next.InCharge policy ↔ store.InCharge policy := by
  constructor
  · rintro ⟨stored, active, rule, member, isPolicy, isActive⟩
    refine ⟨gains.policies ▸ stored, active, ?_⟩
    rcases (gains.rules rule).1 member with rfl | old
    · obtain ⟨known, knownMember, isKnown, knownActive⟩ := inCharge.hasRule
      exact ⟨known, knownMember, isKnown.trans (isOwner.symm.trans isPolicy), knownActive⟩
    · exact ⟨rule, old, isPolicy, isActive⟩
  · rintro ⟨stored, active, rule, member, isActive⟩
    exact ⟨gains.policies ▸ stored, active, rule, (gains.rules rule).2 (.inr member), isActive⟩

/-- A policy in charge that says yes with one rule more says yes without it. -/
theorem affirms [Host] (inCharge : store.InCharge policy)
    (affirms : next.Affirms catalog attributes policy.id) :
    store.Affirms catalog attributes policy.id :=
  ⟨inCharge.hasRule, fun rule member => affirms.affirm rule ((gains.rules rule).2 (.inr member))⟩

end Gains

end PolicyStore

/-! ## Systems in which rules have been saved -/

/-- A system goes on to another one in which some rules have been saved, and in which nothing else has
changed that decisions depend on. -/
structure System.Saves [Host] (catalog : RuleCatalog) (fixed : Keyed String PolicyChain)
    (rules : List PolicyRule) (system after : System) : Prop
    extends System.Orderly catalog fixed after where
  saved : system.policies.saveRules rules = .ok after.policies
  sameRoles : after.roles = system.roles
  sameSettings : after.settings = system.settings
  sameCursors : after.journal.cursors = system.journal.cursors

theorem System.Saves.noted [Host] {rules : List PolicyRule} (saves : system.Saves catalog fixed rules after)
    {message : String} {organization actor : Value} {done : Unit} {last : System}
    (succeeds : exec (noteChange message organization actor) after = (.ok done, last)) :
    system.Saves catalog fixed rules last := by
  obtain ⟨line, rfl⟩ := logged_of_noteChange succeeds
  exact ⟨System.ofStores_orderly.journal after _ saves.toOrderly, saves.saved, saves.sameRoles,
    saves.sameSettings, saves.sameCursors⟩

namespace PolicyAdministration

/-- Rules that the store takes are saved, and the change is noted, whatever comes after that. -/
theorem exists_exec_saved [Host] (orderly : system.Orderly catalog fixed) {rules : List PolicyRule}
    {next : PolicyStore} (areSaved : system.policies.saveRules rules = .ok next) {actor : Value}
    {written : String} (isWritten : actor.toText = .ok written) {message : String}
    {organization : Value} {α : Type} {rest : Service α} {result : α}
    (succeeds : ∀ middle : System, middle.Orderly catalog fixed → middle.policies = next →
      exec rest middle = (.ok result, middle)) :
    ∃ last : System, last.Orderly catalog fixed ∧ last.policies = next ∧ exec (do
      let _ ← saveRules (pure rules)
      noteChange message organization actor
      rest) system = (.ok result, last) := by
  obtain ⟨saved, executed, changed⟩ :=
    exec_saveRules orderly.unplanned (exec_pure rules system) orderly
  rw [areSaved] at executed changed
  cases changed with
  | made told upToDate =>
      rw [exec_bind_of_ok executed, exec_bind_of_ok (exec_noteChange isWritten _ _ _)]
      have noted (journal : Journal) := System.ofStores_orderly.journal saved journal upToDate
      refine ⟨_, noted _, ?_, succeeds _ (noted _) ?_⟩
      · exact told.policies
      · exact told.policies

end PolicyAdministration

/-! ## Decisions before and after -/

namespace System.Saves

variable [Host] {pace : Pace} {rules : List PolicyRule} (saves : system.Saves catalog fixed rules after)
  (orderly : system.Orderly catalog fixed)

include saves orderly

theorem gateAnswer (question : Question) :
    question.gateAnswer after = question.gateAnswer system := by
  unfold Question.gateAnswer System.gate rolesAnswer
  rw [saves.sameRoles, saves.sameSettings, orderly.unplanned, saves.unplanned]

end System.Saves

namespace Question

/-- A second rule of the policy, which asks for the owner. -/
def ownersRule (id : String) : PolicyRule :=
  ⟨id, "p1", "Owners", "ownership", PolicyRule.sealedConfig (.dict []), 2, .bool true, .null⟩

theorem exists_added [Host] (orderly : system.Orderly (.builtin {}) fixed)
    (ofUsers : system.policies = partsOfUsers.policies) : ∃ after : System,
      after.Orderly (.builtin {}) fixed ∧
      after.policies =
        { policies := [("p1", System.updatesPolicy)]
          rules := Keyed.put (system.ids.spell (system.ids.drawn + 1))
            (ownersRule (system.ids.spell (system.ids.drawn + 1))) [("r1", System.updatesRule)] } ∧
      exec (PolicyAdministration.addRule (.str "acme") (.str "p1") (.str "Owners") (.str "ownership")
        (.dict []) (.int 2) (.bool true) .null .null) system =
        (.ok (ownersRule (system.ids.spell (system.ids.drawn + 1))), after) := by
  have found := PolicyAdministration.exec_find orderly.unplanned "acme" (.str "p1")
  have isName : Cleaning.text "name" (.str "Owners") = .ok "Owners" := rfl
  have isType : Cleaning.text "type" (.str "ownership") = .ok "ownership" := rfl
  have isConfig : Cleaning.config (.dict []) = .ok (.dict []) := rfl
  have isActive : Cleaning.flag "active" (.bool true) = .ok true := rfl
  have isDescribed : Cleaning.optionalText "description" .null = .ok none := rfl
  have isNumber : Cleaning.integer "order" (.int 2) = .ok 2 := rfl
  have tried := PolicyAdministration.exec_tryRule "ownership" (.dict []) system
  have isMade : (RuleCatalog.builtin {}).create (.str "ownership") (.dict []) =
      .ok ⟨"OwnershipRule", "ownership", .ownership⟩ := rfl
  have isWritten : Value.toText .null = .ok "None" := rfl
  have isSaved : system.policies.saveRules
      [ownersRule (system.ids.spell (system.ids.drawn + 1))] = .ok
        { policies := [("p1", System.updatesPolicy)]
          rules := Keyed.put (system.ids.spell (system.ids.drawn + 1))
            (ownersRule (system.ids.spell (system.ids.drawn + 1))) [("r1", System.updatesRule)] } := by
    rw [ofUsers]
    rfl
  rw [orderly.sameCatalog, isMade] at tried
  rw [ofUsers] at found
  unfold PolicyAdministration.addRule
  rw [exec_bind_of_ok found, isName, exec_orFail_ok, isType, exec_orFail_ok, isConfig,
    exec_orFail_ok, isActive, exec_orFail_ok, isDescribed, exec_orFail_ok, exec_bind_of_ok tried]
  dsimp only
  rw [isNumber, exec_orFail_ok, exec_bind_of_ok (exec_newId _)]
  exact PolicyAdministration.exists_exec_saved (System.ofStores_orderly.newId _ orderly) isSaved
    isWritten fun _ _ _ => rfl

end Question

end Authorization
