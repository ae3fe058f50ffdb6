import Authorization.Proofs.Administration.Upkeep
import Authorization.Proofs.Record

/-!
# Procedures keep lasting invariants

Callers know the operations of the system by their names only. Whatever they call, and whatever they give
with it, an invariant of the stores is kept. It may mind which rules are saved: administrators save rules
that have been tried or come of stored ones, other callers what is the record of a rule.
-/

namespace Authorization

open Service

variable {invariant : System → Prop} {accepts : String → Value → Prop}
  {isStored : PolicyRule → Prop}

/-- An invariant that administrators keep by saving vetted rules only, and other callers by saving what
is the record of a rule. -/
structure Service.Tending [Host] (invariant : System → Prop) (accepts : String → Value → Prop)
    (isStored : PolicyRule → Prop) : Prop extends Vetting invariant accepts isStored where
  saveRuleValues : ∀ values, Keeps invariant (saveRuleValues values)

theorem Service.Lasting.tending [Host] (lasting : Lasting invariant) :
    Tending invariant (fun _ _ => True) (fun _ => True) where
  toVetting := lasting.vetting
  saveRuleValues := lasting.saveRuleValues

/-- A value that is a policy has been made with a key that has passed the check. -/
theorem PolicyStore.isPolicyKey_of_policyOf {value : Value} {policy : Policy}
    (isPolicy : policyOf value = .ok policy) : Key.isPolicyKey policy.key = true := by
  unfold policyOf at isPolicy
  split at isPolicy
  · rename_i isRecord
    cases isPolicy
    unfold Policy.ofValue? at isRecord
    split at isRecord
    · rename_i fields
      rcases isMade : Policy.ofBindings fields with error | made
      · rw [isMade] at isRecord
        cases isRecord
      · rw [isMade] at isRecord
        cases isRecord
        exact (Policy.key_of_ofBindings isMade).2
    · cases isRecord
  · cases isPolicy

namespace Procedure

/-- A procedure keeps an invariant, whatever arguments it is given. -/
def KeepsAlways (invariant : System → Prop) (procedure : Procedure) : Prop :=
  ∀ arguments, Keeps invariant (procedure arguments)

theorem keepsAlways_of {parameters : List Parameter} {action : Bindings → Service Reply}
    (keeps : ∀ given, Keeps invariant (action given)) :
    KeepsAlways invariant (of parameters action) :=
  fun _ => (keeps_orFail _).bind keeps

theorem keepsAlways_plain {action : Service Reply}
    (keeps : Keeps invariant action) :
    KeepsAlways invariant (plain action) :=
  keepsAlways_of fun _ => keeps

theorem keepsAlways_ofStore (ofStores : OfStores invariant) {operation : StoreOperation}
    {parameters : List Parameter} {action : Bindings → Service Reply}
    (keeps : ∀ given, Keeps invariant (action given)) :
    KeepsAlways invariant (ofStore operation parameters action) := by
  intro arguments
  refine (ofStores.due? operation).bind fun planned => ?_
  split
  · exact (keeps_orFail _).bind fun _ => keeps_pure _
  · exact ofStores.setAside (keepsAlways_of keeps arguments) operation

theorem keepsAlways_ofChange {identifiers : Nat}
    {action : List Value → Value → Bindings → Service Reply}
    (keeps : ∀ given actor changes, Keeps invariant (action given actor changes)) :
    KeepsAlways invariant (ofChange identifiers action) :=
  fun _ => (keeps_orFail _).bind fun _ => .guarded (keeps_orFail _) fun _ => keeps _ _ _

section

variable [Host] (tending : Tending invariant accepts isStored)

include tending

/-! ## Administration -/

theorem keepsAlways_forOrganization {parameters : List Parameter} {call : Bindings → AdminCall} :
    KeepsAlways invariant (Administration.forOrganization parameters call) :=
  keepsAlways_of fun _ => AdminRequest.keeps_perform tending.toVetting _

theorem keepsAlways_updateRole : KeepsAlways invariant Administration.updateRole := by
  refine keepsAlways_ofChange fun given actor changes => ?_
  split
  · exact AdminRequest.keeps_perform tending.toVetting _
  · exact keeps_pure _

theorem keepsAlways_updatePolicy : KeepsAlways invariant Administration.updatePolicy := by
  refine keepsAlways_ofChange fun given actor changes => ?_
  split
  · exact AdminRequest.keeps_perform tending.toVetting _
  · exact keeps_pure _

theorem keepsAlways_updateRule : KeepsAlways invariant Administration.updateRule := by
  refine keepsAlways_ofChange fun given actor changes => ?_
  split
  · exact AdminRequest.keeps_perform tending.toVetting _
  · exact keeps_pure _

theorem keepsAlways_ofRoles : ∀ entry ∈ Administration.ofRoles,
    KeepsAlways invariant entry.2 := by
  simp only [Administration.ofRoles, List.forall_mem_cons]
  exact ⟨keepsAlways_plain (AdminRequest.keeps_perform tending.toVetting _),
    keepsAlways_forOrganization tending, keepsAlways_forOrganization tending,
    keepsAlways_forOrganization tending, keepsAlways_updateRole tending,
    keepsAlways_forOrganization tending, keepsAlways_forOrganization tending,
    keepsAlways_forOrganization tending,
    keepsAlways_of fun _ => AdminRequest.keeps_perform tending.toVetting _, List.forall_mem_nil _⟩

theorem keepsAlways_ofPolicies : ∀ entry ∈ Administration.ofPolicies,
    KeepsAlways invariant entry.2 := by
  simp only [Administration.ofPolicies, List.forall_mem_cons]
  exact ⟨keepsAlways_forOrganization tending, keepsAlways_forOrganization tending,
    keepsAlways_forOrganization tending, keepsAlways_forOrganization tending,
    keepsAlways_updatePolicy tending, keepsAlways_forOrganization tending,
    keepsAlways_forOrganization tending, keepsAlways_forOrganization tending,
    keepsAlways_forOrganization tending, keepsAlways_forOrganization tending,
    keepsAlways_forOrganization tending, keepsAlways_updateRule tending,
    keepsAlways_forOrganization tending, keepsAlways_forOrganization tending,
    keepsAlways_plain (AdminRequest.keeps_perform tending.toVetting _), List.forall_mem_nil _⟩

/-! ## Stores -/

theorem keepsAlways_ofRoleStore : ∀ entry ∈ ofRoleStore, KeepsAlways invariant entry.2 := by
  have ofStores := tending.toOfStores
  simp only [ofRoleStore, asking, askingTwo, List.forall_mem_cons]
  exact ⟨keepsAlways_ofStore ofStores fun _ => tending.countPermissions.map _,
    keepsAlways_ofStore ofStores fun _ => (tending.addPermissionValues _).map _,
    keepsAlways_ofStore ofStores fun _ => tending.listPermissions.map _,
    keepsAlways_ofStore ofStores fun _ => (tending.role? _).map _,
    keepsAlways_ofStore ofStores fun _ => (tending.rolesOf _).map _,
    keepsAlways_ofStore ofStores fun _ => (tending.rolesIn _).map _,
    keepsAlways_ofStore ofStores fun _ => (tending.roleBySlug? _ _).map _,
    keepsAlways_ofStore ofStores fun _ => (keeps_orFail _).bind fun _ => (tending.saveRole _).map _,
    keepsAlways_ofStore ofStores fun _ => (tending.deleteRole _).map _,
    keepsAlways_ofStore ofStores fun _ => (tending.countHolders _).map _,
    keepsAlways_ofStore ofStores fun _ => (tending.assign _ _).map _,
    keepsAlways_ofStore ofStores fun _ => (tending.revoke _ _).map _,
    keepsAlways_ofStore ofStores fun _ => (tending.rolesHeldBy _).map _, List.forall_mem_nil _⟩

theorem keepsAlways_ofPolicyStore : ∀ entry ∈ ofPolicyStore, KeepsAlways invariant entry.2 := by
  have ofStores := tending.toOfStores
  simp only [ofPolicyStore, asking, askingTwo, askingAny, List.forall_mem_cons]
  exact ⟨keepsAlways_ofStore ofStores fun _ => (tending.policiesIn _).map _,
    keepsAlways_ofStore ofStores fun _ => (tending.policy? _).map _,
    keepsAlways_ofStore ofStores fun _ => (tending.policyByKey? _ _).map _,
    keepsAlways_ofStore ofStores fun _ => (keeps_orFail _).followed (yields_orFail _)
      fun _ isPolicy => (tending.savePolicy _ (.checked (PolicyStore.isPolicyKey_of_policyOf isPolicy))).map _,
    keepsAlways_ofStore ofStores fun _ => (tending.deletePolicy _).map _,
    keepsAlways_ofStore ofStores fun _ => (tending.rulesOfPolicy _).map _,
    keepsAlways_ofStore ofStores fun _ => (tending.rule? _).map _,
    keepsAlways_ofStore ofStores fun _ => (tending.countRules _).map _,
    keepsAlways_ofStore ofStores fun _ => (tending.saveRuleValues _).map _,
    keepsAlways_ofStore ofStores fun _ => (tending.deleteRule _).map _,
    keepsAlways_ofStore ofStores fun _ => (tending.subscribe _).map _, List.forall_mem_nil _⟩

/-! ## Decisions and what surrounds them -/

theorem keepsAlways_ofPermissions : ∀ entry ∈ ofPermissions, KeepsAlways invariant entry.2 := by
  simp only [ofPermissions, List.forall_mem_cons]
  exact ⟨keepsAlways_plain (tending.listPermissions.map _),
    keepsAlways_of fun _ => (tending.permission? _).map _,
    keepsAlways_of fun _ => (keeps_orFail _).bind fun _ => keeps_pure _,
    keepsAlways_of fun _ => (tending.resolvePermissions _).bind fun _ => keeps_pure _,
    keepsAlways_of fun _ => (tending.evaluatePermissions _ _ _).map _,
    keepsAlways_of fun _ =>
      (tending.evaluatePermissions _ _ _).bind fun _ => keeps_pure _, List.forall_mem_nil _⟩

theorem keepsAlways_ofRegistry : ∀ entry ∈ ofRegistry, KeepsAlways invariant entry.2 := by
  simp only [ofRegistry, List.forall_mem_cons]
  exact ⟨keepsAlways_of fun _ => (keeps_chainFor _ _).map _,
    keepsAlways_of fun _ => (keeps_chainForPolicy _).map _,
    keepsAlways_plain (keeps_get.bind fun _ => keeps_pure _),
    keepsAlways_plain (tending.reload.map _), List.forall_mem_nil _⟩

theorem keepsAlways_ofDecisions : ∀ entry ∈ ofDecisions, KeepsAlways invariant entry.2 := by
  simp only [ofDecisions, List.forall_mem_cons]
  exact ⟨keepsAlways_of fun _ => (tending.allows _ _ _ _ _).map _,
    keepsAlways_of fun _ => (tending.explain _ _ _ _ _).map _,
    keepsAlways_of fun _ => (tending.canAccess _ _ _ _ _).map _, List.forall_mem_nil _⟩

theorem keepsAlways_record : KeepsAlways invariant record := by
  refine keepsAlways_of fun given => ?_
  dsimp only
  split
  · exact (tending.recordEntry _).bind fun _ => keeps_pure _
  · exact (keeps_throw _).bind fun _ => keeps_pure _

theorem keepsAlways_ofSurroundings : ∀ entry ∈ ofSurroundings,
    KeepsAlways invariant entry.2 := by
  simp only [ofSurroundings, List.forall_mem_cons]
  exact ⟨keepsAlways_of fun _ =>
      (tending.addInstance _ _ _).bind fun _ => keeps_pure _,
    keepsAlways_of fun _ => (tending.removeInstance _ _).map _,
    keepsAlways_of fun _ => (keeps_loadInstance _ _).map _, keepsAlways_record tending,
    keepsAlways_of fun _ => (keeps_recordedEntries _ _).map _,
    keepsAlways_plain (keeps_get.bind fun _ => keeps_pure _),
    keepsAlways_of fun _ => (tending.advanceClock _).bind fun _ => keeps_pure _,
    List.forall_mem_nil _⟩

theorem keepsAlways_all : ∀ entry ∈ all, KeepsAlways invariant entry.2 := by
  simp only [all, List.forall_mem_append]
  exact ⟨⟨⟨⟨⟨⟨⟨keepsAlways_ofRoles tending, keepsAlways_ofPolicies tending⟩,
    keepsAlways_ofRoleStore tending⟩, keepsAlways_ofPolicyStore tending⟩,
    keepsAlways_ofPermissions tending⟩, keepsAlways_ofRegistry tending⟩,
    keepsAlways_ofDecisions tending⟩, keepsAlways_ofSurroundings tending⟩

end

end Procedure

/-- Whatever is called, an invariant is kept that everyone keeps by what they save. -/
theorem Service.keeps_call [Host] (tending : Tending invariant accepts isStored) (name : String)
    (arguments : Arguments) : Keeps invariant (call name arguments) := by
  unfold call
  split
  · rename_i procedure isFound
    obtain ⟨before, after, isThere, _⟩ := List.lookup_eq_some_iff.1 isFound
    have member : (name, procedure) ∈ Procedure.all := by
      rw [isThere]
      exact List.mem_append_right before List.mem_cons_self
    exact Procedure.keepsAlways_all tending (name, procedure) member arguments
  · exact keeps_orFail _

end Authorization
