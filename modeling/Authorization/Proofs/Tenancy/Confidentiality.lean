import Authorization.Administration.Call
import Authorization.Proofs.Tenancy.PolicyAdministration

/-!
# Confidentiality of organizations

Whatever an administrator of an organization calls comes to the same in systems that agree on the
organization, as it is given and as it is trimmed, and the systems agree again afterwards. So what an
administrator is told, and what is left for the organization, depends on what is stored for that
organization and on the catalog of permissions, and on nothing that belongs to others, whichever identifiers
are given. A text with blanks around it names two organizations, since some calls trim it and others take it
as it is.
-/

namespace Authorization

open Service

variable {catalog : RuleCatalog} {fixed : Keyed String PolicyChain} {within : String → Prop}
  {first second system after : System} {given : String}

/-! ## Calls for an organization -/

/-- Nothing comes to be stored for an organization that systems do not agree on. -/
theorem System.Covers.of_spares (covers : system.Covers within given)
    (spares : system.Spares within after) : after.Covers within given := by
  refine ⟨covers.trimmed, fun role member isHere => ?_, fun policy member isHere => ?_⟩
  · by_contra foreign
    have isForeign : ¬within role.organization := isHere ▸ foreign
    exact foreign (covers.roles role ((spares.roles.roles role isForeign).2 member) isHere)
  · by_contra foreign
    have isForeign : ¬within policy.organization := isHere ▸ foreign
    exact foreign (covers.policies policy ((spares.policies.policies policy isForeign).2 member) isHere)

namespace AdminCall

/-- A call for an organization comes to the same in systems that agree on all they store for it. -/
theorem alike_perform [Host] (agree : System.AgreesOn catalog fixed within first second)
    (covers : first.Covers within given) (otherCovers : second.Covers within given)
    (call : AdminCall) :
    Alike catalog fixed within first second (call.perform (.str given)) fun _ _ _ => True := by
  cases call with
  | createRole name slug permissions description isDefault actor =>
      exact (RoleAdministration.alike_create agree covers name slug permissions description isDefault
        actor).map fun _ _ _ _ => trivial
  | listRoles => exact (RoleAdministration.alike_list agree covers).map fun _ _ _ _ => trivial
  | getRole id =>
      rw [perform, ← bind_pure_comp]
      exact RoleAdministration.alike_find agree covers otherCovers id fun _ _ _ _ _ =>
        .pure agree trivial
  | updateRole id actor changes =>
      exact (RoleAdministration.alike_update agree covers otherCovers id actor changes).map
        fun _ _ _ _ => trivial
  | deleteRole id actor =>
      exact (RoleAdministration.alike_delete agree covers otherCovers id actor).map
        fun _ _ _ _ => trivial
  | assignRole user id actor =>
      exact (RoleAdministration.alike_assign agree covers otherCovers user id actor).map
        fun _ _ _ _ => trivial
  | revokeRole user id actor =>
      exact (RoleAdministration.alike_revoke agree covers otherCovers user id actor).map
        fun _ _ _ _ => trivial
  | createPolicy name key description active actor =>
      exact (PolicyAdministration.alike_create agree covers name key description active actor).map
        fun _ _ _ _ => trivial
  | listPolicies => exact (PolicyAdministration.alike_list agree covers).map fun _ _ _ _ => trivial
  | getPolicy id =>
      rw [perform, ← bind_pure_comp]
      exact PolicyAdministration.alike_find agree covers otherCovers id fun _ _ _ =>
        .pure agree trivial
  | getPolicyByKey key =>
      exact (PolicyAdministration.alike_findByKey agree covers otherCovers key).map
        fun _ _ _ _ => trivial
  | updatePolicy id actor changes =>
      exact (PolicyAdministration.alike_update agree covers otherCovers id actor changes).map
        fun _ _ _ _ => trivial
  | deletePolicy id actor =>
      exact (PolicyAdministration.alike_delete agree covers otherCovers id actor).map
        fun _ _ _ _ => trivial
  | clonePolicy source name key description actor =>
      exact (PolicyAdministration.alike_clone agree covers otherCovers source name key description
        actor).map fun _ _ _ _ => trivial
  | testPolicy policyId principal instance? context =>
      exact (PolicyAdministration.alike_test agree covers otherCovers policyId principal instance?
        context).map fun _ _ _ _ => trivial
  | listRules policyId =>
      exact (PolicyAdministration.alike_listRules agree covers otherCovers policyId).map
        fun _ _ _ _ => trivial
  | addRule policyId name type config order active description actor =>
      exact (PolicyAdministration.alike_addRule agree covers otherCovers policyId name type config
        order active description actor).map fun _ _ _ _ => trivial
  | getRule policyId id =>
      rw [perform, ← bind_pure_comp]
      exact PolicyAdministration.alike_findRule agree covers otherCovers policyId id
        fun _ _ _ _ _ => .pure agree trivial
  | updateRule policyId id actor changes =>
      exact (PolicyAdministration.alike_updateRule agree covers otherCovers policyId id actor
        changes).map fun _ _ _ _ => trivial
  | deleteRule policyId id actor =>
      exact (PolicyAdministration.alike_deleteRule agree covers otherCovers policyId id actor).map
        fun _ _ _ _ => trivial
  | reorderRules policyId orders actor =>
      exact (PolicyAdministration.alike_reorder agree covers otherCovers policyId orders actor).map
        fun _ _ _ _ => trivial

/-- Calls for an organization, one after the other, whether or not they fail. -/
def performAll [Host] (organization : Value) (calls : List AdminCall) :
    Service (List (Except Error Reply)) :=
  calls.mapM fun call => outcome (call.perform organization)

theorem alike_performAll [Host] (agree : System.AgreesOn catalog fixed within first second)
    (covers : first.Covers within given) (otherCovers : second.Covers within given)
    (calls : List AdminCall) :
    Alike catalog fixed within first second (performAll (.str given) calls) fun _ _ _ => True :=
  (alike_mapM agree (fun _ _ _ _ _ _ holds => holds) fun call _ _ _ advance =>
    (alike_perform advance.agree (covers.of_spares advance.spares)
      (otherCovers.of_spares advance.otherSpares) call).outcome.mono fun _ _ _ _ => trivial).mono
        fun _ _ _ _ => trivial

end AdminCall

/-! ## The organizations that a text names -/

/-- The organizations that a text names: the one that it spells, and the one that it spells when it is
trimmed. -/
def Names (given organization : String) : Prop :=
  organization = given ∨ organization = Text.trim given

theorem names_iff_of_trimmed (isTrimmed : Text.trim given = given) {organization : String} :
    Names given organization ↔ organization = given := by
  rw [Names, isTrimmed, or_self]

theorem System.covers_names (system : System) (given : String) :
    system.Covers (Names given) given :=
  ⟨.inr rfl, fun _ _ _ => .inl rfl, fun _ _ _ => .inl rfl⟩

namespace AdminCall

/-- A call for an organization has the same result in systems that agree on the organizations that are
named, and leaves systems that agree on them. -/
theorem agreesOn_perform [Host] (agree : System.AgreesOn catalog fixed (Names given) first second)
    (call : AdminCall) :
    (exec (call.perform (.str given)) first).1 = (exec (call.perform (.str given)) second).1 ∧
      System.AgreesOn catalog fixed (Names given) (exec (call.perform (.str given)) first).2
        (exec (call.perform (.str given)) second).2 :=
  have alike := call.alike_perform agree (first.covers_names given) (second.covers_names given)
  ⟨alike.same, alike.advance.agree⟩

/-- So do any number of calls, one after the other. -/
theorem agreesOn_performAll [Host] (agree : System.AgreesOn catalog fixed (Names given) first second)
    (calls : List AdminCall) :
    (exec (performAll (.str given) calls) first).1 =
        (exec (performAll (.str given) calls) second).1 ∧
      System.AgreesOn catalog fixed (Names given) (exec (performAll (.str given) calls) first).2
        (exec (performAll (.str given) calls) second).2 :=
  have alike := alike_performAll agree (first.covers_names given) (second.covers_names given) calls
  ⟨alike.same, alike.advance.agree⟩

end AdminCall

/-! ## Two organizations -/

namespace System

/-- A policy store in memory that holds some policies. -/
def policyStoreOf (policies : List Policy) : PolicyStore :=
  { policies := policies.map fun policy => (policy.id, policy) }

/-- A policy store can be made of some policies, none of which is named like a new record. -/
structure CanHold (policies : List Policy) : Prop where
  isMade : PolicyStore.ofArguments ⟨[.list (policies.map Policy.toValue)], []⟩ =
    .ok (policyStoreOf policies)
  unlike : ∀ policy ∈ policies, ¬"id-".toList <+: policy.id.toList

/-- A system at work on some policies, without roles. -/
def holding [Host] (policies : List Policy) : System :=
  { roles := {}
    policies := policyStoreOf policies
    registry := .ofStore (.builtin {}) [] 0 (policyStoreOf policies)
    clock := ⟨0, some 0⟩
    listeners := [.registry] }

theorem orderly_holding [Host] {policies : List Policy} (canHold : CanHold policies) :
    (holding policies).Orderly (.builtin {}) [] where
  unplanned := rfl
  closed := rfl
  roles := RoleStore.sound_empty
  policies := PolicyStore.sound_of_ofArguments canHold.isMade
  sameCatalog := rfl
  sameFixed := by rw [holding, Registry.snapshot_ofStore]
  listening := List.mem_singleton_self _
  inForce := ⟨0, rfl⟩

theorem values_policyStoreOf (policies : List Policy) :
    (policyStoreOf policies).policies.values = policies := by
  rw [policyStoreOf, Keyed.values, List.map_map]
  exact List.map_id _

theorem freshIds_holding [Host] {policies : List Policy} (canHold : CanHold policies) :
    (holding policies).FreshIds := by
  refine ⟨IdSource.avoids_numbered rfl ?_, IdSource.avoids_numbered rfl ?_⟩
  · rintro id (⟨policy, member, rfl⟩ | ⟨rule, member, _⟩)
    · exact canHold.unlike policy (values_policyStoreOf policies ▸ member)
    · cases member
  · rintro id (⟨role, member, _⟩ | ⟨assignment, member, _⟩)
    · cases member
    · cases member

/-- A policy of an organization on changes of customers. -/
def policyOf (id organization : String) : Policy :=
  ⟨id, "customer:update", "Updates", organization, .str "Policy for customer:update", .bool true⟩

/-- A policy of another organization makes no difference. -/
theorem agreesOn_holding [Host] {within : String → Prop} {policy : Policy} {policies : List Policy}
    (canHold : CanHold policies) (otherCanHold : CanHold (policy :: policies))
    (foreign : ¬within policy.organization) :
    AgreesOn (.builtin {}) [] within (holding policies) (holding (policy :: policies)) := by
  refine ⟨orderly_holding canHold, orderly_holding otherCanHold, freshIds_holding canHold,
    freshIds_holding otherCanHold, rfl, rfl, .refl _, ⟨rfl, fun other isWithin => ?_, ?_⟩⟩
  · rw [holding, holding, values_policyStoreOf, values_policyStoreOf]
    refine ⟨.tail _, fun member => ?_⟩
    rcases List.mem_cons.1 member with rfl | member
    · exact absurd isWithin foreign
    · exact member
  · exact fun _ _ _ _ _ => .rfl

end System

namespace AdminCall

open scoped Host in
/-- The policy of another organization cannot be told from a missing one. -/
theorem agreesOn_perform_acme :
    System.AgreesOn (.builtin {}) [] (Names "acme") (System.holding [System.policyOf "p1" "acme"])
        (System.holding [System.policyOf "p2" "globex", System.policyOf "p1" "acme"]) ∧
      (exec ((deletePolicy (.str "p2") .null).perform (.str "acme"))
          (System.holding [System.policyOf "p1" "acme"])).1 =
        (exec ((deletePolicy (.str "p2") .null).perform (.str "acme"))
          (System.holding [System.policyOf "p2" "globex", System.policyOf "p1" "acme"])).1 := by
  have agree : System.AgreesOn (.builtin {}) [] (Names "acme")
      (System.holding [System.policyOf "p1" "acme"])
      (System.holding [System.policyOf "p2" "globex", System.policyOf "p1" "acme"]) :=
    System.agreesOn_holding ⟨rfl, by decide⟩ ⟨rfl, by decide⟩
      (by rw [names_iff_of_trimmed rfl]; decide)
  exact ⟨agree, (agreesOn_perform agree (deletePolicy (.str "p2") .null)).1⟩

open scoped Host in
/-- To agree on one of the two organizations that " A " names is not enough: policies are listed for the
trimmed one, and found in the other. -/
theorem perform_differs_of_padded :
    (System.AgreesOn (.builtin {}) [] (· = " A ") (System.holding [])
        (System.holding [System.policyOf "p1" "A"]) ∧
      (exec (listPolicies.perform (.str " A ")) (System.holding [])).1 ≠
        (exec (listPolicies.perform (.str " A ")) (System.holding [System.policyOf "p1" "A"])).1) ∧
    (System.AgreesOn (.builtin {}) [] (· = "A") (System.holding [])
        (System.holding [System.policyOf "p1" " A "]) ∧
      (exec ((getPolicy (.str "p1")).perform (.str " A ")) (System.holding [])).1 ≠
        (exec ((getPolicy (.str "p1")).perform (.str " A "))
          (System.holding [System.policyOf "p1" " A "])).1) := by
  refine ⟨⟨System.agreesOn_holding ⟨rfl, nofun⟩ ⟨rfl, by decide⟩ (by decide), fun same => ?_⟩,
    ⟨System.agreesOn_holding ⟨rfl, nofun⟩ ⟨rfl, by decide⟩ (by decide), fun same => ?_⟩⟩
  · have isText : Cleaning.text "organization_id" (.str " A ") = .ok "A" := rfl
    rw [perform, exec_map, exec_map, PolicyAdministration.exec_list rfl,
      PolicyAdministration.exec_list rfl, isText] at same
    have sameList := Value.tuple.inj (Reply.value.inj (Except.ok.inj same))
    have isThere : System.policyOf "p1" "A" ∈
        (System.holding [System.policyOf "p1" "A"]).policies.policiesIn (.str "A") :=
      PolicyStore.mem_policiesIn_str.2 ⟨List.mem_singleton_self _, rfl⟩
    have isListed := congrArg ((System.policyOf "p1" "A").toValue ∈ ·) sameList
    obtain ⟨policy, member, _⟩ :=
      List.mem_map.1 (isListed.mpr (List.mem_map_of_mem (mem_sortedBy.2 isThere)))
    have isStored : policy ∈ (System.holding []).policies.policies.values :=
      (PolicyStore.mem_policiesIn_str.1 (mem_sortedBy.1 member)).1
    cases isStored
  · rw [perform, exec_map, exec_map, PolicyAdministration.exec_find rfl,
      PolicyAdministration.exec_find rfl] at same
    cases same

end AdminCall

end Authorization
