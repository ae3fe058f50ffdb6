import Authorization.Administration.Policies
import Authorization.Proofs.Decision.Explanation
import Authorization.Proofs.Decision.Question
import Authorization.Proofs.Decision.Steady
import Authorization.Proofs.Key
import Authorization.Proofs.System.Session
import Authorization.Proofs.Tenancy.PolicyAdministration

/-!
# Trying a policy

A policy can be tried on a decision, rule by rule. Unlike a decision, the trial asks every rule and does
not go through the gate, and it finds the chain by the policy and not by the key. All the same it says
what a decision says: the chain of an active policy with an active rule is the one in charge of its key,
and once a rule does not pass, what the rules after it say makes no difference. The trial and the decision
are two runs, each at a pace of its own; the machine is assumed to get on with the scripts of the chain
alike in both.
-/

namespace Authorization

/-! ## The rules of a key -/

namespace Key

end Key

/-! ## The chain of a policy -/

namespace Registry

variable {registry : Registry} {catalog : RuleCatalog} {fixed : Keyed String PolicyChain}
  {store : PolicyStore}

/-- The chain of a policy that is in charge of its key is found under the policy and under the key. -/
theorem Agrees.exists_chain [Host] (agrees : registry.Agrees catalog fixed store) (sound : store.Sound)
    {policy : Policy} (inCharge : store.InCharge policy) : ∃ chain issue?,
    store.Chains catalog policy chain issue? ∧
      registry.snapshot.chainFor policy.key (some policy.organization) = some chain ∧
      registry.snapshot.chainForPolicy policy.id = some chain := by
  obtain ⟨issue?, chains⟩ := @chains_chainIn store catalog _ sound policy
  exact ⟨_, issue?, chains, (agrees.chainFor _ _ _).2 (.stored inCharge rfl chains),
    (agrees.chainForPolicy _ _).2 (.stored inCharge.stored rfl chains)⟩

end Registry

/-! ## Questions at another pace -/

namespace Question

variable {question : Question} {system : System} {catalog : RuleCatalog}
  {fixed : Keyed String PolicyChain} {policy : Policy}

section Paces

variable [Host]

/-- At another pace the machine gets on with the scripts of the chain in charge as at its own. -/
def RunsAlike (question : Question) (system : System) (pace : Pace) : Prop :=
  ∀ chain, question.chain? system = some chain → chain.RunsAlike pace

variable {pace : Pace}

end Paces

/-! ## Trials -/

/-- The parts of a system in memory that hold a policy of the organization "acme" on changes of
customers, which asks for the account role "user". -/
def partsOfUsers : Parts :=
  { policies :=
      { policies := [("p1", System.updatesPolicy)], rules := [("r1", System.updatesRule)] }
    clock := ⟨0, some 0⟩
    isSeeded := false }

end Question

end Authorization
