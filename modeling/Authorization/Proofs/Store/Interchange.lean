import Authorization.Proofs.Store.Plain
import Authorization.Proofs.Store.Policy

/-!
# Stores in memory and in tables

A store in memory looks records up as they are, and checks the owners of all rules before it saves the
first. Tables read identifiers and fill columns, row by row. Of plain records, and asked for by texts and
canonical identifiers, both do the same.
-/

namespace Authorization

/-- An identifier of tables is one of every store. -/
theorem Backend.keeps_of_tables {id : String} (keeps : Backend.tables.Keeps id) (backend : Backend) :
    backend.Keeps id := by
  cases backend with
  | memory => exact Backend.keeps_of_memory id
  | tables => exact keeps

namespace PolicyStore

/-- The store with another backend and the same records. -/
def on (store : PolicyStore) (backend : Backend) : PolicyStore :=
  { store with backend }

variable (store : PolicyStore) (backend : Backend)

theorem identifier_on {id : String} (keeps : Backend.tables.Keeps id) :
    (store.on backend).backend.identifier (.str id) = store.backend.identifier (.str id) :=
  (Backend.keeps_of_tables keeps _).identifier.trans (Backend.keeps_of_tables keeps _).identifier.symm

/-! ## Policies -/

theorem policiesIn_on (organization : Option String) :
    (store.on backend).policiesIn (.ofOption organization) =
      store.policiesIn (.ofOption organization) := by
  unfold policiesIn
  cases organization with
  | none =>
      have isNull : (Value.ofOption none).equal .null = true := (Value.equal_null_iff _).2 rfl
      simp only [isNull, Bool.true_or]
      rfl
  | some organization =>
      simp only [Value.ofOption, Backend.matchesText_str]
      rfl

theorem policy?_on {id : String} (keeps : Backend.tables.Keeps id) :
    (store.on backend).policy? (.str id) = store.policy? (.str id) := by
  unfold policy?
  rw [identifier_on store backend keeps]
  rfl

theorem policyByKey?_on (key organization : String) :
    (store.on backend).policyByKey? (.str key) (.str organization) =
      store.policyByKey? (.str key) (.str organization) := by
  unfold policyByKey?
  simp only [Backend.matchesText_str]
  rfl

theorem savePolicy_on {policy : Policy} (plain : policy.Plain) :
    (store.on backend).savePolicy policy = (store.savePolicy policy).map fun next => next.on backend := by
  have identified (store : PolicyStore) : store.policyIdentifier policy.id = .ok policy.id :=
    policyIdentifier_eq_ok_iff.2 (Backend.keeps_of_tables plain.keeps _)
  have sameClash : (store.on backend).hasClash policy = store.hasClash policy := rfl
  unfold savePolicy
  rw [identified, Except.ok_bind, identified, Except.ok_bind]
  dsimp only
  rw [sameClash, kept_of_plain _ plain, kept_of_plain _ plain]
  split
  · rfl
  · rfl

theorem deletePolicy_on {id : String} (keeps : Backend.tables.Keeps id) :
    (store.on backend).deletePolicy (.str id) =
      (store.deletePolicy (.str id)).map fun deleted => (deleted.1.on backend, deleted.2) := by
  have sameRules : (store.on backend).rulesWithin id = store.rulesWithin id := rfl
  unfold deletePolicy
  rw [identifier_on store backend keeps, (Backend.keeps_of_tables keeps _).identifier, Except.ok_bind,
    Except.ok_bind]
  dsimp only
  rw [sameRules]
  split
  · rfl
  · rfl

/-! ## Rules -/

theorem rulesOf_on {policyId : Option String}
    (keeps : ∀ id, policyId = some id → Backend.tables.Keeps id) :
    (store.on backend).rulesOf (.ofOption policyId) = store.rulesOf (.ofOption policyId) := by
  cases policyId with
  | none => rfl
  | some id =>
      have keepsEverywhere := Backend.keeps_of_tables (keeps id rfl)
      rw [Value.ofOption, rulesOf_str (keepsEverywhere _), rulesOf_str (keepsEverywhere _)]
      rfl

theorem rule?_on {id : String} (keeps : Backend.tables.Keeps id) :
    (store.on backend).rule? (.str id) = store.rule? (.str id) := by
  unfold rule?
  rw [identifier_on store backend keeps]
  rfl

theorem countRules_on {policyId : String} (keeps : Backend.tables.Keeps policyId) :
    (store.on backend).countRules (.str policyId) = store.countRules (.str policyId) := by
  rw [countRules_str, countRules_str, identifier_on store backend keeps]
  rfl

theorem saveRule_on {rule : PolicyRule} (plain : rule.Plain) :
    (store.on backend).saveRule rule = (store.saveRule rule).map fun next => next.on backend := by
  have identified (store : PolicyStore) : store.identified rule = .ok rule := by
    unfold PolicyStore.identified
    rw [(Backend.keeps_of_tables plain.keeps _).identifier, Except.ok_bind,
      (Backend.keeps_of_tables plain.keepsPolicy _).identifier, Except.ok_bind]
    rfl
  have sameOwner : (store.on backend).checkOwner rule rule = store.checkOwner rule rule := rfl
  unfold saveRule
  rw [identified, Except.ok_bind, identified, Except.ok_bind, sameOwner]
  rcases store.checkOwner rule rule with error | ⟨⟩
  · rfl
  · rw [Except.ok_bind, Except.ok_bind, keptRule_of_plain _ plain, keptRule_of_plain _ plain]
    rfl

/-- Rules are saved all at once or row by row. -/
theorem saveRules_on {rules : List PolicyRule} (plain : ∀ rule ∈ rules, rule.Plain) :
    (store.on backend).saveRules rules = (store.saveRules rules).map fun next => next.on backend := by
  rw [saveRules_eq_foldlM, saveRules_eq_foldlM]
  induction rules generalizing store with
  | nil => rfl
  | cons rule rest inductionHypothesis =>
      obtain ⟨isPlain, restPlain⟩ := List.forall_mem_cons.1 plain
      rw [List.foldlM_cons, List.foldlM_cons, saveRule_on store backend isPlain]
      rcases store.saveRule rule with error | next
      · rfl
      · exact inductionHypothesis next restPlain

theorem deleteRule_on {id : String} (keeps : Backend.tables.Keeps id) :
    (store.on backend).deleteRule (.str id) =
      (store.deleteRule (.str id)).map fun deleted => (deleted.1.on backend, deleted.2) := by
  unfold deleteRule
  rw [identifier_on store backend keeps, (Backend.keeps_of_tables keeps _).identifier, Except.ok_bind,
    Except.ok_bind]
  rfl

end PolicyStore

end Authorization
