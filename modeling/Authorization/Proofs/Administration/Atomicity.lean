import Authorization.Proofs.System.Rebuilding
import Authorization.Proofs.Tenancy.Systems

/-!
# Failures of administrators

A request of an administrator that fails leaves the stores and the registry as they were: each writes to a
store at most once, after everything that can be wrong has been looked at, and what follows the writing
cannot fail. The one request that writes twice is to copy a policy. When the copied policy is stored and
its rules cannot be, the copy is taken away again; the stores are then as before, and the registry, which
has been rebuilt twice, differs by its version alone.
-/

namespace Authorization

open Service

variable {catalog : RuleCatalog} {fixed : Keyed String PolicyChain} {base system : System}

/-- A system has the stores and the registry of another one, and the same listen. -/
structure System.Intact (base system : System) : Prop where
  roles : system.roles = base.roles
  policies : system.policies = base.policies
  registry : system.registry = base.registry
  listeners : system.listeners = base.listeners

/-- An orderly system that stands where another one stood. -/
structure System.Standing [Host] (catalog : RuleCatalog) (fixed : Keyed String PolicyChain)
    (base system : System) : Prop extends System.Orderly catalog fixed system where
  intact : base.Intact system

theorem System.ofStores_standing [Host] : OfStores (System.Standing catalog fixed base) where
  unplanned _ standing := standing.unplanned
  journal system _ standing :=
    ⟨ofStores_orderly.journal system _ standing.toOrderly,
      standing.intact.roles, standing.intact.policies, standing.intact.registry,
      standing.intact.listeners⟩
  others system _ _ _ _ _ _ standing :=
    ⟨ofStores_orderly.others system _ _ _ _ _ _ standing.toOrderly,
      standing.intact.roles, standing.intact.policies, standing.intact.registry,
      standing.intact.listeners⟩

/-! ## Actions that fail without a trace -/

namespace Service

variable {α β : Type} {action : Service α} {next : α → Service β} {invariant : System → Prop}

/-- An action that fails leaves the stores and the registry where they stood. -/
def Undone [Host] (catalog : RuleCatalog) (fixed : Keyed String PolicyChain) (base : System)
    (action : Service α) : Prop :=
  ∀ system, System.Standing catalog fixed base system → ∀ error,
    (exec action system).1 = .error error →
      System.Standing catalog fixed base (exec action system).2

/-- An action succeeds in every system with an invariant. -/
def Succeeds (invariant : System → Prop) (action : Service α) : Prop :=
  ∀ system, invariant system → ∃ value, (exec action system).1 = .ok value

theorem Keeps.undone [Host] (keeps : Keeps (System.Standing catalog fixed base) action) :
    Undone catalog fixed base action :=
  fun system standing _ _ => keeps system standing

/-- What only looks at the stores may come first. -/
theorem Keeps.andThen [Host] (keeps : Keeps (System.Standing catalog fixed base) action)
    (rest : ∀ value, Undone catalog fixed base (next value)) :
    Undone catalog fixed base (action >>= next) := by
  intro system standing error
  have middle := keeps system standing
  rw [exec_bind]
  revert middle
  rcases exec action system with ⟨failure | value, after⟩ <;> intro middle fails
  · exact middle
  · exact rest value after middle error fails

/-- What cannot fail may follow. -/
theorem Undone.followed [Host] (undone : Undone catalog fixed base action)
    (keeps : Keeps (System.Orderly catalog fixed) action)
    (succeeds : ∀ value, Succeeds (System.Orderly catalog fixed) (next value)) :
    Undone catalog fixed base (action >>= next) := by
  intro system standing error
  have failed := undone system standing
  have orderly := keeps system standing.toOrderly
  rw [exec_bind]
  revert failed orderly
  rcases exec action system with ⟨failure | value, after⟩ <;> intro failed orderly fails
  · exact failed failure rfl
  · obtain ⟨result, succeeded⟩ := succeeds value after orderly
    dsimp only at fails
    rw [succeeded] at fails
    cases fails

/-- An outcome may be looked at before it is passed on. -/
theorem Undone.handled [Host] {next : Except Error α → Service β}
    (undone : Undone catalog fixed base action)
    (keeps : Keeps (System.Orderly catalog fixed) action)
    (isError : ∀ error, Keeps (System.Standing catalog fixed base) (next (.error error)))
    (succeeds : ∀ value, Succeeds (System.Orderly catalog fixed) (next (.ok value))) :
    Undone catalog fixed base (outcome action >>= next) := by
  intro system standing error
  have failed := undone system standing
  have orderly := keeps system standing.toOrderly
  rw [exec_bind_of_ok (exec_outcome action system)]
  revert failed orderly
  rcases exec action system with ⟨failure | value, after⟩ <;> intro failed orderly fails
  · exact isError failure after (failed failure rfl)
  · obtain ⟨result, succeeded⟩ := succeeds value after orderly
    dsimp only at fails
    rw [succeeded] at fails
    cases fails

theorem Undone.map [Host] (undone : Undone catalog fixed base action) (write : α → β) :
    Undone catalog fixed base (write <$> action) := by
  intro system standing error
  have failed := undone system standing
  rw [exec_map]
  revert failed
  rcases exec action system with ⟨failure | value, after⟩ <;> intro failed fails
  · exact failed failure rfl
  · cases fails

theorem Undone.ite [Host] {condition : Prop} [Decidable condition] {first second : Service α}
    (isTrue : Undone catalog fixed base first) (isFalse : Undone catalog fixed base second) :
    Undone catalog fixed base (if condition then first else second) := by
  split
  · exact isTrue
  · exact isFalse

theorem Undone.guarded [Host] {condition : Prop} [Decidable condition] {check : Service PUnit}
    {rest : PUnit → Service α} (checks : Keeps (System.Standing catalog fixed base) check)
    (undone : ∀ done, Undone catalog fixed base (rest done)) :
    Undone catalog fixed base (if condition then check >>= rest else rest ⟨⟩) :=
  .ite (checks.andThen undone) (undone ⟨⟩)

/-! ## Actions that succeed -/

theorem succeeds_pure (value : α) : Succeeds invariant (pure value : Service α) :=
  fun _ _ => ⟨value, rfl⟩

theorem Succeeds.guarded {condition : Prop} [Decidable condition] {check : Service PUnit}
    {rest : PUnit → Service α} (checked : Succeeds invariant (check >>= rest))
    (succeeds : Succeeds invariant (rest ⟨⟩)) :
    Succeeds invariant (if condition then check >>= rest else rest ⟨⟩) := by
  split
  · exact checked
  · exact succeeds

theorem Succeeds.bind (succeeds : Succeeds invariant action) (keeps : Keeps invariant action)
    (rest : ∀ value, Succeeds invariant (next value)) : Succeeds invariant (action >>= next) := by
  intro system holds
  obtain ⟨value, succeeded⟩ := succeeds system holds
  have stillHolds := keeps system holds
  rw [exec_bind]
  revert succeeded stillHolds
  rcases exec action system with ⟨_, after⟩
  rintro rfl stillHolds
  exact rest value after stillHolds

theorem succeeds_noteChange {actor : Value} {written : String} (isWritten : actor.toText = .ok written)
    (message : String) (organization : Value) :
    Succeeds invariant (noteChange message organization actor) := by
  intro system _
  rw [exec_noteChange isWritten]
  exact ⟨(), rfl⟩

theorem succeeds_noted [Host] {actor : Value} {written : String} (isWritten : actor.toText = .ok written)
    (message : String) (organization : Value) (result : α) :
    Succeeds (System.Orderly catalog fixed) (do
      noteChange message organization actor
      return result) :=
  (succeeds_noteChange isWritten message organization).bind
    (keeps_noteChange System.ofStores_orderly.toOfUnplanned _ _ _) fun _ => succeeds_pure result

/-- The rules of a policy can always be listed. -/
theorem exists_rulesOf (store : PolicyStore) (id : String) :
    ∃ rules, store.rulesOf (.str id) = .ok rules := by
  unfold PolicyStore.rulesOf
  cases store.backend with
  | memory => exact ⟨_, rfl⟩
  | tables =>
      dsimp only
      rw [Backend.identifier_str, Except.ok_bind]
      cases Text.Uuid.canonical? id with
      | none => exact ⟨_, rfl⟩
      | some known => exact ⟨_, rfl⟩

theorem succeeds_rulesOfPolicy [Host] (id : String) :
    Succeeds (System.Orderly catalog fixed) (rulesOfPolicy (.str id)) := by
  intro system orderly
  rw [exec_rulesOfPolicy orderly.unplanned]
  exact exists_rulesOf system.policies id

/-! ## Operations of the stores -/

/-- A change of the policy store that fails changes nothing. -/
theorem undone_of_changed [Host] {γ : Type} {after : System} {change : Except Error γ} {write : γ → α}
    {forget : γ → PolicyStore}
    (executed : exec action system = (change.map write, after))
    (changed : System.Changed catalog fixed system (change.map forget) after)
    (standing : System.Standing catalog fixed base system) {error : Error}
    (fails : (exec action system).1 = .error error) :
    System.Standing catalog fixed base (exec action system).2 := by
  rw [executed] at fails ⊢
  cases change with
  | ok result => cases fails
  | error failure =>
      cases changed with
      | failed => exact standing

theorem undone_savePolicy [Host] (policy : Policy) :
    Undone catalog fixed base (savePolicy policy) := by
  intro system standing error fails
  obtain ⟨after, executed, changed⟩ := exec_savePolicy standing.toOrderly policy
  have unchanged : system.policies.savePolicy policy =
      (system.policies.savePolicy policy).map id := by
    cases system.policies.savePolicy policy <;> rfl
  exact undone_of_changed executed (unchanged ▸ changed) standing fails

theorem undone_deletePolicy [Host] (id : Value) : Undone catalog fixed base (deletePolicy id) := by
  intro system standing error fails
  obtain ⟨after, executed, changed⟩ := exec_deletePolicy standing.toOrderly id
  exact undone_of_changed executed changed standing fails

theorem undone_deleteRule [Host] (id : Value) : Undone catalog fixed base (deleteRule id) := by
  intro system standing error fails
  obtain ⟨after, executed, changed⟩ := exec_deleteRule standing.toOrderly id
  exact undone_of_changed executed changed standing fails

theorem undone_saveRules [Host] {make : Service (List PolicyRule)}
    (keeps : Keeps (System.Standing catalog fixed base) make) :
    Undone catalog fixed base (saveRules make) := by
  intro system standing error fails
  have middle := keeps system standing
  rcases made : exec make system with ⟨failure | rules, ready⟩
  · rw [exec_saveRules_of_error standing.unplanned made]
    rwa [made] at middle
  · rw [made] at middle
    obtain ⟨after, executed, changed⟩ := exec_saveRules standing.unplanned made middle.toOrderly
    rw [executed] at fails ⊢
    cases saved : ready.policies.saveRules rules with
    | ok next =>
        rw [saved] at fails
        cases fails
    | error failure =>
        rw [saved] at changed
        cases changed with
        | failed => exact middle

theorem undone_performedValue [Host] (undone : Undone catalog fixed base action)
    (operation : StoreOperation) (write : α → Value) :
    Undone catalog fixed base (performedValue operation write action) := by
  intro system standing error
  have failed := undone system standing
  rw [exec_performedValue standing.unplanned]
  revert failed
  rcases exec action system with ⟨failure | value, after⟩ <;> intro failed fails
  · exact failed failure rfl
  · cases fails

theorem undone_changeRoles [Host] (change : RoleStore → Except Error (RoleStore × α)) :
    Undone catalog fixed base (changeRoles change) := by
  intro system standing error
  unfold changeRoles
  rw [exec_get_bind, exec_bind, exec_orFail]
  rcases change system.roles with failure | ⟨roles, result⟩ <;> intro fails
  · exact standing
  · cases fails

theorem undone_saveRole [Host] (role : Role) : Undone catalog fixed base (saveRole role) :=
  undone_performedValue (undone_changeRoles _) _ _

theorem undone_deleteRole [Host] (id : Value) : Undone catalog fixed base (deleteRole id) :=
  undone_performedValue (undone_changeRoles _) _ _

theorem undone_assign [Host] (user id : Value) : Undone catalog fixed base (assign user id) :=
  undone_performedValue (keeps_get.andThen fun _ => undone_changeRoles _) _ _

theorem undone_revoke [Host] (user id : Value) : Undone catalog fixed base (revoke user id) :=
  undone_performedValue (undone_changeRoles _) _ _

end Service

/-! ## Roles -/

namespace RoleAdministration

theorem undone_save [Host] (role : Role) : Undone catalog fixed base (save role) :=
  (undone_saveRole role).handled (ofPolicies_orderly.saveRole role)
    (fun _ => .ite (keeps_throw _) (keeps_throw _)) fun _ => succeeds_pure _

section

variable {actor : Value} {written : String} (isWritten : actor.toText = .ok written)

include isWritten

theorem undone_create [Host] (organization name slug permissions description isDefault : Value) :
    Undone catalog fixed base
      (create organization name slug permissions description isDefault actor) := by
  have ofStores := @System.ofStores_standing catalog fixed base
  refine (keeps_orFail _).andThen fun organization => (keeps_orFail _).andThen fun name =>
    (keeps_orFail _).andThen fun slug => (keeps_orFail _).andThen fun description =>
      (keeps_orFail _).andThen fun isDefault =>
        (keeps_permissionsOf ofStores.toOfUnplanned _).andThen fun permissions =>
          (ofStores.roleBySlug? _ _).andThen fun other =>
            .guarded (keeps_throw _) fun _ => ofStores.newId.andThen fun id => ?_
  exact (undone_save _).followed (keeps_save (lasting_orderly.saveRole _)) fun _ =>
    succeeds_noted isWritten _ _ _

theorem undone_update [Host] (organization id : Value) (changes : Bindings) :
    Undone catalog fixed base (update organization id actor changes) := by
  have ofUnplanned := (@System.ofStores_standing catalog fixed base).toOfUnplanned
  refine (keeps_orFail _).andThen fun _ => (keeps_find ofUnplanned _ _).andThen fun role =>
    (keeps_orFail _).andThen fun name => (keeps_orFail _).andThen fun description =>
      (keeps_orFail _).andThen fun isDefault => ?_
  have saving (permissions : Option (List String)) : Undone catalog fixed base (do
      let slug ← newSlug organization role changes
      let updated : Role :=
        { role with
          name := name.getD role.name
          slug := slug.getD role.slug
          permissions := permissions.getD role.permissions
          isDefault := (isDefault.map Value.bool).getD role.isDefault
          description := (description.map Value.ofOption).getD role.description }
      save updated
      noteChange ("Role updated: " ++ id.text ++ " fields=" ++
        Cleaning.changedNames
          (changeable.map fun field => (field, (changes.lookup field).isSome)))
        organization actor
      return updated : Service Role) :=
    (keeps_newSlug ofUnplanned _ _ _).andThen fun slug =>
      (undone_save _).followed (keeps_save (lasting_orderly.saveRole _)) fun _ =>
        succeeds_noted isWritten _ _ _
  dsimp only
  split
  · exact (keeps_pure _).andThen saving
  · exact ((keeps_permissionsOf ofUnplanned _).map some).andThen saving

theorem undone_delete [Host] (organization id : Value) :
    Undone catalog fixed base (delete organization id actor) := by
  have ofUnplanned := (@System.ofStores_standing catalog fixed base).toOfUnplanned
  refine (keeps_find ofUnplanned _ _).andThen fun role =>
    (ofUnplanned.countHolders _).andThen fun holders => ?_
  split
  · exact (keeps_orFail _).undone
  · exact (keeps_throw _).undone
  · exact (undone_deleteRole _).followed (ofPolicies_orderly.deleteRole _) fun _ =>
      succeeds_noteChange isWritten _ _

theorem undone_assign [Host] (organization user id : Value) :
    Undone catalog fixed base (assign organization user id actor) := by
  have ofUnplanned := (@System.ofStores_standing catalog fixed base).toOfUnplanned
  refine (keeps_orFail _).andThen fun user => (keeps_find ofUnplanned _ _).andThen fun role =>
    (Service.undone_assign _ _).followed (ofPolicies_orderly.assign _ _) fun changed => ?_
  exact .guarded (succeeds_noted isWritten _ _ _) (succeeds_pure _)

theorem undone_revoke [Host] (organization user id : Value) :
    Undone catalog fixed base (revoke organization user id actor) := by
  have ofUnplanned := (@System.ofStores_standing catalog fixed base).toOfUnplanned
  refine (keeps_orFail _).andThen fun user => (keeps_find ofUnplanned _ _).andThen fun role =>
    (Service.undone_revoke _ _).followed (ofPolicies_orderly.revoke _ _) fun changed => ?_
  exact .guarded (succeeds_noted isWritten _ _ _) (succeeds_pure _)

end

end RoleAdministration

/-! ## Policies -/

namespace PolicyAdministration

theorem undone_save [Host] (policy : Policy) : Undone catalog fixed base (save policy) :=
  (undone_savePolicy policy).handled (keeps_savePolicy policy)
    (fun _ => .ite (keeps_throw _) (keeps_throw _)) fun _ => succeeds_pure _

section

variable {actor : Value} {written : String} (isWritten : actor.toText = .ok written)

include isWritten

theorem undone_create [Host] (organization name key description active : Value) :
    Undone catalog fixed base (create organization name key description active actor) := by
  have ofStores := @System.ofStores_standing catalog fixed base
  refine (keeps_orFail _).andThen fun organization => (keeps_orFail _).andThen fun name =>
    (keeps_orFail _).andThen fun key => (keeps_orFail _).andThen fun description =>
      (keeps_orFail _).andThen fun active => (ofStores.policyByKey? _ _).andThen fun other =>
        .guarded (keeps_throw _) fun _ => ofStores.newId.andThen fun id => ?_
  exact (undone_save _).followed (keeps_save (keeps_savePolicy _)) fun _ =>
    succeeds_noted isWritten _ _ _

theorem undone_update [Host] (organization id : Value) (changes : Bindings) :
    Undone catalog fixed base (update organization id actor changes) := by
  have ofStores := @System.ofStores_standing catalog fixed base
  refine (keeps_orFail _).andThen fun _ => (keeps_find ofStores _ _).andThen fun policy =>
    (keeps_orFail _).andThen fun name => (keeps_orFail _).andThen fun description =>
      (keeps_orFail _).andThen fun active => (keeps_newKey ofStores _ _ _).andThen fun key => ?_
  exact (undone_save _).followed (keeps_save (keeps_savePolicy _)) fun _ =>
    succeeds_noted isWritten _ _ _

theorem undone_delete [Host] (organization id : Value) :
    Undone catalog fixed base (delete organization id actor) := by
  have ofStores := @System.ofStores_standing catalog fixed base
  refine (keeps_find ofStores _ _).andThen fun policy =>
    (ofStores.countRules _).andThen fun count => (keeps_orFail _).andThen fun positive =>
      .guarded (keeps_throw _) fun _ => ?_
  exact (undone_deletePolicy _).handled (keeps_deletePolicy _)
    (fun _ => .ite (keeps_throw _) (keeps_throw _)) fun _ => succeeds_noteChange isWritten _ _

/-! ## Rules -/

theorem undone_addRule [Host] (organization policyId name type config order active description : Value) :
    Undone catalog fixed base
      (addRule organization policyId name type config order active description actor) := by
  have ofStores := @System.ofStores_standing catalog fixed base
  refine (keeps_find ofStores _ _).andThen fun policy => (keeps_orFail _).andThen fun name =>
    (keeps_orFail _).andThen fun type => (keeps_orFail _).andThen fun config =>
      (keeps_orFail _).andThen fun active => (keeps_orFail _).andThen fun description =>
        (keeps_tryRule _ _).andThen fun _ => ?_
  have saving (order : Int) : Undone catalog fixed base (do
      let rule : PolicyRule :=
        { id := ← newId, policyId := policy.id, name, type, order
          config := PolicyRule.sealedConfig config
          active := .bool active, description := Value.ofOption description }
      let _ ← saveRules (pure [rule])
      noteChange ("Rule added: " ++ rule.id ++ " type=" ++ type ++ " policy=" ++ policy.id)
        organization actor
      return rule : Service PolicyRule) :=
    ofStores.newId.andThen fun _ => (undone_saveRules (keeps_pure _)).followed
      (keeps_saveRules (keeps_pure _)) fun _ => succeeds_noted isWritten _ _ _
  dsimp only
  split
  · exact ((ofStores.rulesOfPolicy _).map nextOrder).andThen saving
  · exact (keeps_orFail _).andThen saving

theorem undone_updateRule [Host] (organization policyId id : Value) (changes : Bindings) :
    Undone catalog fixed base (updateRule organization policyId id actor changes) := by
  have ofStores := @System.ofStores_standing catalog fixed base
  refine (keeps_orFail _).andThen fun _ => (keeps_findRule ofStores _ _ _).andThen fun rule =>
    (keeps_orFail _).andThen fun name => (keeps_orFail _).andThen fun type =>
      (keeps_orFail _).andThen fun config => (keeps_orFail _).andThen fun order =>
        (keeps_orFail _).andThen fun active => (keeps_orFail _).andThen fun description =>
          .guarded (keeps_tryRule _ _) fun _ => ?_
  exact (undone_saveRules (keeps_pure _)).followed (keeps_saveRules (keeps_pure _)) fun _ =>
    succeeds_noted isWritten _ _ _

theorem undone_deleteRule [Host] (organization policyId id : Value) :
    Undone catalog fixed base (deleteRule organization policyId id actor) := by
  have ofStores := @System.ofStores_standing catalog fixed base
  refine (keeps_findRule ofStores _ _ _).andThen fun rule => ?_
  exact (Service.undone_deleteRule _).followed (Service.keeps_deleteRule _) fun _ =>
    succeeds_noteChange isWritten _ _

theorem undone_reorder [Host] (organization policyId orders : Value) :
    Undone catalog fixed base (reorder organization policyId orders actor) := by
  have ofStores := @System.ofStores_standing catalog fixed base
  refine (keeps_find ofStores _ _).andThen fun policy => ?_
  split
  · exact (keeps_throw _).undone
  · refine (ofStores.rulesOfPolicy _).andThen fun rules => (keeps_orFail _).andThen fun updated =>
      (undone_saveRules (keeps_pure _)).followed (keeps_saveRules (keeps_pure _)) fun _ => ?_
    exact (succeeds_noteChange isWritten _ _).bind
      (keeps_noteChange System.ofStores_orderly.toOfUnplanned _ _ _)
      fun _ => succeeds_rulesOfPolicy policy.id

end

end PolicyAdministration

end Authorization
