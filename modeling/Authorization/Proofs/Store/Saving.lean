import Authorization.Proofs.Store.Administered
import Authorization.Proofs.Store.Numbering

/-!
# What keeps a record from being saved

A policy or a role is saved unless another one of the organization has its key or its slug, or tables
cannot hold it: what should identify it is no universally unique identifier, or half of a pair stands
alone in one of its texts. Either is a value error, and nothing else goes wrong with a record whose fields
are of the kinds of their columns. The records that a store holds are of these kinds: the store would keep
them as they are.
-/

namespace Authorization

theorem Text.ne_of_whole {whole text : String} (isWhole : holdsHalf whole = false)
    (isHalf : holdsHalf text = true) : text ≠ whole := by
  rintro rfl
  rw [isWhole] at isHalf
  cases isHalf

/-! ## Columns -/

namespace Column

/-- Texts may be written together. -/
theorem encoded_append (values more : List Value) :
    (do encoded values; encoded more) = encoded (values ++ more) := by
  unfold encoded
  rw [List.any_append]
  cases values.any fun value => value.asStr?.any Text.holdsHalf <;> rfl

section

variable {α : Type} {record : α} {values : List Value}

/-- Texts that cannot be written are a value error. -/
theorem isValueError_of_encoded {error : Error}
    (fails : (encoded values).map (fun _ => record) = .error error) : error.isValueError = true := by
  unfold encoded at fails
  split at fails
  · cases fails
    rfl
  · cases fails

theorem encoded_fails_iff :
    (∃ error, (encoded values).map (fun _ => record) = .error error) ↔
      ∃ text, Value.str text ∈ values ∧ Text.holdsHalf text = true := by
  have isOk := @encoded_eq_ok_iff values
  cases result : encoded values with
  | ok done =>
      have whole := isOk.1 result
      refine ⟨fun ⟨error, fails⟩ => (nomatch fails), fun ⟨text, member, isHalf⟩ => ?_⟩
      rw [whole text member] at isHalf
      cases isHalf
  | error error =>
      refine ⟨fun _ => ?_, fun _ => ⟨error, rfl⟩⟩
      by_contra noHalf
      have whole := isOk.2 fun text member =>
        Bool.eq_false_iff.2 fun isHalf => noHalf ⟨text, member, isHalf⟩
      rw [whole] at result
      cases result

end

end Column

/-- Tables do not take a record of an organization: what should identify it is no universally unique
identifier, or half of a pair stands alone in one of its texts. Tables cannot even be asked for an
organization whose name could not be written. -/
structure Backend.Refuses (backend : Backend) (organization id : String) (texts : List Value) :
    Prop where
  isTables : backend = .tables
  askable : Text.holdsHalf organization = false
  unfit : Text.Uuid.canonical? id = none ∨
    ∃ text, Value.str text ∈ texts ∧ Text.holdsHalf text = true

theorem Backend.identifier_eq_none_iff {backend : Backend} {id : String} :
    backend.identifier (.str id) = .ok none ↔
      backend = .tables ∧ Text.Uuid.canonical? id = none := by
  rw [Backend.identifier_str, Except.ok.injEq]
  cases backend with
  | memory => exact ⟨nofun, fun ⟨isTables, _⟩ => nomatch isTables⟩
  | tables => exact ⟨fun isNone => ⟨rfl, isNone⟩, And.right⟩

/-- A record of an organization that tables can be asked for is not saved where it cannot be identified,
clashes or cannot be written: it clashes, or tables refuse it. -/
theorem Backend.unsaved_iff {backend : Backend} {organization id : String} {texts : List Value}
    {clashes : String → Prop}
    (askable : backend = .tables → Text.holdsHalf organization = false) :
    (backend.identifier (.str id) = .ok none ∨
      ∃ known, backend.identifier (.str id) = .ok (some known) ∧ (clashes known ∨
        backend = .tables ∧ ∃ text, Value.str text ∈ texts ∧ Text.holdsHalf text = true)) ↔
      (∃ known, backend.identifier (.str id) = .ok (some known) ∧ clashes known) ∨
        backend.Refuses organization id texts := by
  constructor
  · rintro (unidentified | ⟨known, isKnown, clash | ⟨isTables, isHalf⟩⟩)
    · obtain ⟨isTables, notUuid⟩ := Backend.identifier_eq_none_iff.1 unidentified
      exact .inr ⟨isTables, askable isTables, .inl notUuid⟩
    · exact .inl ⟨known, isKnown, clash⟩
    · exact .inr ⟨isTables, askable isTables, .inr isHalf⟩
  · rintro (⟨known, isKnown, clash⟩ | ⟨isTables, _, unfit⟩)
    · exact .inr ⟨known, isKnown, .inl clash⟩
    · have identified := backend.identifier_eq_named? id
      cases named : backend.named? id with
      | none =>
          rw [named] at identified
          exact .inl identified
      | some known =>
          rw [named] at identified
          rw [isTables] at named
          have isHalf := unfit.resolve_left fun notUuid => nomatch notUuid.symm.trans named
          exact .inr ⟨known, identified, .inr ⟨isTables, isHalf⟩⟩

/-- How a record is saved: it is identified, must not clash with another one, and is kept. -/
def saving {α β : Type} (identified : Except Error String) (clashes : String → Bool)
    (taken : Inadmissible) (keep : String → Except Error α) (write : String → α → β) :
    Except Error β := do
  let id ← identified
  if clashes id then throw (.inadmissible taken)
  return write id (← keep id)

section Saving

variable {α β : Type} {identified : Except Error String} {clashes : String → Bool}
  {taken : Inadmissible} {keep : String → Except Error α} {write : String → α → β}

theorem saving_of_identified {id : String} (isIdentified : identified = .ok id) :
    saving identified clashes taken keep write =
      if clashes id then .error (.inadmissible taken) else (keep id).map (write id) := by
  rw [isIdentified, saving, Except.ok_bind]
  dsimp only
  split
  · rfl
  · cases keep id <;> rfl

/-- A record is saved unless it cannot be identified, clashes or cannot be kept. -/
theorem saving_fails_iff :
    (∃ error, saving identified clashes taken keep write = .error error) ↔
      (∃ error, identified = .error error) ∨
        ∃ id, identified = .ok id ∧ (clashes id = true ∨ ∃ error, keep id = .error error) := by
  cases isIdentified : identified with
  | error error => exact ⟨fun _ => .inl ⟨error, rfl⟩, fun _ => ⟨error, rfl⟩⟩
  | ok id =>
      rw [saving_of_identified rfl]
      simp only [reduceCtorEq, exists_false, false_or, Except.ok.injEq, exists_eq_left']
      cases clashes id with
      | true => simp
      | false => cases keep id <;> simp [Except.map]

/-- Saving a record fails with value errors only when identifying and keeping do. -/
theorem isValueError_of_saving {error : Error}
    (ofIdentified : identified = .error error → error.isValueError = true)
    (ofKeep : ∀ id, keep id = .error error → error.isValueError = true)
    (fails : saving identified clashes taken keep write = .error error) :
    error.isValueError = true := by
  cases isIdentified : identified with
  | error failure =>
      rw [isIdentified] at fails ofIdentified
      cases fails
      exact ofIdentified rfl
  | ok id =>
      rw [saving_of_identified isIdentified] at fails
      split at fails
      · cases fails
        rfl
      · cases isKept : keep id with
        | ok kept =>
            rw [isKept] at fails
            cases fails
        | error failure =>
            rw [isKept] at fails
            cases fails
            exact ofKeep id isKept

end Saving

/-! ## Policies -/

/-- The description and the flag of a policy are of the kinds of their columns. -/
structure Policy.Fits (policy : Policy) : Prop where
  isText : Column.text policy.description = .ok policy.description
  isFlag : ∃ flag, policy.active = .bool flag

namespace PolicyStore

variable {store next : PolicyStore} {policy kept : Policy}

theorem kept_of_fits (isTables : store.backend = .tables) (fits : policy.Fits) :
    store.kept policy = (Column.encoded [.str policy.organization, .str policy.key, .str policy.name,
      policy.description]).map fun _ => policy := by
  obtain ⟨flag, isFlag⟩ := fits.isFlag
  cases isWhole : Column.encoded [.str policy.organization, .str policy.key, .str policy.name,
      policy.description] with
  | ok done => exact store.kept_eq_self fits.isText isWhole isFlag
  | error error =>
      unfold PolicyStore.kept
      rw [isTables]
      dsimp only
      rw [fits.isText, Except.ok_bind, isFlag, Column.flag_bool, Except.ok_bind, isWhole,
        Except.error_bind]
      rfl

theorem isValueError_of_kept (fits : store.backend = .tables → policy.Fits) {error : Error}
    (fails : store.kept policy = .error error) : error.isValueError = true := by
  cases backend : store.backend with
  | memory =>
      unfold PolicyStore.kept at fails
      rw [backend] at fails
      cases fails
  | tables =>
      rw [kept_of_fits backend (fits backend)] at fails
      exact Column.isValueError_of_encoded fails

theorem kept_fails_iff (fits : store.backend = .tables → policy.Fits) :
    (∃ error, store.kept policy = .error error) ↔ store.backend = .tables ∧
      ∃ text, Value.str text ∈ [Value.str policy.organization, .str policy.key, .str policy.name,
        policy.description] ∧ Text.holdsHalf text = true := by
  cases backend : store.backend with
  | memory =>
      unfold PolicyStore.kept
      rw [backend]
      exact ⟨fun ⟨error, fails⟩ => (nomatch fails), fun ⟨isTables, _⟩ => (nomatch isTables)⟩
  | tables =>
      rw [kept_of_fits backend (fits backend), Column.encoded_fails_iff]
      exact (and_iff_right rfl).symm

/-- What tables keep of a policy is of the kinds of their columns, and can be written. -/
theorem fits_of_kept (isTables : store.backend = .tables) (isKept : store.kept policy = .ok kept) :
    kept.Fits ∧ Column.encoded [.str kept.organization, .str kept.key, .str kept.name,
      kept.description] = .ok () := by
  unfold PolicyStore.kept at isKept
  rw [isTables] at isKept
  obtain ⟨description, isText, isKept⟩ := Except.bind_eq_ok_iff.1 isKept
  obtain ⟨held, isHeld, isKept⟩ := Except.bind_eq_ok_iff.1 isKept
  obtain ⟨⟨⟩, isWhole, isKept⟩ := Except.bind_eq_ok_iff.1 isKept
  obtain ⟨active, isThere, isKept⟩ := Except.bind_eq_ok_iff.1 isKept
  cases isKept
  exact ⟨⟨Column.text_idempotent isText, Column.exists_bool_of_required isHeld isThere⟩, isWhole⟩

theorem kept_of_kept (isKept : store.kept policy = .ok kept) : store.kept kept = .ok kept := by
  cases backend : store.backend with
  | memory =>
      unfold PolicyStore.kept
      rw [backend]
  | tables =>
      obtain ⟨fits, isWhole⟩ := fits_of_kept backend isKept
      rw [kept_of_fits backend fits, isWhole]
      rfl

/-- A store keeps the policies that it holds as they are. -/
def Faithful (store : PolicyStore) : Prop :=
  ∀ policy ∈ store.policies.values, store.kept policy = .ok policy

/-- A store with the same backend and no other policies than a faithful one. -/
theorem Faithful.of_subset (faithful : store.Faithful) (sameBackend : next.backend = store.backend)
    (subset : ∀ policy ∈ next.policies.values, policy ∈ store.policies.values) : next.Faithful := by
  intro policy member
  have isKept := faithful policy (subset policy member)
  unfold PolicyStore.kept at isKept ⊢
  rwa [sameBackend]

theorem Faithful.saveRule (faithful : store.Faithful) {rule : PolicyRule}
    (saved : store.saveRule rule = .ok next) : next.Faithful := by
  obtain ⟨_, _, _, _, _, rfl⟩ := saveRule_eq_ok saved
  exact faithful.of_subset rfl fun _ member => member

/-- Every operation leaves a store faithful. -/
theorem Faithful.step (faithful : store.Faithful) (sound : store.Sound) (step : store.Step next) :
    next.Faithful := by
  cases step with
  | savePolicy saved =>
      obtain ⟨kept, _, ⟨id, isKept⟩, _, _, _, _, rfl⟩ := savePolicy_eq_ok saved
      intro policy member
      rcases sound.policies.mem_values_put.1 member with rfl | ⟨old, _⟩
      · exact kept_of_kept isKept
      · exact faithful policy old
  | deletePolicy deleted =>
      rcases deletePolicy_eq_ok deleted with ⟨_, rfl, _⟩ | ⟨known, _, _, rfl, _⟩
      · exact faithful
      · exact faithful.of_subset rfl fun _ member => (sound.policies.mem_values_erase.1 member).1
  | saveRules saved =>
      rw [saveRules_eq_foldlM] at saved
      exact foldlM_keeps (fun faithful stepped => Faithful.saveRule faithful stepped) faithful saved
  | saveRuleValues saved =>
      refine foldlM_keeps (fun faithful stepped => ?_) faithful saved
      obtain ⟨rule, _, stepped⟩ := Except.bind_eq_ok_iff.1 stepped
      exact Faithful.saveRule faithful stepped
  | deleteRule deleted =>
      rcases deleteRule_eq_ok deleted with ⟨_, rfl, _⟩ | ⟨known, _, rfl, _⟩
      · exact faithful
      · exact faithful.of_subset rfl fun _ member => member

/-- The organization and the key of a policy that tables hold can be written, and its fields are of the
kinds of their columns. -/
theorem Faithful.fits (faithful : store.Faithful) (member : policy ∈ store.policies.values)
    (isTables : store.backend = .tables) :
    policy.Fits ∧ Text.holdsHalf policy.organization = false ∧ Text.holdsHalf policy.key = false := by
  obtain ⟨fits, isWhole⟩ := fits_of_kept isTables (faithful policy member)
  have areWhole := Column.encoded_eq_ok_iff.1 isWhole
  exact ⟨fits, areWhole _ (.head _), areWhole _ (.tail _ (.head _))⟩

theorem savePolicy_eq (store : PolicyStore) (policy : Policy) :
    store.savePolicy policy = saving (store.policyIdentifier policy.id)
      (fun id => store.hasClash { policy with id })
      (.policyKeyTaken policy.key policy.organization) (fun id => store.kept { policy with id })
      fun id kept => { store with policies := Keyed.put id kept store.policies } :=
  rfl

theorem policyIdentifier_fails_iff {id : String} :
    (∃ error, store.policyIdentifier id = .error error) ↔
      store.backend.identifier (.str id) = .ok none := by
  unfold PolicyStore.policyIdentifier
  rw [store.backend.identifier_eq_named? id]
  cases store.backend.named? id with
  | none => exact ⟨fun _ => rfl, fun _ => ⟨_, rfl⟩⟩
  | some known => exact ⟨fun ⟨error, fails⟩ => (nomatch fails), fun isNone => (nomatch isNone)⟩

/-- Saving a policy whose fields are of the kinds of their columns fails with value errors only. -/
theorem isValueError_of_savePolicy (fits : store.backend = .tables → policy.Fits) {error : Error}
    (fails : store.savePolicy policy = .error error) : error.isValueError = true := by
  rw [savePolicy_eq] at fails
  refine isValueError_of_saving (fun unidentified => ?_) (fun id => isValueError_of_kept ?_) fails
  · unfold PolicyStore.policyIdentifier at unidentified
    rw [store.backend.identifier_eq_named? policy.id] at unidentified
    cases named : store.backend.named? policy.id <;> rw [named] at unidentified <;>
      cases unidentified
    rfl
  · exact fun isTables => ⟨(fits isTables).isText, (fits isTables).isFlag⟩

/-- A policy with an organization and a key that can be written is saved unless another one has the key or
tables refuse it. -/
theorem savePolicy_fails_iff (fits : store.backend = .tables → policy.Fits)
    (keyWhole : store.backend = .tables → Text.holdsHalf policy.key = false)
    (askable : store.backend = .tables → Text.holdsHalf policy.organization = false) :
    (∃ error, store.savePolicy policy = .error error) ↔
      (∃ id, store.backend.identifier (.str policy.id) = .ok (some id) ∧
        store.hasClash { policy with id } = true) ∨
      store.backend.Refuses policy.organization policy.id [.str policy.name, policy.description] := by
  have keeping (id : String) : (∃ error, store.kept { policy with id } = .error error) ↔
      store.backend = .tables ∧ ∃ text, Value.str text ∈ [.str policy.name, policy.description] ∧
        Text.holdsHalf text = true := by
    have failing := @kept_fails_iff store { policy with id } fun isTables =>
      ⟨(fits isTables).isText, (fits isTables).isFlag⟩
    refine failing.trans (and_congr_right fun isTables => exists_congr fun text =>
      and_congr_left fun isHalf => ?_)
    have notOrganization : text ≠ policy.organization :=
      Text.ne_of_whole (askable isTables) isHalf
    have notKey : text ≠ policy.key := Text.ne_of_whole (keyWhole isTables) isHalf
    simp [notOrganization, notKey]
  rw [savePolicy_eq, saving_fails_iff, policyIdentifier_fails_iff]
  simp only [policyIdentifier_eq_ok_iff, keeping]
  exact Backend.unsaved_iff askable

end PolicyStore

/-! ## Roles -/

/-- The description and the flag of a role are of the kinds of their columns. -/
structure Role.Fits (role : Role) : Prop where
  isText : Column.text role.description = .ok role.description
  isFlag : ∃ flag, role.isDefault = .bool flag

namespace RoleStore

variable {store next : RoleStore} {role kept : Role}

theorem keptRole_of_fits (isTables : store.backend = .tables) (fits : role.Fits) :
    store.keptRole role = (Column.encoded ([.str role.organization, .str role.name, .str role.slug,
      role.description] ++ role.permissions.map .str)).map fun _ =>
        { role with permissions := role.permissions.filter store.permissions.has } := by
  obtain ⟨flag, isFlag⟩ := fits.isFlag
  unfold RoleStore.keptRole
  rw [isTables, ← Column.encoded_append]
  dsimp only
  rw [fits.isText, Except.ok_bind, isFlag, Column.flag_bool, Except.ok_bind, Column.required_bool]
  cases Column.encoded [.str role.organization, .str role.name, .str role.slug,
      role.description] with
  | error error => rfl
  | ok done => cases Column.encoded (role.permissions.map .str) <;> rfl

/-- What tables keep of a role is of the kinds of their columns, can be written, and has permissions of the
catalog only. -/
theorem fits_of_keptRole (isTables : store.backend = .tables)
    (isKept : store.keptRole role = .ok kept) :
    kept.Fits ∧ Column.encoded ([.str kept.organization, .str kept.name, .str kept.slug,
        kept.description] ++ kept.permissions.map .str) = .ok () ∧
      ∀ slug ∈ kept.permissions, store.permissions.has slug = true := by
  unfold RoleStore.keptRole at isKept
  rw [isTables] at isKept
  obtain ⟨description, isText, isKept⟩ := Except.bind_eq_ok_iff.1 isKept
  obtain ⟨held, isHeld, isKept⟩ := Except.bind_eq_ok_iff.1 isKept
  obtain ⟨⟨⟩, isWhole, isKept⟩ := Except.bind_eq_ok_iff.1 isKept
  obtain ⟨isDefault, isThere, isKept⟩ := Except.bind_eq_ok_iff.1 isKept
  obtain ⟨⟨⟩, areWhole, isKept⟩ := Except.bind_eq_ok_iff.1 isKept
  cases isKept
  refine ⟨⟨Column.text_idempotent isText, Column.exists_bool_of_required isHeld isThere⟩, ?_,
    fun slug member => (List.mem_filter.1 member).2⟩
  rw [← Column.encoded_append, isWhole, Except.ok_bind, Column.encoded_eq_ok_iff]
  intro text member
  obtain ⟨slug, isSlug, same⟩ := List.mem_map.1 member
  exact Column.encoded_eq_ok_iff.1 areWhole text
    (same ▸ List.mem_map_of_mem (List.mem_of_mem_filter isSlug))

/-- What a store keeps of a role, one with at least the same permissions would keep as it is. -/
theorem keptRole_of_keptRole (isKept : store.keptRole role = .ok kept)
    (sameBackend : next.backend = store.backend)
    (grows : ∀ slug, store.permissions.has slug = true → next.permissions.has slug = true) :
    next.keptRole kept = .ok kept := by
  cases backend : store.backend with
  | memory =>
      unfold RoleStore.keptRole
      rw [sameBackend, backend]
  | tables =>
      obtain ⟨fits, isWhole, granted⟩ := fits_of_keptRole backend isKept
      have all : kept.permissions.filter next.permissions.has = kept.permissions :=
        List.filter_eq_self.2 fun slug member => grows slug (granted slug member)
      rw [keptRole_of_fits (sameBackend.trans backend) fits, isWhole, all]
      rfl

/-- A store keeps the roles that it holds as they are. -/
def Faithful (store : RoleStore) : Prop :=
  ∀ role ∈ store.roles.values, store.keptRole role = .ok role

/-- A store with the same backend, at least the same permissions, and no other roles than a faithful
one. -/
theorem Faithful.of_subset (faithful : store.Faithful) (sameBackend : next.backend = store.backend)
    (grows : ∀ slug, store.permissions.has slug = true → next.permissions.has slug = true)
    (subset : ∀ role ∈ next.roles.values, role ∈ store.roles.values) : next.Faithful :=
  fun role member => keptRole_of_keptRole (faithful role (subset role member)) sameBackend grows

/-- Every operation leaves a store faithful. -/
theorem Faithful.step (faithful : store.Faithful) (sound : store.Sound) (step : store.Step next) :
    next.Faithful := by
  cases step with
  | addPermissions values =>
      obtain ⟨_, permissions, grown⟩ := sound.addPermissions values
      have grows := fun slug => @has_addPermissions store slug values
      rw [grown] at grows ⊢
      exact faithful.of_subset rfl grows fun _ member => member
  | saveRole saved =>
      obtain ⟨kept, _, isKept, _, _, _, rfl⟩ := saveRole_eq_ok saved
      intro role member
      rcases sound.roles.mem_values_put.1 member with rfl | ⟨old, _⟩
      · exact keptRole_of_keptRole isKept rfl fun _ isThere => isThere
      · exact keptRole_of_keptRole (faithful role old) rfl fun _ isThere => isThere
  | deleteRole deleted =>
      rcases deleteRole_eq_ok deleted with ⟨_, _, _, rfl, _⟩ | ⟨_, role, _, _, _, rfl, _⟩
      · exact faithful
      · exact faithful.of_subset rfl (fun _ isThere => isThere)
          fun _ member => (sound.roles.mem_values_erase.1 member).1
  | assign assigned =>
      rcases assign_eq_ok assigned with ⟨rfl, _⟩ | ⟨_, _, _, _, _, rfl, _⟩
      · exact faithful
      · exact faithful.of_subset rfl (fun _ isThere => isThere) fun _ member => member
  | revoke revoked =>
      rcases revoke_eq_ok revoked with ⟨rfl, _⟩ | ⟨_, _, _, _, _, rfl, _⟩
      · exact faithful
      · exact faithful.of_subset rfl (fun _ isThere => isThere) fun _ member => member

/-- The organization and the slug of a role that tables hold can be written, and its fields are of the
kinds of their columns. -/
theorem Faithful.fits (faithful : store.Faithful) (member : role ∈ store.roles.values)
    (isTables : store.backend = .tables) :
    role.Fits ∧ Text.holdsHalf role.organization = false ∧ Text.holdsHalf role.slug = false := by
  obtain ⟨fits, isWhole, _⟩ := fits_of_keptRole isTables (faithful role member)
  have areWhole := Column.encoded_eq_ok_iff.1 isWhole
  exact ⟨fits, areWhole _ (.head _), areWhole _ (.tail _ (.tail _ (.head _)))⟩

theorem isValueError_of_keptRole (fits : store.backend = .tables → role.Fits) {error : Error}
    (fails : store.keptRole role = .error error) : error.isValueError = true := by
  cases backend : store.backend with
  | memory =>
      unfold RoleStore.keptRole at fails
      rw [backend] at fails
      cases fails
  | tables =>
      rw [keptRole_of_fits backend (fits backend)] at fails
      exact Column.isValueError_of_encoded fails

theorem keptRole_fails_iff (fits : store.backend = .tables → role.Fits) :
    (∃ error, store.keptRole role = .error error) ↔ store.backend = .tables ∧
      ∃ text, Value.str text ∈ [Value.str role.organization, .str role.name, .str role.slug,
        role.description] ++ role.permissions.map .str ∧ Text.holdsHalf text = true := by
  cases backend : store.backend with
  | memory =>
      unfold RoleStore.keptRole
      rw [backend]
      exact ⟨fun ⟨error, fails⟩ => (nomatch fails), fun ⟨isTables, _⟩ => (nomatch isTables)⟩
  | tables =>
      rw [keptRole_of_fits backend (fits backend), Column.encoded_fails_iff]
      exact (and_iff_right rfl).symm

theorem saveRole_eq (store : RoleStore) (role : Role) :
    store.saveRole role = saving (store.roleIdentifier role.id)
      (fun id => store.hasClash { role with id })
      (.roleSlugTaken role.slug role.organization) (fun id => store.keptRole { role with id })
      fun id kept => { store with roles := Keyed.put id kept store.roles } :=
  rfl

theorem roleIdentifier_fails_iff {id : String} :
    (∃ error, store.roleIdentifier id = .error error) ↔
      store.backend.identifier (.str id) = .ok none := by
  unfold RoleStore.roleIdentifier
  rw [store.backend.identifier_eq_named? id]
  cases store.backend.named? id with
  | none => exact ⟨fun _ => rfl, fun _ => ⟨_, rfl⟩⟩
  | some known => exact ⟨fun ⟨error, fails⟩ => (nomatch fails), fun isNone => (nomatch isNone)⟩

/-- Saving a role whose fields are of the kinds of their columns fails with value errors only. -/
theorem isValueError_of_saveRole (fits : store.backend = .tables → role.Fits) {error : Error}
    (fails : store.saveRole role = .error error) : error.isValueError = true := by
  rw [saveRole_eq] at fails
  refine isValueError_of_saving (fun unidentified => ?_) (fun id => isValueError_of_keptRole ?_) fails
  · unfold RoleStore.roleIdentifier at unidentified
    rw [store.backend.identifier_eq_named? role.id] at unidentified
    cases named : store.backend.named? role.id <;> rw [named] at unidentified <;>
      cases unidentified
    rfl
  · exact fun isTables => ⟨(fits isTables).isText, (fits isTables).isFlag⟩

/-- A role with an organization and a slug that can be written is saved unless another one has the slug or
tables refuse it. -/
theorem saveRole_fails_iff (fits : store.backend = .tables → role.Fits)
    (slugWhole : store.backend = .tables → Text.holdsHalf role.slug = false)
    (askable : store.backend = .tables → Text.holdsHalf role.organization = false) :
    (∃ error, store.saveRole role = .error error) ↔
      (∃ id, store.backend.identifier (.str role.id) = .ok (some id) ∧
        store.hasClash { role with id } = true) ∨
      store.backend.Refuses role.organization role.id
        (.str role.name :: role.description :: role.permissions.map .str) := by
  have keeping (id : String) : (∃ error, store.keptRole { role with id } = .error error) ↔
      store.backend = .tables ∧
        ∃ text, Value.str text ∈ .str role.name :: role.description :: role.permissions.map .str ∧
          Text.holdsHalf text = true := by
    have failing := @keptRole_fails_iff store { role with id } fun isTables =>
      ⟨(fits isTables).isText, (fits isTables).isFlag⟩
    refine failing.trans (and_congr_right fun isTables => exists_congr fun text =>
      and_congr_left fun isHalf => ?_)
    have notOrganization : text ≠ role.organization :=
      Text.ne_of_whole (askable isTables) isHalf
    have notSlug : text ≠ role.slug := Text.ne_of_whole (slugWhole isTables) isHalf
    simp [notOrganization, notSlug]
  rw [saveRole_eq, saving_fails_iff, roleIdentifier_fails_iff]
  simp only [roleIdentifier_eq_ok_iff, keeping]
  exact Backend.unsaved_iff askable

end RoleStore

end Authorization
