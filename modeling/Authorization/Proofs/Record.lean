import Authorization.Proofs.Key
import Authorization.Proofs.Result
import Authorization.Proofs.Value
import Authorization.Record.Policy
import Authorization.Record.Role

/-!
# Which records can be made

A policy is made of fields whose key passes the check of keys, a role of fields whose slug passes the
check of slugs. With the other fields as they have to be, nothing else decides.
-/

namespace Authorization

variable {given : Bindings}

/-! ## Policies -/

namespace Policy

theorem keyOf_eq_ok_iff {value : Value} {key : String} :
    keyOf value = .ok key ↔ value = .str key ∧ Key.isPolicyKey key = true := by
  cases value with
  | str text =>
      by_cases isKey : Key.isPolicyKey text = true
      · rw [keyOf, if_pos isKey, Except.ok.injEq, Value.str.injEq]
        exact ⟨fun same => ⟨same, same ▸ isKey⟩, And.left⟩
      · rw [keyOf, if_neg isKey, Value.str.injEq]
        exact iff_of_false nofun fun ⟨same, isGood⟩ => isKey (same ▸ isGood)
  | _ => simp [keyOf]

/-- A policy that has been made has the key that is given for it, and the key has passed the check. -/
theorem key_of_ofBindings {policy : Policy} (isMade : ofBindings given = .ok policy) :
    given.value "key" = .str policy.key ∧ Key.isPolicyKey policy.key = true := by
  obtain ⟨id, _, isMade⟩ := Except.bind_eq_ok_iff.1 isMade
  obtain ⟨key, isKey, isMade⟩ := Except.bind_eq_ok_iff.1 isMade
  obtain ⟨name, _, isMade⟩ := Except.bind_eq_ok_iff.1 isMade
  obtain ⟨organization, _, isMade⟩ := Except.bind_eq_ok_iff.1 isMade
  cases isMade
  exact keyOf_eq_ok_iff.1 isKey

/-- Fields from which a policy is made as soon as their key passes the check. -/
structure Fit (given : Bindings) : Prop where
  id : ∃ id ≠ "", given.value "policy_id" = .str id
  name : ∃ name ≠ "", given.value "name" = .str name
  organization : ∃ organization ≠ "", given.value "organization_id" = .str organization

end Policy

theorem Value.exists_nonEmptyText {value : Value} (isThere : ∃ text ≠ "", value = .str text)
    (field : String) : ∃ text, value.nonEmptyText field = .ok text := by
  obtain ⟨text, nonEmpty, isText⟩ := isThere
  exact ⟨text, Value.nonEmptyText_eq_ok_iff.2 ⟨isText, String.isEmpty_eq_false_iff.2 nonEmpty⟩⟩

namespace Policy

/-- The check of the key decides about a policy whose other fields are as they have to be. -/
theorem exists_ofBindings_iff (fit : Fit given) {key : String}
    (isGiven : given.value "key" = .str key) :
    (∃ policy, ofBindings given = .ok policy) ↔ Key.isPolicyKey key = true := by
  constructor
  · rintro ⟨policy, isMade⟩
    obtain ⟨same, isKey⟩ := key_of_ofBindings isMade
    rw [isGiven] at same
    rw [Value.str.inj same]
    exact isKey
  · intro isKey
    obtain ⟨id, isId⟩ := Value.exists_nonEmptyText fit.id "policy_id"
    obtain ⟨name, isName⟩ := Value.exists_nonEmptyText fit.name "name"
    obtain ⟨organization, isOrganization⟩ :=
      Value.exists_nonEmptyText fit.organization "organization_id"
    unfold ofBindings
    rw [isId, keyOf_eq_ok_iff.2 ⟨isGiven, isKey⟩, isName, isOrganization]
    exact ⟨_, rfl⟩

end Policy

/-! ## Roles -/

namespace Role

theorem slugOf_eq_ok_iff {value : Value} {slug : String} :
    slugOf value = .ok slug ↔ value = .str slug ∧ Key.isSlug slug = true := by
  cases value with
  | str text =>
      by_cases isSlug : Key.isSlug text = true
      · rw [slugOf, if_pos isSlug, Except.ok.injEq, Value.str.injEq]
        exact ⟨fun same => ⟨same, same ▸ isSlug⟩, And.left⟩
      · rw [slugOf, if_neg isSlug, Value.str.injEq]
        exact iff_of_false nofun fun ⟨same, isGood⟩ => isSlug (same ▸ isGood)
  | _ => simp [slugOf]

/-- A role that has been made has the slug that is given for it, and the slug has passed the check. -/
theorem slug_of_ofBindings {role : Role} (isMade : ofBindings given = .ok role) :
    given.value "slug" = .str role.slug ∧ Key.isSlug role.slug = true := by
  obtain ⟨id, _, isMade⟩ := Except.bind_eq_ok_iff.1 isMade
  obtain ⟨name, _, isMade⟩ := Except.bind_eq_ok_iff.1 isMade
  obtain ⟨slug, isSlug, isMade⟩ := Except.bind_eq_ok_iff.1 isMade
  obtain ⟨organization, _, isMade⟩ := Except.bind_eq_ok_iff.1 isMade
  obtain ⟨members, _, isMade⟩ := Except.bind_eq_ok_iff.1 isMade
  obtain ⟨permissions, _, isMade⟩ := Except.bind_eq_ok_iff.1 isMade
  cases isMade
  exact slugOf_eq_ok_iff.1 isSlug

/-- Fields from which a role is made as soon as their slug passes the check. -/
structure Fit (given : Bindings) : Prop where
  id : ∃ id ≠ "", given.value "role_id" = .str id
  name : ∃ name ≠ "", given.value "name" = .str name
  organization : ∃ organization ≠ "", given.value "organization_id" = .str organization
  permissions : ∃ members texts, (given.value "permissions").toMembers = .ok members ∧
    permissionTexts members = .ok texts

/-- The check of the slug decides about a role whose other fields are as they have to be. -/
theorem exists_ofBindings_iff (fit : Fit given) {slug : String}
    (isGiven : given.value "slug" = .str slug) :
    (∃ role, ofBindings given = .ok role) ↔ Key.isSlug slug = true := by
  constructor
  · rintro ⟨role, isMade⟩
    obtain ⟨same, isSlug⟩ := slug_of_ofBindings isMade
    rw [isGiven] at same
    rw [Value.str.inj same]
    exact isSlug
  · intro isSlug
    obtain ⟨id, isId⟩ := Value.exists_nonEmptyText fit.id "role_id"
    obtain ⟨name, isName⟩ := Value.exists_nonEmptyText fit.name "name"
    obtain ⟨organization, isOrganization⟩ :=
      Value.exists_nonEmptyText fit.organization "organization_id"
    obtain ⟨members, texts, areMembers, areTexts⟩ := fit.permissions
    unfold ofBindings
    rw [isId, isName, slugOf_eq_ok_iff.2 ⟨isGiven, isSlug⟩, isOrganization, areMembers]
    simp only [Except.ok_bind, areTexts]
    exact ⟨_, rfl⟩

end Role

/-! ## Permissions -/

/-- A permission that has been made has the key of its resource and its action as its slug. -/
theorem Permission.slug_of_ofBindings {permission : Permission}
    (isMade : ofBindings given = .ok permission) :
    permission.slug = Key.join permission.resource permission.action := by
  obtain ⟨resource, _, isMade⟩ := Except.bind_eq_ok_iff.1 isMade
  obtain ⟨action, _, isMade⟩ := Except.bind_eq_ok_iff.1 isMade
  dsimp only at isMade
  split at isMade
  · obtain ⟨text, _, isMade⟩ := Except.bind_eq_ok_iff.1 isMade
    cases isMade
  · cases isMade
    rfl

end Authorization
