import Authorization.Proofs.Store.Policy
import Authorization.Proofs.Store.Role
import Authorization.Proofs.System.Storing

/-!
# Slugs of roles

Where no two roles of an organization have one slug, no operation gives a role the slug of another one.
Then it makes no difference in which order the roles came into the store when one is looked for by its
slug.
-/

namespace Authorization.RoleStore

/-- No two roles of an organization have one slug. -/
def SlugsApart (store : RoleStore) : Prop :=
  ∀ role ∈ store.roles.values, ∀ other ∈ store.roles.values,
    role.slug = other.slug → role.organization = other.organization → role = other

variable {store next : RoleStore}

theorem SlugsApart.of_subset (apart : store.SlugsApart)
    (subset : ∀ role ∈ next.roles.values, role ∈ store.roles.values) : next.SlugsApart :=
  fun role member other otherMember sameSlug sameOrganization =>
    apart role (subset role member) other (subset other otherMember) sameSlug sameOrganization

/-- A role that clashes with no other one may be put in. -/
theorem SlugsApart.put (apart : store.SlugsApart) (sound : store.Sound) {kept : Role}
    (noClash : store.hasClash kept = false) :
    SlugsApart { store with roles := Keyed.put kept.id kept store.roles } := by
  have free : ∀ other ∈ store.roles.values, other.id ≠ kept.id → other.slug = kept.slug →
      other.organization ≠ kept.organization := by
    intro other member otherId sameSlug sameOrganization
    have clash := hasClash_iff.2 ⟨other, member, otherId, sameSlug, sameOrganization⟩
    rw [noClash] at clash
    cases clash
  intro role member other otherMember sameSlug sameOrganization
  rcases sound.roles.mem_values_put.1 member with isKept | ⟨old, roleId⟩
  · rcases sound.roles.mem_values_put.1 otherMember with otherIsKept | ⟨otherOld, otherId⟩
    · rw [isKept, otherIsKept]
    · rw [isKept] at sameSlug sameOrganization
      exact absurd sameOrganization.symm (free other otherOld otherId sameSlug.symm)
  · rcases sound.roles.mem_values_put.1 otherMember with otherIsKept | ⟨otherOld, otherId⟩
    · rw [otherIsKept] at sameSlug sameOrganization
      exact absurd sameOrganization (free role old roleId sameSlug)
    · exact apart role old other otherOld sameSlug sameOrganization

/-- Every operation keeps slugs apart. -/
theorem SlugsApart.step (apart : store.SlugsApart) (sound : store.Sound) (step : store.Step next) :
    next.SlugsApart := by
  cases step with
  | addPermissions values =>
      obtain ⟨permissions, grown⟩ := (sound.addPermissions values).2
      rw [grown]
      exact apart
  | saveRole saved =>
      obtain ⟨kept, _, _, _, _, noClash, grown⟩ := saveRole_eq_ok saved
      rw [grown]
      exact apart.put sound noClash
  | deleteRole deleted =>
      rcases deleteRole_eq_ok deleted with ⟨_, _, _, same, _⟩ | ⟨_, role, _, _, _, shrunk, _⟩
      · rw [same]
        exact apart
      · rw [shrunk]
        exact apart.of_subset fun other member => (sound.roles.mem_values_erase.1 member).1
  | assign assigned =>
      rcases assign_eq_ok assigned with ⟨same, _⟩ | ⟨_, _, _, _, _, grown, _⟩
      · rw [same]
        exact apart
      · rw [grown]
        exact apart
  | revoke revoked =>
      rcases revoke_eq_ok revoked with ⟨same, _⟩ | ⟨_, _, _, _, _, shrunk, _⟩
      · rw [same]
        exact apart
      · rw [shrunk]
        exact apart

/-! ## Looking for a slug -/

theorem SlugsApart.roleBySlug?_eq_some_iff (apart : store.SlugsApart) {slug organization : Value}
    {role : Role} : store.roleBySlug? slug organization = some role ↔
      role ∈ store.roles.values ∧ store.backend.matchesText role.slug slug = true ∧
        store.backend.matchesText role.organization organization = true := by
  unfold RoleStore.roleBySlug?
  constructor
  · intro found
    have isWanted := List.find?_some found
    rw [Bool.and_eq_true] at isWanted
    exact ⟨List.mem_of_find?_eq_some found, isWanted⟩
  · rintro ⟨member, isWanted⟩
    have isThere : (store.roles.values.find? fun other =>
        store.backend.matchesText other.slug slug &&
          store.backend.matchesText other.organization organization).isSome = true := by
      rw [List.find?_isSome]
      exact ⟨role, member, (Bool.and_eq_true _ _).mpr isWanted⟩
    obtain ⟨other, found⟩ := Option.isSome_iff_exists.1 isThere
    have otherIsWanted := List.find?_some found
    rw [Bool.and_eq_true] at otherIsWanted
    have sameSlug := Backend.matchesText_unique otherIsWanted.1 isWanted.1
    have sameOrganization := Backend.matchesText_unique otherIsWanted.2 isWanted.2
    rw [found, apart other (List.mem_of_find?_eq_some found) role member sameSlug sameOrganization]

/-- The order of the entries makes no difference to which role is found. -/
theorem SlugsApart.roleBySlug?_eq_of_perm (apart : store.SlugsApart) {entries : Keyed String Role}
    (perm : entries.Perm store.roles) (slug organization : Value) :
    RoleStore.roleBySlug? { store with roles := entries } slug organization =
      store.roleBySlug? slug organization := by
  have sameRoles (role : Role) : role ∈ entries.values ↔ role ∈ store.roles.values :=
    (perm.map Prod.snd).mem_iff
  have stillApart : SlugsApart { store with roles := entries } :=
    apart.of_subset fun role member => (sameRoles role).1 member
  refine Option.ext fun role => ?_
  rw [stillApart.roleBySlug?_eq_some_iff, apart.roleBySlug?_eq_some_iff]
  exact and_congr_left' (sameRoles role)

end Authorization.RoleStore

/-!
## Slugs of roles after any calls

A role store that starts with the slugs of every organization apart keeps them apart, whatever is called.
A store in memory is not made this way: it is made of any roles with identifiers of their own, and takes
two roles with one slug, which it would not save one after the other.
-/

namespace Authorization

open Service

variable {system after : System}

/-- Where no two roles of an organization have one slug at the start, none have after any calls,
successful or not, and it makes no difference to a search for a slug in which order the roles came. -/
theorem System.slugs_apart_of_reaches [Host] (unplanned : system.plans = [])
    (closed : system.savepoints = []) (accepted : system.roles.Accepted)
    (apart : system.roles.SlugsApart) (reaches : system.Reaches after) :
    after.roles.SlugsApart ∧
      ∀ entries : Keyed String Role, entries.Perm after.roles.roles → ∀ slug organization : Value,
        (exec (roleBySlug? slug organization)
          { after with roles := { after.roles with roles := entries } }).1 =
            (exec (roleBySlug? slug organization) after).1 := by
  have start : system.Storing (fun store => store.Sound ∧ store.SlugsApart) fun _ => True :=
    ⟨unplanned, closed, ⟨accepted.sound, apart⟩, trivial⟩
  have lasting := @System.Storing.lasting (fun store => store.Sound ∧ store.SlugsApart)
    (fun _ => True) _ (fun _ _ holds step => ⟨holds.1.step step, holds.2.step holds.1 step⟩)
    fun _ _ _ _ => trivial
  obtain ⟨stillUnplanned, _, ⟨_, stillApart⟩, _⟩ := reaches.keeps lasting start
  refine ⟨stillApart, fun entries perm slug organization => ?_⟩
  have permutedUnplanned :
      System.plans { after with roles := { after.roles with roles := entries } } = [] :=
    stillUnplanned
  rw [exec_roleBySlug? permutedUnplanned, exec_roleBySlug? stillUnplanned,
    stillApart.roleBySlug?_eq_of_perm perm]

namespace System

/-- Two roles of the organization "acme" on sales. -/
def deskRole : Role :=
  ⟨"r1", "Sales", "sales", "acme", ["deal:read"], .bool false, .null⟩

def supportRole : Role :=
  ⟨"r2", "Support", "support", "acme", [], .bool false, .null⟩

/-- A system whose role store is made of the two roles. -/
def deskSystem : System :=
  { roles := { roles := [("r1", deskRole), ("r2", supportRole)] }
    policies := {}
    registry := ⟨.builtin {}, { version := 0 }⟩
    clock := ⟨0, some 0⟩ }

/-- The system after the second role could not be saved with the slug of the first one. -/
def deskAfter [Host] : System :=
  (exec (Service.call "role_store.save_role"
    ⟨[Role.toValue { supportRole with slug := "sales" }], []⟩) deskSystem).2

open scoped Host in
theorem deskAfter_slugs_apart :
    deskSystem.plans = [] ∧ deskSystem.savepoints = [] ∧ deskSystem.roles.Accepted ∧
      deskSystem.roles.SlugsApart ∧ deskSystem.Reaches deskAfter ∧
      deskAfter.roles.SlugsApart := by
  have accepted : deskSystem.roles.Accepted :=
    .made ⟨[.list [deskRole.toValue, supportRole.toValue]], []⟩ rfl
  have apart : deskSystem.roles.SlugsApart := by
    intro role member other otherMember sameSlug _
    have isRole : role ∈ [deskRole, supportRole] := member
    have isOther : other ∈ [deskRole, supportRole] := otherMember
    simp only [List.mem_cons, List.not_mem_nil, or_false] at isRole isOther
    rcases isRole with rfl | rfl <;> rcases isOther with rfl | rfl
    · rfl
    · exact absurd sameSlug (by decide)
    · exact absurd sameSlug (by decide)
    · rfl
  have reaches : deskSystem.Reaches deskAfter := .call .refl _ _
  exact ⟨rfl, rfl, accepted, apart, reaches,
    (slugs_apart_of_reaches rfl rfl accepted apart reaches).1⟩

end System

/-- A store is made of two roles of an organization with one slug. -/
example : ∃ store, RoleStore.ofArguments
    ⟨[.list [System.deskRole.toValue, Role.toValue { System.deskRole with id := "r2" }]], []⟩ =
      .ok store ∧ ¬store.SlugsApart := by
  refine ⟨_, rfl, fun apart => ?_⟩
  have same := apart System.deskRole (.head _) { System.deskRole with id := "r2" }
    (.tail _ (.head _)) rfl rfl
  exact absurd (congrArg Role.id same) (by decide)

end Authorization
