import Authorization.Proofs.Store.Order
import Authorization.Proofs.Store.Plain
import Authorization.Proofs.Store.Role
import Mathlib.Data.Finset.Card

/-!
# The catalog of permissions

The catalog of a role store is only added to. To a list of permissions it adds one for each slug that is
new, the first of the list with that slug, in both kinds of stores: what the list repeats and what is
stored already changes nothing. Tables take a list only when they can write everything that is new in it,
and else stay as they are.
-/

namespace Authorization

/-! ## Permissions in tables -/

namespace Column

/-- What a column of texts keeps of a value can be written exactly when the value has a text that can. -/
theorem exists_text_whole_iff {value : Value} :
    (∃ kept, text value = .ok kept ∧ encoded [kept] = .ok ()) ↔
      ∃ written, value.toText = .ok written ∧ Text.holdsHalf written = false := by
  by_cases isNull : value = .null
  · rw [isNull]
    exact iff_of_true ⟨.null, rfl, rfl⟩ ⟨"None", rfl, by decide⟩
  · have kept : text value = value.toText.map Value.str := by
      unfold text
      split
      · exact absurd rfl isNull
      · rfl
    rw [kept]
    cases value.toText with
    | error error => exact iff_of_false (fun ⟨_, same, _⟩ => nomatch same) fun ⟨_, same, _⟩ => nomatch same
    | ok written =>
        constructor
        · rintro ⟨_, same, whole⟩
          cases same
          exact ⟨written, rfl, encoded_eq_ok_iff.1 whole written (List.mem_singleton_self _)⟩
        · rintro ⟨_, same, whole⟩
          cases same
          refine ⟨.str written, rfl, encoded_eq_ok_iff.2 fun text member => ?_⟩
          cases List.mem_singleton.1 member
          exact whole

theorem encoded_pair_eq_ok_iff {first second : Value} :
    encoded [first, second] = .ok () ↔ encoded [first] = .ok () ∧ encoded [second] = .ok () := by
  simp only [encoded_eq_ok_iff, List.mem_cons, List.not_mem_nil, or_false]
  exact ⟨fun whole => ⟨fun text same => whole text (.inl same), fun text same => whole text (.inr same)⟩,
    fun ⟨first, second⟩ text => Or.rec (first text) (second text)⟩

end Column

/-- The permission of two texts is the one that its record is read as. -/
theorem Permission.ofValue?_of {resource action : String} (isResource : resource ≠ "")
    (isAction : action ≠ "") :
    Permission.ofValue? (Permission.of resource action).toValue =
      some (Permission.of resource action) := by
  have isText {given field : String} (notEmpty : given ≠ "") :
      (Value.str given).nonEmptyText field = .ok given := by
    rw [Value.nonEmptyText, Value.nonEmptyText?, if_neg (by simpa using notEmpty)]
  have made : Permission.ofBindings
      [("resource", .str resource), ("action", .str action), ("slug", .str (Key.join resource action)),
        ("name", (Permission.of resource action).name),
        ("description", (Permission.of resource action).description)] =
      .ok (Permission.of resource action) := by
    simp [Permission.ofBindings, Bindings.value, List.lookup_cons, isText isResource, isText isAction,
      Permission.of, Except.ok_bind]
    rfl
  exact congrArg Except.toOption made

/-- The texts of a permission have a place in tables: no half of a pair stands alone in them. -/
structure Permission.Writable (permission : Permission) : Prop where
  slug : Text.holdsHalf permission.slug = false
  name : ∃ text, permission.name.toText = .ok text ∧ Text.holdsHalf text = false
  description : ∃ text, permission.description.toText = .ok text ∧ Text.holdsHalf text = false

theorem Text.holdsHalf_append (text other : String) :
    holdsHalf (text ++ other) = (holdsHalf text || holdsHalf other) := by
  simp [holdsHalf]

/-- Made-up texts can be written when the two texts can be that they are made of. -/
theorem Permission.writable_of {resource action : String}
    (isResource : Text.holdsHalf resource = false) (isAction : Text.holdsHalf action = false)
    (isTitle : Text.holdsHalf (Text.capitalize action) = false) :
    (Permission.of resource action).Writable := by
  have blank : Text.holdsHalf " " = false := by decide
  have colon : Text.holdsHalf ":" = false := by decide
  have start : Text.holdsHalf "Permission to " = false := by decide
  refine ⟨?_, ⟨Text.capitalize action ++ " " ++ resource, rfl, ?_⟩,
    ⟨"Permission to " ++ action ++ " " ++ resource, rfl, ?_⟩⟩
  · simp [Permission.of, Key.join, Text.holdsHalf_append, isResource, isAction, colon]
  · simp [Text.holdsHalf_append, isResource, isTitle, blank]
  · simp [Text.holdsHalf_append, isResource, isAction, blank, start]

namespace RoleStore

/-- Tables keep the permissions that can be written. -/
theorem exists_kept_tables_iff {permission : Permission} :
    (∃ kept, RoleStore.kept .tables permission = .ok kept) ↔ permission.Writable := by
  have slug : Column.encoded [.str permission.slug] = .ok () ↔
      Text.holdsHalf permission.slug = false := by
    simp [Column.encoded_eq_ok_iff]
  constructor
  · rintro ⟨kept, isKept⟩
    obtain ⟨⟨⟩, isWhole, isKept⟩ := Except.bind_eq_ok_iff.1 isKept
    obtain ⟨name, isName, isKept⟩ := Except.bind_eq_ok_iff.1 isKept
    obtain ⟨description, isDescription, isKept⟩ := Except.bind_eq_ok_iff.1 isKept
    obtain ⟨⟨⟩, areWhole, _⟩ := Except.bind_eq_ok_iff.1 isKept
    obtain ⟨nameWhole, descriptionWhole⟩ := Column.encoded_pair_eq_ok_iff.1 areWhole
    exact ⟨slug.1 isWhole, Column.exists_text_whole_iff.1 ⟨name, isName, nameWhole⟩,
      Column.exists_text_whole_iff.1 ⟨description, isDescription, descriptionWhole⟩⟩
  · rintro ⟨isWhole, named, described⟩
    obtain ⟨name, isName, nameWhole⟩ := Column.exists_text_whole_iff.2 named
    obtain ⟨description, isDescription, descriptionWhole⟩ := Column.exists_text_whole_iff.2 described
    have areWhole := Column.encoded_pair_eq_ok_iff.2 ⟨nameWhole, descriptionWhole⟩
    refine ⟨{ permission with name, description }, ?_⟩
    rw [RoleStore.kept, slug.2 isWhole, Except.ok_bind, isName, Except.ok_bind, isDescription,
      Except.ok_bind, areWhole, Except.ok_bind]
    rfl

/-! ## Keeping what is stored -/

variable {store next : RoleStore} {permission kept : Permission} {permissions : List Permission}
  {values : List Value} {slug : String} {count : Nat}

/-- No operation takes a permission from the catalog or puts another one in its place. -/
theorem Step.get?_permissions {stored : Permission} (step : store.Step next)
    (isThere : store.permissions.get? slug = some stored) :
    next.permissions.get? slug = some stored := by
  cases step with
  | addPermissions values => exact get?_addPermissions values isThere
  | saveRole saved =>
      obtain ⟨_, _, _, _, _, _, rfl⟩ := saveRole_eq_ok saved
      exact isThere
  | deleteRole deleted =>
      rcases deleteRole_eq_ok deleted with ⟨_, _, _, rfl, _⟩ | ⟨_, _, _, _, _, rfl, _⟩ <;> exact isThere
  | assign assigned =>
      rcases assign_eq_ok assigned with ⟨rfl, _⟩ | ⟨_, _, _, _, _, rfl, _⟩ <;> exact isThere
  | revoke revoked =>
      rcases revoke_eq_ok revoked with ⟨rfl, _⟩ | ⟨_, _, _, _, _, rfl, _⟩ <;> exact isThere

/-! ## Adding a list -/

/-- The slugs of a list that no stored permission has. -/
def newSlugs (store : RoleStore) (permissions : List Permission) : Finset String :=
  (permissions.map Permission.slug).toFinset.filter fun slug => store.permissions.has slug = false

/-- The first permission of a list with a slug. -/
def first? (permissions : List Permission) (slug : String) : Option Permission :=
  permissions.find? fun permission => permission.slug = slug

/-- A store has room for a list: memory always, and tables when they can write what is new. -/
def Takes (store : RoleStore) (permissions : List Permission) : Prop :=
  store.backend = .tables → ∀ slug ∈ store.newSlugs permissions,
    ∀ first, first? permissions slug = some first → first.Writable

/-- What a store is after a list has been added: under each new slug stands the first permission of the
list with it, under all others what stood there, and so many permissions have been counted. -/
structure Adds (store : RoleStore) (permissions : List Permission) (next : RoleStore)
    (count : Nat) : Prop where
  counted : count = (store.newSlugs permissions).card
  grown : next.countPermissions = store.countPermissions + count
  new : ∀ slug ∈ store.newSlugs permissions, ∃ first kept, first? permissions slug = some first ∧
    RoleStore.kept store.backend first = .ok kept ∧ next.permissions.get? slug = some kept
  others : ∀ slug, slug ∉ store.newSlugs permissions →
    next.permissions.get? slug = store.permissions.get? slug
  rest : next = { store with permissions := next.permissions }

theorem mem_newSlugs : slug ∈ store.newSlugs permissions ↔
    (∃ permission ∈ permissions, permission.slug = slug) ∧ store.permissions.has slug = false := by
  rw [newSlugs, Finset.mem_filter, List.mem_toFinset, List.mem_map]

theorem ne_of_mem_newSlugs (isNew : slug ∈ store.newSlugs permissions)
    (isThere : store.permissions.has permission.slug = true) : slug ≠ permission.slug := by
  rintro rfl
  have isAbsent := (mem_newSlugs.1 isNew).2
  rw [isThere] at isAbsent
  cases isAbsent

theorem newSlugs_nil : store.newSlugs [] = ∅ := by
  simp [newSlugs]

/-- A permission that is stored already brings nothing new. -/
theorem newSlugs_cons_of_has (isThere : store.permissions.has permission.slug = true) :
    store.newSlugs (permission :: permissions) = store.newSlugs permissions := by
  ext slug
  simp only [mem_newSlugs, List.exists_mem_cons_iff]
  refine and_congr_left fun isNew => or_iff_right ?_
  rintro rfl
  rw [isThere] at isNew
  cases isNew

/-- A permission that is stored first takes its slug from what else is new. -/
theorem newSlugs_cons_of_new (isNew : store.permissions.has permission.slug = false)
    (kept : Permission) (permissions : List Permission) :
    let stored : RoleStore :=
      { store with permissions := Keyed.put permission.slug kept store.permissions }
    store.newSlugs (permission :: permissions) =
        insert permission.slug (stored.newSlugs permissions) ∧
      permission.slug ∉ stored.newSlugs permissions := by
  intro stored
  have has (slug : String) : stored.permissions.has slug = false ↔
      slug ≠ permission.slug ∧ store.permissions.has slug = false := by
    rw [Keyed.has, Keyed.get?_put]
    split
    · rename_i same
      exact iff_of_false Bool.false_ne_true.symm fun apart => apart.1 same
    · rename_i apart
      exact (and_iff_right apart).symm
  refine ⟨?_, fun member => ((has _).1 (mem_newSlugs.1 member).2).1 rfl⟩
  ext slug
  simp only [mem_newSlugs, Finset.mem_insert, List.exists_mem_cons_iff, has]
  by_cases same : slug = permission.slug
  · simp [same, isNew]
  · simp [same, Ne.symm same]

theorem first?_cons_self : first? (permission :: permissions) permission.slug = some permission := by
  simp [first?]

theorem first?_cons_of_ne (apart : slug ≠ permission.slug) :
    first? (permission :: permissions) slug = first? permissions slug := by
  simp [first?, apart.symm]

/-! ### One permission more -/

section Step

variable {stored : RoleStore}

theorem takes_nil : store.Takes [] := by
  intro _ slug isNew
  rw [newSlugs_nil] at isNew
  cases isNew

/-- A permission that is stored already needs no room. -/
theorem takes_cons_of_has (isThere : store.permissions.has permission.slug = true) :
    store.Takes (permission :: permissions) ↔ store.Takes permissions := by
  unfold Takes
  rw [newSlugs_cons_of_has isThere]
  refine forall_congr' fun _ => forall₂_congr fun slug isNew => ?_
  rw [first?_cons_of_ne (ne_of_mem_newSlugs isNew isThere)]

/-- There is room for a new permission and a list when the permission can be kept and there is room for the
list after it. -/
theorem takes_cons_of_new (kept : Permission)
    (isNew : store.permissions.has permission.slug = false)
    (isStored : stored = { store with
      permissions := Keyed.put permission.slug kept store.permissions }) :
    store.Takes (permission :: permissions) ↔
      (store.backend = .tables → permission.Writable) ∧ stored.Takes permissions := by
  subst isStored
  obtain ⟨grows, isAbsent⟩ := newSlugs_cons_of_new isNew kept permissions
  unfold Takes
  rw [← forall_and, grows]
  refine forall_congr' fun isTables => ?_
  rw [Finset.forall_mem_insert]
  refine and_congr ?_ (forall₂_congr fun slug member => ?_)
  · rw [first?_cons_self]
    exact ⟨fun writable => writable _ rfl, fun writable _ same => Option.some.inj same ▸ writable⟩
  · rw [first?_cons_of_ne (ne_of_mem_of_not_mem member isAbsent)]

theorem adds_nil : store.Adds [] store 0 where
  counted := by rw [newSlugs_nil, Finset.card_empty]
  grown := rfl
  new slug isNew := by
    rw [newSlugs_nil] at isNew
    cases isNew
  others _ _ := rfl
  rest := rfl

/-- A permission that is stored already changes nothing. -/
theorem Adds.cons_of_has (adds : store.Adds permissions next count)
    (isThere : store.permissions.has permission.slug = true) :
    store.Adds (permission :: permissions) next count where
  counted := by rw [newSlugs_cons_of_has isThere, adds.counted]
  grown := adds.grown
  new slug isNew := by
    rw [newSlugs_cons_of_has isThere] at isNew
    rw [first?_cons_of_ne (ne_of_mem_newSlugs isNew isThere)]
    exact adds.new slug isNew
  others slug notNew := by
    rw [newSlugs_cons_of_has isThere] at notNew
    exact adds.others slug notNew
  rest := adds.rest

/-- A new permission counts for one, and keeps its place from what comes after it. -/
theorem Adds.cons_of_new (isNew : store.permissions.has permission.slug = false)
    (isKept : RoleStore.kept store.backend permission = .ok kept)
    (isStored : stored = { store with
      permissions := Keyed.put permission.slug kept store.permissions })
    (adds : stored.Adds permissions next count) :
    store.Adds (permission :: permissions) next (count + 1) := by
  subst isStored
  obtain ⟨grows, isAbsent⟩ := newSlugs_cons_of_new isNew kept permissions
  have isFirst : next.permissions.get? permission.slug = some kept := by
    rw [adds.others _ isAbsent, Keyed.get?_put, if_pos rfl]
  refine ⟨?_, ?_, fun slug member => ?_, fun slug notNew => ?_, ?_⟩
  · rw [grows, Finset.card_insert_of_notMem isAbsent, adds.counted]
  · rw [adds.grown, countPermissions, Keyed.put_of_absent isNew, List.length_append,
      List.length_singleton, countPermissions, Nat.add_assoc, Nat.add_comm 1]
  · rw [grows, Finset.mem_insert] at member
    rcases member with rfl | member
    · exact ⟨permission, kept, first?_cons_self, isKept, isFirst⟩
    · rw [first?_cons_of_ne (ne_of_mem_of_not_mem member isAbsent)]
      exact adds.new slug member
  · rw [grows, Finset.mem_insert, not_or] at notNew
    rw [adds.others slug notNew.2, Keyed.get?_put, if_neg notNew.1]
  · exact adds.rest

end Step

/-! ### The whole list -/

/-- A new permission can be kept exactly when tables can write it. -/
theorem exists_kept_iff : (∃ kept, RoleStore.kept store.backend permission = .ok kept) ↔
    (store.backend = .tables → permission.Writable) := by
  cases store.backend with
  | memory => exact iff_of_true ⟨permission, rfl⟩ nofun
  | tables => exact exists_kept_tables_iff.trans ⟨fun writable _ => writable, fun writable => writable rfl⟩

/-- A list for which there is room is added, and any other is not. -/
theorem addEach_spec (store : RoleStore) (areRead : values.mapM permissionOf = .ok permissions) (start : Nat) :
    (store.Takes permissions → ∃ next count,
        store.addEach start values = (next, .ok (start + count)) ∧
          store.Adds permissions next count) ∧
      (¬store.Takes permissions → ∃ error, (store.addEach start values).2 = .error error) := by
  have related := Except.mapM_eq_ok_iff.1 areRead
  clear areRead
  induction related generalizing store start with
  | nil => exact ⟨fun _ => ⟨store, 0, rfl, adds_nil⟩, fun noRoom => absurd takes_nil noRoom⟩
  | @cons value permission rest others isRead _ inductionHypothesis =>
      rw [RoleStore.addEach, isRead, Except.ok_bind]
      cases isNew : store.permissions.has permission.slug with
      | true =>
          rw [addPermission_of_has isNew, takes_cons_of_has isNew]
          obtain ⟨adding, failing⟩ := @inductionHypothesis store start
          refine ⟨fun takes => ?_, failing⟩
          obtain ⟨next, count, added, adds⟩ := adding takes
          exact ⟨next, count, added, adds.cons_of_has isNew⟩
      | false =>
          rw [addPermission_of_new isNew]
          cases isKept : RoleStore.kept store.backend permission with
          | error error =>
              refine ⟨fun takes => ?_, fun _ => ⟨error, rfl⟩⟩
              have writable := ((takes_cons_of_new permission isNew rfl).1 takes).1
              obtain ⟨kept, found⟩ := exists_kept_iff.2 writable
              rw [isKept] at found
              cases found
          | ok kept =>
              have writable := exists_kept_iff.1 ⟨kept, isKept⟩
              rw [takes_cons_of_new kept isNew rfl, and_iff_right writable]
              obtain ⟨adding, failing⟩ := @inductionHypothesis { store with
                permissions := Keyed.put permission.slug kept store.permissions } (start + 1)
              refine ⟨fun takes => ?_, failing⟩
              obtain ⟨next, count, added, adds⟩ := adding takes
              refine ⟨next, count + 1, ?_, adds.cons_of_new isNew isKept rfl⟩
              rw [← Nat.add_right_comm, Nat.add_assoc] at added
              exact added

/-- A store adds a list for which it has room, and is left as it is by any other. -/
theorem addPermissions_spec (areRead : values.mapM permissionOf = .ok permissions) :
    (store.Takes permissions → ∃ next count,
        store.addPermissions values = (next, .ok count) ∧ store.Adds permissions next count) ∧
      (¬store.Takes permissions → ∃ error, store.addPermissions values = (store, .error error)) := by
  obtain ⟨adding, failing⟩ := store.addEach_spec areRead 0
  constructor
  · intro takes
    obtain ⟨next, count, added, adds⟩ := adding takes
    refine ⟨next, count, ?_, adds⟩
    rw [Nat.zero_add] at added
    unfold RoleStore.addPermissions
    rw [added]
    cases store.backend <;> rfl
  · intro noRoom
    obtain ⟨error, failed⟩ := failing noRoom
    have isTables : store.backend = .tables := (Classical.not_imp.1 noRoom).1
    refine ⟨error, ?_⟩
    unfold RoleStore.addPermissions
    rw [isTables]
    generalize store.addEach 0 values = result at failed
    obtain ⟨reached, answer⟩ := result
    cases failed
    rfl

end RoleStore

/-! ## Listing the catalog -/

/-- The place of a permission: by resource, then by action. -/
def Permission.place (permission : Permission) : List (List Nat) :=
  [codesOf permission.resource, codesOf permission.action]

/-- A listing of a catalog holds the one permission of each slug that is stored, in order. -/
structure RoleStore.Lists (store : RoleStore) (listed : List Permission) : Prop where
  once : (listed.map Permission.slug).Nodup
  complete : ∀ slug permission, store.permissions.get? slug = some permission ↔
    permission ∈ listed ∧ permission.slug = slug
  ordered : listed.Pairwise fun permission later => permission.place ≤ later.place
  counted : listed.length = store.countPermissions

theorem RoleStore.Sound.lists {store : RoleStore} (sound : store.Sound) :
    store.Lists store.listPermissions where
  once := by
    have perm : store.listPermissions.Perm store.permissions.values := List.mergeSort_perm _ _
    exact (perm.map Permission.slug).nodup_iff.2 sound.permissions.nodup_keys
  complete slug permission := by
    rw [sound.permissions.get?_eq_some_iff, RoleStore.listPermissions, mem_sortedBy]
  ordered := by
    have inOrder (a b : Permission) :
        keysInOrder a.sortKey b.sortKey = true ↔ a.place ≤ b.place :=
      (keysInOrder_iff a.sortKey b.sortKey).trans not_lt
    exact pairwise_mergeSort_of_key inOrder _
  counted := by
    rw [RoleStore.listPermissions, sortedBy, List.length_mergeSort, Keyed.values, List.length_map]
    rfl

end Authorization
