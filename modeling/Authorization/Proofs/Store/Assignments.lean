import Authorization.Proofs.Store.Order
import Authorization.Proofs.Store.Plain
import Authorization.Proofs.Tenancy.Roles
import Mathlib.Data.Set.List

/-!
# Who holds which roles

To assign or to revoke a role settles whether one user holds it, and the answer tells whether this is new.
Where all users and roles of the assignments are texts, and no user holds a role twice, the roles of a user
are listed in order, each once, and the holders of a role are counted.
-/

namespace Authorization.RoleStore

variable {store next : RoleStore} {user id : String} {answer isHeld : Bool}

theorem isHeldBy_str_iff {assignment : Value × Value} :
    isHeldBy (.str user) (.str id) assignment = true ↔
      assignment = (Value.str user, Value.str id) := by
  rw [isHeldBy, Bool.and_eq_true, Value.equal_str_iff, Value.equal_str_iff, Prod.ext_iff]

theorem any_isHeldBy_str_iff :
    store.assignments.any (isHeldBy (.str user) (.str id)) = true ↔
      (Value.str user, Value.str id) ∈ store.assignments := by
  simp only [List.any_eq_true, isHeldBy_str_iff, exists_eq_right]

/-- A text that a store can write is kept as it is. -/
theorem userOf_str_eq_ok {kept : Value} (isUser : store.userOf (.str user) = .ok kept) :
    kept = .str user := by
  unfold userOf at isUser
  split at isUser
  · exact (Except.ok.inj isUser).symm
  · rw [Column.text_str, Except.ok_bind] at isUser
    obtain ⟨⟨⟩, _, isUser⟩ := Except.bind_eq_ok_iff.1 isUser
    exact (Except.ok.inj isUser).symm

/-- In memory every text can be written, in tables every whole one. -/
theorem userOf_text (isWhole : store.backend = .tables → Text.holdsHalf user = false) :
    store.userOf (.str user) = .ok (.str user) := by
  unfold userOf
  cases isBackend : store.backend with
  | memory => rfl
  | tables =>
      have written : Column.encoded [.str user] = .ok () := by
        rw [Column.encoded_eq_ok_iff]
        intro text member
        rw [Value.str.inj (List.mem_singleton.1 member)]
        exact isWhole isBackend
      dsimp only
      rw [Column.text_str, Except.ok_bind, written]
      rfl

/-- To assign a role under a kept identifier adds an assignment unless it is there. -/
theorem assign_texts (keeps : store.backend.Keeps id) :
    store.assign (.str user) (.str id) = (store.userOf (.str user)).map fun _ =>
      if store.assignments.any (isHeldBy (.str user) (.str id)) then (store, false)
      else ({ store with assignments := store.assignments ++ [(.str user, .str id)] }, true) := by
  unfold RoleStore.assign
  rw [assignedRole_str keeps, Except.ok_bind]
  dsimp only
  cases isUser : store.userOf (.str user) with
  | error error => rfl
  | ok kept =>
      rw [userOf_str_eq_ok isUser, Except.ok_bind]
      dsimp only [Except.map]
      split
      · rfl
      · split <;> rfl

/-- To revoke a role under a kept identifier takes its assignment away. -/
theorem revoke_texts (keeps : store.backend.Keeps id) :
    store.revoke (.str user) (.str id) = (store.userOf (.str user)).map fun _ =>
      if store.assignments.any (isHeldBy (.str user) (.str id)) then
        ({ store with assignments :=
          store.assignments.filter fun found => !isHeldBy (.str user) (.str id) found }, true)
      else (store, false) := by
  rw [revoke_str keeps]
  cases isUser : store.userOf (.str user) with
  | error error => rfl
  | ok kept =>
      rw [userOf_str_eq_ok isUser]
      rfl

/-! ## Settling whether a user holds a role -/

/-- A user holds a role now or does not, and nothing else is stored than before. -/
structure Settled (store next : RoleStore) (user id : String) (isHeld : Bool) : Prop where
  here : (Value.str user, Value.str id) ∈ next.assignments ↔ isHeld = true
  others : ∀ assignment, assignment ≠ (Value.str user, Value.str id) →
    (assignment ∈ next.assignments ↔ assignment ∈ store.assignments)
  roles : next.roles = store.roles
  permissions : next.permissions = store.permissions

theorem settled_refl (here : (Value.str user, Value.str id) ∈ store.assignments ↔ isHeld = true) :
    store.Settled store user id isHeld :=
  ⟨here, fun _ _ => .rfl, rfl, rfl⟩

/-- A user who is to hold a role does so afterwards; the answer tells whether this is new. -/
theorem settled_of_assign (keeps : store.backend.Keeps id)
    (assigned : store.assign (.str user) (.str id) = .ok (next, answer)) :
    (answer = true ↔ (Value.str user, Value.str id) ∉ store.assignments) ∧
      store.Settled next user id true := by
  rw [assign_texts keeps] at assigned
  obtain ⟨_, _, assigned⟩ := Except.map_eq_ok_iff.1 assigned
  by_cases isHeld : (Value.str user, Value.str id) ∈ store.assignments
  · rw [if_pos (any_isHeldBy_str_iff.2 isHeld)] at assigned
    cases assigned
    exact ⟨iff_of_false Bool.false_ne_true (not_not_intro isHeld),
      settled_refl (iff_of_true isHeld rfl)⟩
  · rw [if_neg (any_isHeldBy_str_iff.not.2 isHeld)] at assigned
    cases assigned
    refine ⟨iff_of_true rfl isHeld, ⟨iff_of_true ?_ rfl, fun assignment apart => ?_, rfl, rfl⟩⟩
    · exact List.mem_append_right _ (.head _)
    · rw [List.mem_append, List.mem_singleton, or_iff_left apart]

/-- A user from whom a role is taken does not hold it afterwards; the answer tells whether this is new. -/
theorem settled_of_revoke (keeps : store.backend.Keeps id)
    (revoked : store.revoke (.str user) (.str id) = .ok (next, answer)) :
    (answer = true ↔ (Value.str user, Value.str id) ∈ store.assignments) ∧
      store.Settled next user id false := by
  rw [revoke_texts keeps] at revoked
  obtain ⟨_, _, revoked⟩ := Except.map_eq_ok_iff.1 revoked
  by_cases isHeld : (Value.str user, Value.str id) ∈ store.assignments
  · rw [if_pos (any_isHeldBy_str_iff.2 isHeld)] at revoked
    cases revoked
    refine ⟨iff_of_true rfl isHeld, ⟨iff_of_false ?_ Bool.false_ne_true, fun assignment apart => ?_,
      rfl, rfl⟩⟩
    · rw [List.mem_filter, Bool.not_eq_true', Bool.eq_false_iff]
      exact fun isThere => isThere.2 (isHeldBy_str_iff.2 rfl)
    · rw [List.mem_filter, Bool.not_eq_true', Bool.eq_false_iff]
      exact and_iff_left (isHeldBy_str_iff.not.2 apart)
  · rw [if_neg (any_isHeldBy_str_iff.not.2 isHeld)] at revoked
    cases revoked
    exact ⟨iff_of_false Bool.false_ne_true isHeld,
      settled_refl (iff_of_false isHeld Bool.false_ne_true)⟩

/-! ## Assignments of texts -/

/-- The assignment of a role to a user by their texts. -/
def assignmentOf (held : String × String) : Value × Value :=
  (.str held.1, .str held.2)

theorem assignmentOf_injective : Function.Injective assignmentOf := by
  rintro ⟨user, id⟩ ⟨other, otherId⟩ same
  exact Prod.ext (Value.str.inj (congrArg Prod.fst same)) (Value.str.inj (congrArg Prod.snd same))

/-- Users hold roles by texts, and no user holds a role twice. -/
structure HeldOnce (store : RoleStore) : Prop where
  texts : ∀ assignment ∈ store.assignments, ∃ held, assignmentOf held = assignment
  once : store.assignments.Nodup

namespace HeldOnce

theorem assign (heldOnce : store.HeldOnce) (keeps : store.backend.Keeps id)
    (assigned : store.assign (.str user) (.str id) = .ok (next, answer)) : next.HeldOnce := by
  rw [assign_texts keeps] at assigned
  obtain ⟨_, _, assigned⟩ := Except.map_eq_ok_iff.1 assigned
  split at assigned
  · cases assigned
    exact heldOnce
  · rename_i notHeld
    cases assigned
    refine ⟨fun assignment member => ?_, List.nodup_append.2 ⟨heldOnce.once, List.nodup_singleton _,
      fun old isOld new isNew same => ?_⟩⟩
    · rcases List.mem_append.1 member with old | new
      · exact heldOnce.texts assignment old
      · exact ⟨(user, id), (List.mem_singleton.1 new).symm⟩
    · rw [same, List.mem_singleton.1 isNew] at isOld
      exact notHeld (any_isHeldBy_str_iff.2 isOld)

theorem revoke (heldOnce : store.HeldOnce) (keeps : store.backend.Keeps id)
    (revoked : store.revoke (.str user) (.str id) = .ok (next, answer)) : next.HeldOnce := by
  rw [revoke_texts keeps] at revoked
  obtain ⟨_, _, revoked⟩ := Except.map_eq_ok_iff.1 revoked
  split at revoked
  · cases revoked
    exact ⟨fun assignment member => heldOnce.texts assignment (List.mem_of_mem_filter member),
      heldOnce.once.filter _⟩
  · cases revoked
    exact heldOnce

/-- The assignments are those of different pairs of texts. -/
theorem exists_pairs (heldOnce : store.HeldOnce) :
    ∃ pairs : List (String × String), store.assignments = pairs.map assignmentOf ∧ pairs.Nodup ∧
      ∀ user id, (Value.str user, Value.str id) ∈ store.assignments ↔ (user, id) ∈ pairs := by
  have isList : store.assignments ∈ Set.range (List.map assignmentOf) := by
    rw [Set.range_list_map]
    exact heldOnce.texts
  obtain ⟨pairs, same⟩ := isList
  refine ⟨pairs, same.symm, .of_map assignmentOf (same ▸ heldOnce.once), fun user id => ?_⟩
  rw [← same]
  exact @List.mem_map_of_injective _ _ _ assignmentOf_injective (user, id) pairs

/-- The roles that a user holds are listed in order, each once. -/
theorem exists_rolesHeldBy (heldOnce : store.HeldOnce)
    (isUser : store.userOf (.str user) = .ok (.str user)) :
    ∃ ids : List String, store.rolesHeldBy (.str user) = .ok (ids.map .str) ∧
      (ids.Pairwise fun id later => codesOf id < codesOf later) ∧
      ∀ id, id ∈ ids ↔ (Value.str user, Value.str id) ∈ store.assignments := by
  obtain ⟨pairs, arePairs, apart, mem_iff⟩ := heldOnce.exists_pairs
  have isHeld : store.held (.str user) =
      (pairs.filter fun held => decide (held.1 = user)).map assignmentOf := by
    rw [RoleStore.held, arePairs, List.filter_map]
    refine congrArg _ (List.filter_congr fun held _ => ?_)
    exact Value.str_equal_str held.1 user
  have idsApart : ((pairs.filter fun held => decide (held.1 = user)).map Prod.snd).Nodup := by
    refine (apart.filter _).map_on fun held member other otherMember sameId => Prod.ext ?_ sameId
    rw [of_decide_eq_true (List.mem_filter.1 member).2,
      of_decide_eq_true (List.mem_filter.1 otherMember).2]
  obtain ⟨ids, isSorted, same, ordered⟩ := Value.exists_sortEntries?_texts idsApart
  refine ⟨ids, ?_, ordered, fun id => ?_⟩
  · unfold RoleStore.rolesHeldBy
    rw [isUser, Except.ok_bind, isHeld, List.map_map]
    rw [List.map_map] at isSorted
    dsimp only [Function.comp_def, assignmentOf] at isSorted ⊢
    rw [isSorted]
    exact congrArg Except.ok (List.map_map ..)
  · rw [same.mem_iff, mem_iff]
    simp

/-- The holders of a role are counted, each once. -/
theorem exists_holders (heldOnce : store.HeldOnce) (id : String) :
    ∃ users : List String, (store.assignmentsTo id).length = users.length ∧ users.Nodup ∧
      ∀ user, user ∈ users ↔ (Value.str user, Value.str id) ∈ store.assignments := by
  obtain ⟨pairs, arePairs, apart, mem_iff⟩ := heldOnce.exists_pairs
  have isHeld : store.assignmentsTo id =
      (pairs.filter fun held => decide (held.2 = id)).map assignmentOf := by
    rw [assignmentsTo, arePairs, List.filter_map]
    refine congrArg _ (List.filter_congr fun held _ => ?_)
    exact Value.str_equal_str held.2 id
  refine ⟨(pairs.filter fun held => decide (held.2 = id)).map Prod.fst, ?_, ?_, fun user => ?_⟩
  · rw [isHeld, List.length_map, List.length_map]
  · refine (apart.filter _).map_on fun held member other otherMember sameUser => Prod.ext sameUser ?_
    rw [of_decide_eq_true (List.mem_filter.1 member).2,
      of_decide_eq_true (List.mem_filter.1 otherMember).2]
  · rw [mem_iff]
    simp

end HeldOnce

/-- A change has settled whether a user holds a role, and tells whether this is new. -/
structure Settles (store next : RoleStore) (user id : String) (isHeld answer : Bool) : Prop
    extends Settled store next user id isHeld where
  tells : answer = true ↔ ¬((Value.str user, Value.str id) ∈ store.assignments ↔ isHeld = true)
  sound : next.Sound
  sameBackend : next.backend = store.backend
  heldOnce : next.HeldOnce

theorem settles_of_assign (sound : store.Sound) (heldOnce : store.HeldOnce) {role : Role}
    (member : role ∈ store.roles.values)
    (assigned : store.assign (.str user) (.str role.id) = .ok (next, answer)) :
    store.Settles next user role.id true answer := by
  have keeps := sound.kept role member
  obtain ⟨tells, settled⟩ := settled_of_assign keeps assigned
  refine ⟨settled, ?_, sound.assign assigned (consistent_of_assign sound member assigned),
    (roles_of_assign assigned).1, heldOnce.assign keeps assigned⟩
  rw [tells, iff_true_right rfl]

theorem settles_of_revoke (sound : store.Sound) (heldOnce : store.HeldOnce) {role : Role}
    (member : role ∈ store.roles.values)
    (revoked : store.revoke (.str user) (.str role.id) = .ok (next, answer)) :
    store.Settles next user role.id false answer := by
  have keeps := sound.kept role member
  obtain ⟨tells, settled⟩ := settled_of_revoke keeps revoked
  refine ⟨settled, ?_, sound.revoke revoked, (roles_of_revoke revoked).1,
    heldOnce.revoke keeps revoked⟩
  rw [tells, iff_false_right Bool.false_ne_true, not_not]

end Authorization.RoleStore
