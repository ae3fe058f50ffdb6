import Authorization.Administration.Roles
import Authorization.Proofs.Tenancy.Stores

/-!
# Administration of roles and organizations

What an administrator of an organization asks for about roles comes to the same in systems that agree on
the organization, as it is given and as it is trimmed.
-/

namespace Authorization

open Service

variable {α : Type} {catalog : RuleCatalog} {fixed : Keyed String PolicyChain}
  {within : String → Prop} {first second system : System} {given : String}

/-- All that a system stores for an organization is among what systems agree on, and so is all that it is
going to store for it. -/
structure System.Covers (within : String → Prop) (given : String) (system : System) : Prop where
  trimmed : within (Text.trim given)
  roles : ∀ role ∈ system.roles.roles.values, role.organization = given → within given
  policies : ∀ policy ∈ system.policies.policies.values, policy.organization = given → within given

theorem Cleaning.text_eq_ok {field text : String} {value : Value}
    (isClean : Cleaning.text field value = .ok text) :
    ∃ given, value = .str given ∧ text = Text.trim given := by
  unfold Cleaning.text at isClean
  split at isClean
  · dsimp only at isClean
    split at isClean
    · cases isClean
    · exact ⟨_, rfl, (Except.ok.inj isClean).symm⟩
  · cases isClean

theorem System.Covers.within_text (covers : system.Covers within given) {field text : String}
    (isClean : Cleaning.text field (.str given) = .ok text) : within text := by
  obtain ⟨_, same, rfl⟩ := Cleaning.text_eq_ok isClean
  cases same
  exact covers.trimmed

/-- Integers are related by their order. -/
theorem Value.related?_greater_int (left right : Int) :
    Value.related? .greater (.int left) (.int right) = some (decide (right < left)) := by
  have related : Value.related? .greater (.int left) (.int right) =
      some (Value.Relation.holds .greater (compare left right)) := by
    simp only [Value.related?]
    rfl
  rw [related, Option.some.injEq, Bool.eq_iff_iff, decide_eq_true_iff]
  exact beq_iff_eq.trans compare_gt_iff_gt

namespace RoleAdministration

theorem exec_find (unplanned : system.plans = []) (given : String) (id : Value) :
    exec (find (.str given) id) system = (system.roles.found given id, system) :=
  exec_finding (exec_role? unplanned id) rfl fun role =>
    exec_ofOrganization role _ given role.organization

/-- A role that is found is deleted when nobody holds it, and else it is not. -/
theorem exec_delete (unplanned : system.plans = []) (sound : system.roles.Sound)
    {organization id : Value} {role : Role} (member : role ∈ system.roles.roles.values)
    (isFound : exec (find organization id) system = (.ok role, system)) (actor : Value) :
    exec (delete organization id actor) system =
      if system.roles.assignmentsTo role.id = [] then
        exec (noteChange ("Role deleted: " ++ id.text) organization actor) { system with
          roles := { system.roles with roles := system.roles.roles.erase role.id } }
      else
        (.error (.referenced .role role.id
          (.holders (Value.int (system.roles.assignmentsTo role.id).length).text)), system) := by
  have counted : exec (countHolders (.str role.id)) system =
      (.ok (.int (system.roles.assignmentsTo role.id).length), system) := by
    rw [exec_countHolders unplanned, RoleStore.countHolders_str (sound.kept role member)]
    rfl
  unfold delete
  rw [exec_bind_of_ok isFound, exec_bind_of_ok counted, Value.related?_greater_int]
  by_cases unheld : system.roles.assignmentsTo role.id = []
  · have deleted : exec (Service.deleteRole (.str role.id)) system = (.ok (.bool true),
        { system with roles := { system.roles with roles := system.roles.roles.erase role.id } }) := by
      unfold Service.deleteRole
      rw [exec_performedValue unplanned, exec_changeRoles, sound.deleteRole_of_unheld member unheld]
      rfl
    have noneGreater : decide ((0 : Int) < (system.roles.assignmentsTo role.id).length) = false := by
      rw [unheld]
      rfl
    rw [if_pos unheld, noneGreater]
    dsimp only
    rw [exec_bind_of_ok deleted]
  · have isHeld : 0 < (system.roles.assignmentsTo role.id).length := List.length_pos_iff.2 unheld
    rw [if_neg unheld, decide_eq_true (Int.natCast_pos.2 isHeld)]
    rfl

theorem exec_delete_of_unheld (unplanned : system.plans = []) (sound : system.roles.Sound)
    {role : Role} {id actor : Value} {written : String} (isWritten : actor.toText = .ok written)
    (isFound : system.roles.found given id = .ok role)
    (unheld : system.roles.assignments = []) : ∃ journal,
      exec (delete (.str given) id actor) system = (.ok (), { system with
        roles := { system.roles with roles := system.roles.roles.erase role.id }, journal }) := by
  have found := exec_find unplanned given id
  rw [isFound] at found
  have unassigned : system.roles.assignmentsTo role.id = [] := by
    rw [RoleStore.assignmentsTo, unheld]
    rfl
  rw [exec_delete unplanned sound (RoleStore.found_eq_ok isFound).1 found, if_pos unassigned,
    exec_noteChange isWritten]
  exact ⟨_, rfl⟩

section

variable [Host] (agree : System.AgreesOn catalog fixed within first second)

include agree

/-- What follows a role that is found comes to the same when it does for every stored role of the
organization. -/
theorem alike_find (covers : first.Covers within given) (otherCovers : second.Covers within given)
    (id : Value) {next : Role → Service α} {post : α → System → System → Prop}
    (rest : ∀ role ∈ first.roles.roles.values, role ∈ second.roles.roles.values →
      role.organization = given → within role.organization →
      Alike catalog fixed within first second (next role) post) :
    Alike catalog fixed within first second (find (.str given) id >>= next) post := by
  have sameFound := agree.roles.found agree.orderly.roles agree.otherOrderly.roles covers.roles
    otherCovers.roles id
  have secondRun := exec_find agree.otherOrderly.unplanned given id
  rw [← sameFound] at secondRun
  refine .reading agree (exec_find agree.orderly.unplanned given id) secondRun fun role isFound => ?_
  obtain ⟨member, rfl⟩ := RoleStore.found_eq_ok isFound
  have isWithin := covers.roles role member rfl
  exact rest role member ((agree.roles.roles role isWithin).1 member) rfl isWithin

theorem alike_noteChange (message : String) (organization actor : Value) :
    Alike catalog fixed within first second (noteChange message organization actor)
      fun _ third fourth => first.SameStores third ∧ second.SameStores fourth :=
  .checking agree fun _ _ => alike_note agree _ _ _

/-! ## Permissions -/

theorem alike_resolvePermissions (slugs : Value) :
    Alike catalog fixed within first second (resolvePermissions slugs) fun _ third fourth =>
      first.SameStores third ∧ second.SameStores fourth := by
  refine (alike_ofDraw agree _).bind fun items third fourth advance same => ?_
  have agree := advance.agree
  have sameKnown : (third.roles.listPermissions.map Permission.slug).contains =
      (fourth.roles.listPermissions.map Permission.slug).contains := by
    funext slug
    rw [Bool.eq_iff_iff, List.contains_iff_mem, List.contains_iff_mem]
    exact agree.roles.mem_slugs slug
  have resolved : Alike catalog fixed within third fourth (do
      let requested := Value.distinct items
      let known := (← Service.listPermissions).map Permission.slug
      let isKnown (item : Value) : Bool := item.asStr?.any known.contains
      let unknown ← orFail ((requested.filter fun item => !isKnown item).mapM slugText)
      if unknown.isEmpty then return requested.filterMap Value.asStr?
      else throw (.unknownPermissions (unknown.mergeSort textsInOrder)) : Service (List String))
      fun _ fifth sixth => first.SameStores fifth ∧ second.SameStores sixth :=
    .asking (exec_listPermissions agree.orderly.unplanned)
      (exec_listPermissions agree.otherOrderly.unplanned) (by simp only [sameKnown])
      (.checking agree fun unknown _ => .ite (.pure agree same) (.throw agree _))
  dsimp only
  split
  · exact .checking agree fun _ _ => resolved
  · exact resolved

theorem alike_permissionsOf (slugs : Value) :
    Alike catalog fixed within first second (permissionsOf slugs) fun _ third fourth =>
      first.SameStores third ∧ second.SameStores fourth := by
  unfold permissionsOf
  split
  · exact .throw agree _
  · exact alike_resolvePermissions agree _

/-! ## Changes -/

theorem alike_save {role : Role} (isWithin : within role.organization)
    (admits : first.AdmitsRole within role.id) (otherAdmits : second.AdmitsRole within role.id)
    (held : ∀ id, first.roles.backend.identifier (.str role.id) = .ok (some id) →
      (first.roles.assignmentsTo id).Perm (second.roles.assignmentsTo id))
    (stays : first.roles.StaysPlain role) (otherStays : second.roles.StaysPlain role) :
    Alike catalog fixed within first second (save role) fun _ _ _ => True := by
  refine (alike_saveRole agree isWithin admits otherAdmits held stays otherStays).outcome.bind
    fun saved third fourth advance _ => ?_
  split
  · exact .pure advance.agree trivial
  · exact .ite (.throw advance.agree _) (.throw advance.agree _)

theorem alike_create (covers : first.Covers within given)
    (name slug permissions description isDefault actor : Value) :
    Alike catalog fixed within first second
      (create (.str given) name slug permissions description isDefault actor) fun _ _ _ => True := by
  refine .checking agree fun organization isText => .checking agree fun name _ =>
    .checking agree fun slug _ => .checking agree fun description _ =>
      .checking agree fun isDefault _ => ?_
  have isWithin := covers.within_text isText
  refine (alike_permissionsOf agree _).bind fun permissions third fourth advance _ => ?_
  have agree := advance.agree
  have sameAnswer := agree.roles.isSome_roleBySlug? isWithin slug
  have secondRun := exec_roleBySlug? agree.otherOrderly.unplanned (.str slug) (.str organization)
  rw [← agree.roles.backend] at secondRun
  refine .inquiring agree (exec_roleBySlug? agree.orderly.unplanned _ _) secondRun
    (by simp only [sameAnswer]) (.guarded agree fun _ => ?_)
  refine (alike_newId agree).bind fun id third fourth advance isNew => ?_
  obtain ⟨_, _, isNew, otherIsNew⟩ := isNew
  have agree := advance.agree
  refine Alike.bind (alike_save agree isWithin isNew.admitsRole otherIsNew.admitsRole ?held
    (RoleStore.staysPlain_of_none ?plain) (RoleStore.staysPlain_of_none ?plain))
    fun _ third fourth advance _ => (alike_noteChange advance.agree _ _ _).giving _
  case plain =>
    exact RoleStore.obstacle?_eq_none_iff.2 ⟨rfl, Value.hashable_ofOption description⟩
  case held =>
    intro known identified
    rw [RoleStore.assignmentsTo_of_not_uses (isNew.notRole known identified),
      RoleStore.assignmentsTo_of_not_uses
        (otherIsNew.notRole known (agree.roles.backend ▸ identified))]

theorem alike_list (covers : first.Covers within given) :
    Alike catalog fixed within first second (list (.str given)) fun _ _ _ => True := by
  refine .checking agree fun organization isText => ?_
  have sameRoles := agree.roles.rolesIn agree.orderly.roles agree.otherOrderly.roles
    (covers.within_text isText)
  have secondRun := exec_rolesIn agree.otherOrderly.unplanned (.str organization)
  rw [← sameRoles, ← agree.roles.backend] at secondRun
  exact .reading agree (exec_rolesIn agree.orderly.unplanned _) secondRun fun _ _ =>
    .pure agree trivial

/-- A new slug that another role has is refused alike, whichever role that is. -/
theorem alike_newSlug {role : Role} (member : role ∈ first.roles.roles.values)
    (otherMember : role ∈ second.roles.roles.values) (isHere : role.organization = given)
    (isWithin : within role.organization) (changes : Bindings) :
    Alike catalog fixed within first second (newSlug (.str given) role changes)
      fun _ third fourth => third = first ∧ fourth = second := by
  unfold newSlug
  split
  · exact .pure agree ⟨rfl, rfl⟩
  · refine .checking agree fun slug _ => ?_
    dsimp only
    split
    · rename_i isOther
      have slugApart : slug ≠ role.slug := bne_iff_ne.1 isOther
      -- Which role has the slug may differ, but it is never the one that is changed.
      have isApart {store : RoleStore} (sound : store.Sound) (isStored : role ∈ store.roles.values)
          {other : Role} (found : store.roleBySlug? (.str slug) (.str given) = some other) :
          (other.id != role.id) = true := by
        obtain ⟨isThere, isSlug⟩ := RoleStore.slug_of_roleBySlug? found
        rw [bne_iff_ne]
        intro sameId
        rw [sound.roles.eq_of_key_eq isThere isStored sameId] at isSlug
        exact slugApart isSlug.symm
      have sameAnswer := agree.roles.isSome_roleBySlug? (isHere ▸ isWithin) slug
      have firstRun := exec_roleBySlug? agree.orderly.unplanned (.str slug) (.str given)
      have secondRun := exec_roleBySlug? agree.otherOrderly.unplanned (.str slug) (.str given)
      rw [← agree.roles.backend] at secondRun
      rcases firstFound : first.roles.roleBySlug? (.str slug) (.str given) with _ | other <;>
        rcases secondFound : second.roles.roleBySlug? (.str slug) (.str given) with _ | another <;>
        rw [firstFound] at firstRun sameAnswer <;> rw [secondFound] at secondRun sameAnswer
      · exact .inquiring agree firstRun secondRun rfl (.pure agree ⟨rfl, rfl⟩)
      · cases sameAnswer
      · cases sameAnswer
      · have otherApart := isApart agree.orderly.roles member firstFound
        have anotherApart := isApart agree.otherOrderly.roles otherMember secondFound
        refine .inquiring agree firstRun secondRun ?_
          (.guarded agree fun _ => .pure agree ⟨rfl, rfl⟩)
        dsimp only
        rw [if_pos otherApart, if_pos anotherApart]
    · exact .pure agree ⟨rfl, rfl⟩

/-- The stored role may be saved again, with other contents. -/
theorem alike_save_again {role updated : Role} (member : role ∈ first.roles.roles.values)
    (otherMember : role ∈ second.roles.roles.values) (isWithin : within role.organization)
    (sameId : updated.id = role.id) (sameOrganization : updated.organization = role.organization)
    (isPlain : RoleStore.obstacle? role = none → RoleStore.obstacle? updated = none) :
    Alike catalog fixed within first second (save updated) fun _ _ _ => True := by
  have admits := System.admitsRole_of_mem agree.orderly agree.fresh member isWithin
  have otherAdmits := System.admitsRole_of_mem agree.otherOrderly agree.otherFresh otherMember isWithin
  refine alike_save agree (sameOrganization ▸ isWithin) (sameId ▸ admits) (sameId ▸ otherAdmits)
    (fun id identified => ?_)
    (RoleStore.staysPlain_of_mem member sameId sameOrganization isPlain)
    (RoleStore.staysPlain_of_mem otherMember sameId sameOrganization isPlain)
  rw [sameId] at identified
  rw [(agree.orderly.roles.kept role member).eq identified]
  exact agree.roles.assignments role member isWithin

theorem alike_update (covers : first.Covers within given) (otherCovers : second.Covers within given)
    (id actor : Value) (changes : Bindings) :
    Alike catalog fixed within first second (update (.str given) id actor changes)
      fun _ _ _ => True := by
  refine .checking agree fun _ _ => alike_find agree covers otherCovers id
    fun role member otherMember isHere isWithin => .checking agree fun name _ =>
      .checking agree fun description _ => .checking agree fun isDefault _ => ?_
  have saving {third fourth : System} (agree : System.AgreesOn catalog fixed within third fourth)
      (same : first.SameStores third ∧ second.SameStores fourth)
      (permissions : Option (List String)) : Alike catalog fixed within third fourth (do
        let slug ← newSlug (.str given) role changes
        let updated : Role :=
          { role with
            name := name.getD role.name
            slug := slug.getD role.slug
            permissions := permissions.getD role.permissions
            isDefault := (isDefault.map Value.bool).getD role.isDefault
            description := (description.map Value.ofOption).getD role.description }
        save updated
        noteChange ("Role updated: " ++ id.text ++ " fields=" ++
          Cleaning.changedNames
            (changeable.map fun field => (field, (changes.lookup field).isSome)))
          (.str given) actor
        return updated : Service Role) fun _ _ _ => True := by
    have isThere : role ∈ third.roles.roles.values := same.1.roles ▸ member
    have otherIsThere : role ∈ fourth.roles.roles.values := same.2.roles ▸ otherMember
    refine (alike_newSlug agree isThere otherIsThere isHere isWithin changes).bind
      fun slug _ _ _ unchanged => ?_
    obtain ⟨rfl, rfl⟩ := unchanged
    refine Alike.bind (alike_save_again agree isThere otherIsThere isWithin rfl rfl fun plain => ?_)
      fun _ _ _ advance _ => (alike_noteChange advance.agree _ _ _).giving _
    obtain ⟨isDefaultPlain, descriptionPlain⟩ := RoleStore.obstacle?_eq_none_iff.1 plain
    refine RoleStore.obstacle?_eq_none_iff.2 ⟨?_, ?_⟩
    · cases isDefault with
      | none => exact isDefaultPlain
      | some flag => rfl
    · cases description with
      | none => exact descriptionPlain
      | some text => exact Value.hashable_ofOption text
  dsimp only
  split
  · exact saving agree ⟨⟨rfl, rfl⟩, ⟨rfl, rfl⟩⟩ none
  · rename_i slugs _
    have reading : Alike catalog fixed within first second (some <$> permissionsOf slugs)
        fun _ third fourth => first.SameStores third ∧ second.SameStores fourth :=
      (alike_permissionsOf agree slugs).map fun _ _ _ same => same
    exact reading.bind fun permissions _ _ advance same => saving advance.agree same permissions

theorem alike_delete (covers : first.Covers within given) (otherCovers : second.Covers within given)
    (id actor : Value) :
    Alike catalog fixed within first second (delete (.str given) id actor) fun _ _ _ => True := by
  refine alike_find agree covers otherCovers id fun role member otherMember _ isWithin => ?_
  have keeps := agree.orderly.roles.kept role member
  have sameHolders : first.roles.countHolders (.str role.id) =
      second.roles.countHolders (.str role.id) := by
    rw [RoleStore.countHolders_str keeps, RoleStore.countHolders_str (agree.roles.backend ▸ keeps)]
    exact congrArg Except.ok (agree.roles.assignments role member isWithin).length_eq
  have secondRun := exec_countHolders agree.otherOrderly.unplanned (.str role.id)
  rw [← sameHolders] at secondRun
  refine .reading agree (exec_countHolders agree.orderly.unplanned _) secondRun fun holders _ => ?_
  split
  · exact .orFail agree fun _ _ => trivial
  · exact .throw agree _
  · exact (alike_deleteRole agree keeps (RoleStore.ownsRole_of_mem agree.orderly.roles member isWithin)
      (RoleStore.ownsRole_of_mem agree.otherOrderly.roles otherMember isWithin)).bind
        fun _ _ _ advance _ => (alike_noteChange advance.agree _ _ _).mono fun _ _ _ _ => trivial

/-! ## Assignments -/

theorem alike_answer (changed : Value) (message : String) (actor : Value) :
    Alike catalog fixed within first second (do
      if changed.truthy then noteChange message (.str given) actor
      return changed) fun _ _ _ => True :=
  .ite ((alike_noteChange agree message _ actor).giving changed) (.pure agree trivial)

theorem alike_assign (covers : first.Covers within given) (otherCovers : second.Covers within given)
    (user id actor : Value) :
    Alike catalog fixed within first second (assign (.str given) user id actor)
      fun _ _ _ => True :=
  .checking agree fun user _ => alike_find agree covers otherCovers id
    fun _ member _ _ isWithin => (Service.alike_assign agree member isWithin (.str user)).bind
      fun changed _ _ advance _ => alike_answer advance.agree changed _ _

theorem alike_revoke (covers : first.Covers within given) (otherCovers : second.Covers within given)
    (user id actor : Value) :
    Alike catalog fixed within first second (revoke (.str given) user id actor)
      fun _ _ _ => True :=
  .checking agree fun user _ => alike_find agree covers otherCovers id
    fun _ member _ _ isWithin => (Service.alike_revoke agree member isWithin (.str user)).bind
      fun changed _ _ advance _ => alike_answer advance.agree changed _ _

end

end RoleAdministration

end Authorization
