import Authorization.Proofs.Tenancy.Systems

/-!
# Stores at work for organizations

What an operation of a store takes to come to the same in systems that agree: the records it names are
those of the organizations, and the identifiers it brings into use are none that are still to be drawn.
-/

namespace Authorization

variable {catalog : RuleCatalog} {fixed : Keyed String PolicyChain} {within : String → Prop}
  {first second third fourth system after : System}

namespace System

/-- A policy may be saved under an identifier: no other organization has one there, and it is not drawn
later. -/
structure AdmitsPolicy (within : String → Prop) (system : System) (id : String) : Prop where
  owns : ∀ known, system.policies.backend.identifier (.str id) = .ok (some known) →
    system.policies.OwnsPolicy within known
  isPast : system.ids.IsPast system.policies.backend id

/-- A rule may be saved: no other organization has its policy or a rule under its identifier, which is not
drawn later. -/
structure AdmitsRule (within : String → Prop) (system : System) (rule : PolicyRule) : Prop where
  grants : system.policies.Grants within rule
  isPast : system.ids.IsPast system.policies.backend rule.id

/-- A role may be saved under an identifier: no other organization has one there, and it is not drawn
later. -/
structure AdmitsRole (within : String → Prop) (system : System) (id : String) : Prop where
  owns : ∀ known, system.roles.backend.identifier (.str id) = .ok (some known) →
    system.roles.OwnsRole within known
  isPast : system.ids.IsPast system.roles.backend id

theorem AdmitsPolicy.of_spares {id : String} (admits : system.AdmitsPolicy within id)
    (spares : system.Spares within after) : after.AdmitsPolicy within id := by
  refine ⟨fun known identified => ?_, ?_⟩
  · rw [← spares.policies.backend] at identified
    exact (admits.owns known identified).of_agrees spares.policies
  · rw [← spares.policies.backend]
    exact admits.isPast.later spares.spell spares.drawn

theorem AdmitsRule.of_spares {rule : PolicyRule} (admits : system.AdmitsRule within rule)
    (spares : system.Spares within after) : after.AdmitsRule within rule := by
  refine ⟨admits.grants.of_agrees spares.policies, ?_⟩
  rw [← spares.policies.backend]
  exact admits.isPast.later spares.spell spares.drawn

theorem admitsPolicy_of_mem [Host] (orderly : system.Orderly catalog fixed) (fresh : system.FreshIds)
    {policy : Policy} (member : policy ∈ system.policies.policies.values)
    (isWithin : within policy.organization) : system.AdmitsPolicy within policy.id := by
  have keeps := orderly.policies.keptPolicies policy member
  refine ⟨fun known identified => ?_, fresh.policies.isPast_of_used (.inl ⟨policy, member, rfl⟩) keeps⟩
  rw [keeps.eq identified]
  exact PolicyStore.ownsPolicy_of_mem orderly.policies member isWithin

namespace AgreesOn

variable [Host] (agree : AgreesOn catalog fixed within first second) {policy : Policy}
  (member : policy ∈ first.policies.policies.values) (isWithin : within policy.organization)

include agree member isWithin

theorem ownsPolicy : first.policies.OwnsPolicy within policy.id ∧
    second.policies.OwnsPolicy within policy.id := by
  have otherMember := (agree.policies.policies policy isWithin).1 member
  exact ⟨PolicyStore.ownsPolicy_of_mem agree.orderly.policies member isWithin,
    PolicyStore.ownsPolicy_of_mem agree.otherOrderly.policies otherMember isWithin⟩

theorem admitsPolicy : first.AdmitsPolicy within policy.id ∧ second.AdmitsPolicy within policy.id := by
  have otherMember := (agree.policies.policies policy isWithin).1 member
  exact ⟨admitsPolicy_of_mem agree.orderly agree.fresh member isWithin,
    admitsPolicy_of_mem agree.otherOrderly agree.otherFresh otherMember isWithin⟩

end AgreesOn

theorem admitsRule_of_mem [Host] (orderly : system.Orderly catalog fixed) (fresh : system.FreshIds)
    {rule changed : PolicyRule} (member : rule ∈ system.policies.rules.values)
    (owns : system.policies.OwnsPolicy within rule.policyId) (sameId : changed.id = rule.id)
    (samePolicy : changed.policyId = rule.policyId) : system.AdmitsRule within changed := by
  have keeps := orderly.policies.keptRules rule member
  obtain ⟨policy, policyMember, isOwner⟩ := orderly.policies.owned rule member
  have keepsPolicy : system.policies.backend.Keeps rule.policyId :=
    isOwner ▸ orderly.policies.keptPolicies policy policyMember
  refine ⟨⟨fun known identified => ?_, fun known identified => ?_⟩, ?_⟩
  · rw [samePolicy] at identified
    rw [keepsPolicy.eq identified]
    exact owns
  · rw [sameId] at identified
    rw [keeps.eq identified]
    exact PolicyStore.ownsRule_of_mem orderly.policies member owns
  · rw [sameId]
    exact fresh.policies.isPast_of_used (.inr ⟨rule, member, rfl⟩) keeps

theorem admitsRole_of_mem [Host] (orderly : system.Orderly catalog fixed) (fresh : system.FreshIds)
    {role : Role} (member : role ∈ system.roles.roles.values) (isWithin : within role.organization) :
    system.AdmitsRole within role.id := by
  have keeps := orderly.roles.kept role member
  refine ⟨fun known identified => ?_, fresh.roles.isPast_of_used (.inl ⟨role, member, rfl⟩) keeps⟩
  rw [keeps.eq identified]
  exact RoleStore.ownsRole_of_mem orderly.roles member isWithin

end System

namespace Service

theorem IsNew.admitsPolicy {id : String} (isNew : IsNew system id) :
    system.AdmitsPolicy within id :=
  ⟨fun known identified => PolicyStore.ownsPolicy_of_not_uses (isNew.notPolicy known identified),
    isNew.pastPolicies⟩

theorem IsNew.admitsRole {id : String} (isNew : IsNew system id) : system.AdmitsRole within id :=
  ⟨fun known identified => RoleStore.ownsRole_of_not_uses (isNew.notRole known identified),
    isNew.pastRoles⟩

theorem IsNew.admitsRule {rule : PolicyRule} (isNew : IsNew system rule.id)
    (ownsPolicy : ∀ known, system.policies.backend.identifier (.str rule.policyId) = .ok (some known) →
      system.policies.OwnsPolicy within known) : system.AdmitsRule within rule :=
  ⟨⟨ownsPolicy, fun known identified =>
    PolicyStore.ownsRule_of_not_uses (isNew.notPolicy known identified)⟩, isNew.pastPolicies⟩

/-! ## Changes of the policy store -/

/-- A change of the policy store of one system: the others are spared, and new identifiers stay fresh. -/
structure SparesPolicies (within : String → Prop) (system : System) (next : PolicyStore) : Prop where
  others : system.policies.AgreesOn (fun organization => ¬within organization) next
  avoids : system.ids.Avoids next.backend next.Uses

/-- After an announced change a system has the new policy store, and is otherwise as it was. -/
theorem spares_of_told [Host] (fresh : system.FreshIds) {next : PolicyStore}
    (told : System.Told catalog fixed { system with policies := next } after)
    (spares : SparesPolicies within system next) :
    system.Spares within after ∧ after.FreshIds := by
  have policies : after.policies = next := told.policies
  have roles : after.roles = system.roles := by rw [told.others]
  have ids : after.ids = system.ids := by rw [told.others]
  have settings : after.settings = system.settings := by rw [told.others]
  refine ⟨⟨policies ▸ spares.others, roles ▸ .refl _, fun _ plain => roles ▸ plain, settings,
    congrArg IdSource.spell ids, (congrArg IdSource.drawn ids).ge⟩, ⟨?_, ?_⟩⟩
  · rw [ids, policies]
    exact spares.avoids
  · rw [ids, roles]
    exact fresh.roles

theorem advance_of_changed [Host] (agree : System.AgreesOn catalog fixed within first second)
    {made other : PolicyStore}
    (changed : System.Changed catalog fixed first (.ok made) third)
    (otherChanged : System.Changed catalog fixed second (.ok other) fourth)
    (agrees : made.AgreesOn within other) (spares : SparesPolicies within first made)
    (otherSpares : SparesPolicies within second other) :
    System.Advance catalog fixed within first second third fourth := by
  obtain _ | ⟨told, orderly⟩ := changed
  obtain _ | ⟨otherTold, otherOrderly⟩ := otherChanged
  obtain ⟨sparesFirst, freshThird⟩ := spares_of_told agree.fresh told spares
  obtain ⟨sparesSecond, freshFourth⟩ := spares_of_told agree.otherFresh otherTold otherSpares
  refine ⟨⟨orderly, otherOrderly, freshThird, freshFourth, ?_, ?_, ?_, ?_⟩, sparesFirst,
    sparesSecond⟩
  · rw [told.others, otherTold.others]
    exact agree.ids
  · rw [told.sameCursors, otherTold.sameCursors]
    exact agree.cursors
  · rw [told.others, otherTold.others]
    exact agree.roles
  · rw [told.policies, otherTold.policies]
    exact agrees

/-- An operation that ends in a change of the policy store comes to the same when the changes do. -/
theorem alike_of_changed [Host] {α : Type} {action : Service Value} {middle otherMiddle : System}
    (advance : System.Advance catalog fixed within first second middle otherMiddle)
    {made other : Except Error α} {policiesOf : α → PolicyStore} {valueOf : α → Value}
    (firstRun : exec action first = (made.map valueOf, third))
    (changed : System.Changed catalog fixed middle (made.map policiesOf) third)
    (secondRun : exec action second = (other.map valueOf, fourth))
    (otherChanged : System.Changed catalog fixed otherMiddle (other.map policiesOf) fourth)
    (related : Except.Related (fun left right =>
      (policiesOf left).AgreesOn within (policiesOf right) ∧ valueOf left = valueOf right) made other)
    (spares : ∀ next, made = .ok next → SparesPolicies within middle (policiesOf next))
    (otherSpares : ∀ next, other = .ok next →
      SparesPolicies within otherMiddle (policiesOf next)) :
    Alike catalog fixed within first second action fun _ _ _ => True := by
  cases related with
  | error error =>
      cases changed
      cases otherChanged
      exact .of_eq firstRun secondRun advance fun _ _ => trivial
  | ok related =>
      obtain ⟨agrees, sameValue⟩ := related
      dsimp only [Except.map] at firstRun secondRun changed otherChanged
      rw [← sameValue] at secondRun
      have changing := advance_of_changed advance.agree changed otherChanged agrees (spares _ rfl)
        (otherSpares _ rfl)
      exact .of_eq firstRun secondRun (advance.trans changing) fun _ _ => trivial

theorem map_self {ε α : Type} (result : Except ε α) : result.map (fun value => value) = result := by
  cases result <;> rfl

theorem sparesPolicies_of_savePolicy [Host] (orderly : system.Orderly catalog fixed)
    (fresh : system.FreshIds) {policy : Policy} (isWithin : within policy.organization)
    (admits : system.AdmitsPolicy within policy.id) {next : PolicyStore}
    (saved : system.policies.savePolicy policy = .ok next) :
    SparesPolicies within system next := by
  have others := PolicyStore.savePolicy_spares orderly.policies isWithin admits.owns saved
  refine ⟨others, ?_⟩
  rw [← others.backend]
  exact fresh.policies.mono [policy.id] (by simpa using admits.isPast) fun id uses => by
    simpa using PolicyStore.uses_of_savePolicy orderly.policies saved uses

theorem alike_savePolicy [Host] (agree : System.AgreesOn catalog fixed within first second)
    {policy : Policy} (isWithin : within policy.organization)
    (admits : first.AdmitsPolicy within policy.id)
    (otherAdmits : second.AdmitsPolicy within policy.id) :
    Alike catalog fixed within first second (savePolicy policy) fun _ _ _ => True := by
  obtain ⟨third, firstRun, changed⟩ := exec_savePolicy agree.orderly policy
  obtain ⟨fourth, secondRun, otherChanged⟩ := exec_savePolicy agree.otherOrderly policy
  refine alike_of_changed (.refl agree) firstRun (map_self _ ▸ changed) secondRun
    (map_self _ ▸ otherChanged) ?_
    (fun next => sparesPolicies_of_savePolicy agree.orderly agree.fresh isWithin admits)
    (fun next => sparesPolicies_of_savePolicy agree.otherOrderly agree.otherFresh isWithin
      otherAdmits)
  exact (agree.policies.savePolicy agree.orderly.policies agree.otherOrderly.policies isWithin
    fun id identified => ⟨admits.owns id identified,
      otherAdmits.owns id (agree.policies.backend ▸ identified)⟩).mono fun agrees => ⟨agrees, rfl⟩

theorem sparesPolicies_of_deletePolicy [Host] (orderly : system.Orderly catalog fixed)
    (fresh : system.FreshIds) {id : String} (admits : system.AdmitsPolicy within id)
    {next : PolicyStore × Bool} (deleted : system.policies.deletePolicy (.str id) = .ok next) :
    SparesPolicies within system next.1 := by
  have others := PolicyStore.deletePolicy_spares orderly.policies admits.owns deleted
  refine ⟨others, ?_⟩
  rw [← others.backend]
  exact fresh.policies.mono [] (List.forall_mem_nil _) fun id uses =>
    .inl (PolicyStore.uses_of_deletePolicy orderly.policies deleted uses)

theorem alike_deletePolicy [Host] (agree : System.AgreesOn catalog fixed within first second)
    {id : String} (admits : first.AdmitsPolicy within id)
    (otherAdmits : second.AdmitsPolicy within id) :
    Alike catalog fixed within first second (deletePolicy (.str id)) fun _ _ _ => True := by
  obtain ⟨third, firstRun, changed⟩ := exec_deletePolicy agree.orderly (.str id)
  obtain ⟨fourth, secondRun, otherChanged⟩ := exec_deletePolicy agree.otherOrderly (.str id)
  refine alike_of_changed (.refl agree) firstRun changed secondRun otherChanged ?_
    (fun next => sparesPolicies_of_deletePolicy agree.orderly agree.fresh admits)
    (fun next => sparesPolicies_of_deletePolicy agree.otherOrderly agree.otherFresh otherAdmits)
  exact (agree.policies.deletePolicy agree.orderly.policies agree.otherOrderly.policies
    fun known identified => ⟨admits.owns known identified,
      otherAdmits.owns known (agree.policies.backend ▸ identified)⟩).mono
        fun ⟨agrees, same⟩ => ⟨agrees, congrArg Value.bool same⟩

theorem sparesPolicies_of_deleteRule [Host] (orderly : system.Orderly catalog fixed)
    (fresh : system.FreshIds) {id : String} (keeps : system.policies.backend.Keeps id)
    (owns : system.policies.OwnsRule within id) {next : PolicyStore × Bool}
    (deleted : system.policies.deleteRule (.str id) = .ok next) :
    SparesPolicies within system next.1 := by
  have others := PolicyStore.deleteRule_spares orderly.policies keeps owns deleted
  refine ⟨others, ?_⟩
  rw [← others.backend]
  exact fresh.policies.mono [] (List.forall_mem_nil _) fun id uses =>
    .inl (PolicyStore.uses_of_deleteRule orderly.policies deleted uses)

theorem alike_deleteRule [Host] (agree : System.AgreesOn catalog fixed within first second)
    {id : String} (keeps : first.policies.backend.Keeps id)
    (owns : first.policies.OwnsRule within id) (otherOwns : second.policies.OwnsRule within id) :
    Alike catalog fixed within first second (deleteRule (.str id)) fun _ _ _ => True := by
  have otherKeeps : second.policies.backend.Keeps id := agree.policies.backend ▸ keeps
  obtain ⟨third, firstRun, changed⟩ := exec_deleteRule agree.orderly (.str id)
  obtain ⟨fourth, secondRun, otherChanged⟩ := exec_deleteRule agree.otherOrderly (.str id)
  refine alike_of_changed (.refl agree) firstRun changed secondRun otherChanged ?_
    (fun next => sparesPolicies_of_deleteRule agree.orderly agree.fresh keeps owns)
    (fun next => sparesPolicies_of_deleteRule agree.otherOrderly agree.otherFresh otherKeeps
      otherOwns)
  exact (agree.policies.deleteRule agree.orderly.policies agree.otherOrderly.policies keeps owns
    otherOwns).mono fun ⟨agrees, same⟩ => ⟨agrees, congrArg Value.bool same⟩

theorem sparesPolicies_of_saveRules [Host] (orderly : system.Orderly catalog fixed)
    (fresh : system.FreshIds) {rules : List PolicyRule}
    (admits : ∀ rule ∈ rules, system.AdmitsRule within rule) {next : PolicyStore}
    (saved : system.policies.saveRules rules = .ok next) : SparesPolicies within system next := by
  have others := PolicyStore.saveRules_spares orderly.policies
    (fun rule member => (admits rule member).grants) saved
  refine ⟨others, ?_⟩
  rw [← others.backend]
  refine fresh.policies.mono (rules.map PolicyRule.id) ?_ fun id uses => ?_
  · intro text isText
    obtain ⟨rule, member, rfl⟩ := List.mem_map.1 isText
    exact (admits rule member).isPast
  · refine (PolicyStore.uses_of_saveRules orderly.policies saved uses).imp_right ?_
    rintro ⟨rule, member, names⟩
    exact ⟨rule.id, List.mem_map_of_mem member, names⟩

theorem alike_saveRules [Host] {make : Service (List PolicyRule)}
    (unplanned : first.plans = []) (otherUnplanned : second.plans = [])
    (making : Alike catalog fixed within first second make fun rules third fourth =>
      ∀ rule ∈ rules, third.AdmitsRule within rule ∧ fourth.AdmitsRule within rule) :
    Alike catalog fixed within first second (saveRules make) fun _ _ _ => True := by
  obtain ⟨same, advance, isPost⟩ := making
  revert same advance isPost
  rcases firstMade : exec make first with ⟨firstResult, firstMiddle⟩
  rcases secondMade : exec make second with ⟨secondResult, secondMiddle⟩
  rintro same advance isPost
  cases same
  cases firstResult with
  | error error =>
      exact .of_eq (exec_saveRules_of_error unplanned firstMade)
        (exec_saveRules_of_error otherUnplanned secondMade) advance nofun
  | ok rules =>
      have admits := isPost rules rfl
      have agree := advance.agree
      dsimp only at admits agree
      obtain ⟨third, firstRun, changed⟩ := exec_saveRules unplanned firstMade agree.orderly
      obtain ⟨fourth, secondRun, otherChanged⟩ :=
        exec_saveRules otherUnplanned secondMade agree.otherOrderly
      refine alike_of_changed advance firstRun (map_self _ ▸ changed) secondRun
        (map_self _ ▸ otherChanged) ?_
        (fun next => sparesPolicies_of_saveRules agree.orderly agree.fresh fun rule member =>
          (admits rule member).1)
        (fun next => sparesPolicies_of_saveRules agree.otherOrderly agree.otherFresh
          fun rule member => (admits rule member).2)
      exact (agree.policies.saveRules agree.orderly.policies agree.otherOrderly.policies
        fun rule member => ⟨(admits rule member).1.grants, (admits rule member).2.grants⟩).mono
          fun agrees => ⟨agrees, rfl⟩

/-! ## Changes of the role store -/

/-- A change of the role store of one system: the others are spared, and new identifiers stay fresh. -/
structure SparesRoles (within : String → Prop) (system : System) (next : RoleStore) : Prop where
  sound : next.Sound
  others : system.roles.AgreesOn (fun organization => ¬within organization) next
  plain : ∀ among, system.roles.Plain among → next.Plain among
  avoids : system.ids.Avoids next.backend next.Uses

theorem spares_of_roles (fresh : system.FreshIds) {next : RoleStore}
    (spares : SparesRoles within system next) :
    system.Spares within { system with roles := next } ∧
      System.FreshIds { system with roles := next } :=
  ⟨⟨.refl _, spares.others, spares.plain, rfl, rfl, le_rfl⟩, fresh.policies, spares.avoids⟩

/-- What a change of the role store answers, and the system with the store that it leaves. -/
def answered {α : Type} (system : System) :
    Except Error (RoleStore × α) → Except Error α × System
  | .ok (roles, result) => (.ok result, { system with roles })
  | .error error => (.error error, system)

theorem exec_changeRoles {α : Type} (change : RoleStore → Except Error (RoleStore × α))
    (system : System) :
    exec (changeRoles change) system = answered system (change system.roles) := by
  unfold changeRoles
  rw [exec_get_bind, exec_bind, exec_orFail]
  rcases change system.roles with error | ⟨roles, result⟩ <;> rfl

/-- An operation that changes the role store comes to the same when the changes do. -/
theorem alike_of_answered [Host] {α : Type} {action : Service α}
    (agree : System.AgreesOn catalog fixed within first second)
    {made other : Except Error (RoleStore × α)} (firstRun : exec action first = answered first made)
    (secondRun : exec action second = answered second other)
    (related : Except.Related (fun left right => left.1.AgreesOn within right.1 ∧ left.2 = right.2)
      made other)
    (spares : ∀ next, made = .ok next → SparesRoles within first next.1)
    (otherSpares : ∀ next, other = .ok next → SparesRoles within second next.1) :
    Alike catalog fixed within first second action fun _ _ _ => True := by
  cases related with
  | error error => exact .of_eq firstRun secondRun (.refl agree) nofun
  | @ok left right related =>
      obtain ⟨agrees, sameAnswer⟩ := related
      have sparing := spares left rfl
      have otherSparing := otherSpares right rfl
      obtain ⟨sparesFirst, freshThird⟩ := spares_of_roles agree.fresh sparing
      obtain ⟨sparesSecond, freshFourth⟩ := spares_of_roles agree.otherFresh otherSparing
      dsimp only [answered] at firstRun secondRun
      rw [← sameAnswer] at secondRun
      exact .of_eq firstRun secondRun ⟨⟨agree.orderly.withRoles sparing.sound,
        agree.otherOrderly.withRoles otherSparing.sound, freshThird, freshFourth, agree.ids,
        agree.cursors, agrees, agree.policies⟩, sparesFirst, sparesSecond⟩ fun _ _ => trivial

/-- With nothing planned an operation is its own work. -/
theorem alike_performedValue [Host] {α : Type} {action : Service α} {operation : StoreOperation}
    {write : α → Value} {post : α → System → System → Prop} (unplanned : first.plans = [])
    (otherUnplanned : second.plans = [])
    (alike : Alike catalog fixed within first second action post) :
    Alike catalog fixed within first second (performedValue operation write action)
      fun _ _ _ => True := by
  refine ⟨?_, ?_, fun _ _ => trivial⟩
  · rw [exec_performedValue unplanned, exec_performedValue otherUnplanned, alike.same]
  · rw [exec_performedValue unplanned, exec_performedValue otherUnplanned]
    exact alike.advance

theorem sparesRoles_of_saveRole [Host] (orderly : system.Orderly catalog fixed) (fresh : system.FreshIds)
    {role : Role} (isWithin : within role.organization) (admits : system.AdmitsRole within role.id)
    (stays : system.roles.StaysPlain role) {next : RoleStore}
    (saved : system.roles.saveRole role = .ok next) : SparesRoles within system next := by
  have others := RoleStore.saveRole_spares orderly.roles isWithin admits.owns saved
  refine ⟨orderly.roles.saveRole saved, others, fun _ plain =>
    RoleStore.plain_of_saveRole orderly.roles plain stays saved, ?_⟩
  rw [← others.backend]
  exact fresh.roles.mono [role.id] (by simpa using admits.isPast) fun id uses => by
    simpa using RoleStore.uses_of_saveRole orderly.roles saved uses

theorem alike_saveRole [Host] (agree : System.AgreesOn catalog fixed within first second) {role : Role}
    (isWithin : within role.organization) (admits : first.AdmitsRole within role.id)
    (otherAdmits : second.AdmitsRole within role.id)
    (held : ∀ id, first.roles.backend.identifier (.str role.id) = .ok (some id) →
      (first.roles.assignmentsTo id).Perm (second.roles.assignmentsTo id))
    (stays : first.roles.StaysPlain role) (otherStays : second.roles.StaysPlain role) :
    Alike catalog fixed within first second (saveRole role) fun _ _ _ => True := by
  refine alike_performedValue agree.orderly.unplanned agree.otherOrderly.unplanned
    (alike_of_answered agree (exec_changeRoles _ first) (exec_changeRoles _ second) ?_
      (fun next saved => ?_) (fun next saved => ?_))
  · exact (agree.roles.saveRole agree.orderly.roles agree.otherOrderly.roles isWithin held).map
      fun agrees => ⟨agrees, rfl⟩
  · obtain ⟨_, savedOk, rfl⟩ := Except.map_eq_ok_iff.1 saved
    exact sparesRoles_of_saveRole agree.orderly agree.fresh isWithin admits stays savedOk
  · obtain ⟨_, savedOk, rfl⟩ := Except.map_eq_ok_iff.1 saved
    exact sparesRoles_of_saveRole agree.otherOrderly agree.otherFresh isWithin otherAdmits
      otherStays savedOk

theorem sparesRoles_of_deleteRole [Host] (orderly : system.Orderly catalog fixed)
    (fresh : system.FreshIds) {id : String} (keeps : system.roles.backend.Keeps id)
    (owns : system.roles.OwnsRole within id) {next : RoleStore × Bool}
    (deleted : system.roles.deleteRole (.str id) = .ok next) :
    SparesRoles within system next.1 := by
  have others := RoleStore.deleteRole_spares orderly.roles keeps owns deleted
  refine ⟨orderly.roles.deleteRole deleted, others, fun _ plain =>
    RoleStore.plain_of_deleteRole orderly.roles plain deleted, ?_⟩
  rw [← others.backend]
  exact fresh.roles.mono [] (List.forall_mem_nil _) fun id uses =>
    .inl (RoleStore.uses_of_deleteRole orderly.roles deleted uses)

theorem alike_deleteRole [Host] (agree : System.AgreesOn catalog fixed within first second)
    {id : String} (keeps : first.roles.backend.Keeps id) (owns : first.roles.OwnsRole within id)
    (otherOwns : second.roles.OwnsRole within id) :
    Alike catalog fixed within first second (deleteRole (.str id)) fun _ _ _ => True := by
  have otherKeeps : second.roles.backend.Keeps id := agree.roles.backend ▸ keeps
  exact alike_performedValue agree.orderly.unplanned agree.otherOrderly.unplanned
    (alike_of_answered agree (exec_changeRoles _ first) (exec_changeRoles _ second)
      (agree.roles.deleteRole agree.orderly.roles agree.otherOrderly.roles keeps owns otherOwns)
      (fun next => sparesRoles_of_deleteRole agree.orderly agree.fresh keeps owns)
      (fun next => sparesRoles_of_deleteRole agree.otherOrderly agree.otherFresh otherKeeps
        otherOwns))

theorem plain_of_roles {store next : RoleStore} (sameBackend : next.backend = store.backend)
    (sameRoles : next.roles = store.roles) (among : String → String → Prop)
    (plain : store.Plain among) : next.Plain among := by
  intro isMemory role member
  rw [sameRoles] at member
  exact plain (sameBackend ▸ isMemory) role member

theorem sparesRoles_of_assign [Host] (orderly : system.Orderly catalog fixed) (fresh : system.FreshIds)
    {role : Role} (member : role ∈ system.roles.roles.values) (isWithin : within role.organization)
    {user : Value} {next : RoleStore × Bool}
    (assigned : system.roles.assign user (.str role.id) = .ok next) :
    SparesRoles within system next.1 := by
  have keeps := orderly.roles.kept role member
  have others := RoleStore.assign_spares keeps
    (RoleStore.ownsRole_of_mem orderly.roles member isWithin) assigned
  obtain ⟨sameBackend, sameRoles⟩ := RoleStore.roles_of_assign assigned
  refine ⟨orderly.roles.assign assigned
    (RoleStore.consistent_of_assign orderly.roles member assigned), others,
    plain_of_roles sameBackend sameRoles, ?_⟩
  rw [← others.backend]
  exact fresh.roles.mono [] (List.forall_mem_nil _) fun id uses =>
    .inl (RoleStore.uses_of_assign keeps (.inl ⟨role, member, rfl⟩) assigned uses)

/-- An assignment to a stored role is what the store makes of it. -/
theorem exec_assign (sound : system.roles.Sound) {role : Role}
    (member : role ∈ system.roles.roles.values) (user : Value) :
    exec (do
      let isOpen := !(← get).savepoints.isEmpty
      changeRoles fun roles => do
        let (next, isNew) ← roles.assign user (.str role.id)
        if !isOpen && !next.isConsistent then fault .integrity "the role does not exist"
        else return (next, isNew)) system =
      answered system (system.roles.assign user (.str role.id)) := by
  rw [exec_get_bind]
  dsimp only
  rw [exec_changeRoles]
  rcases assigned : system.roles.assign user (.str role.id) with error | ⟨next, isNew⟩
  · rw [Except.error_bind]
  · rw [Except.ok_bind]
    dsimp only
    rw [RoleStore.consistent_of_assign sound member assigned, Bool.not_true, Bool.and_false]
    rfl

theorem alike_assign [Host] (agree : System.AgreesOn catalog fixed within first second) {role : Role}
    (member : role ∈ first.roles.roles.values) (isWithin : within role.organization)
    (user : Value) :
    Alike catalog fixed within first second (assign user (.str role.id)) fun _ _ _ => True := by
  have otherMember := (agree.roles.roles role isWithin).1 member
  exact alike_performedValue agree.orderly.unplanned agree.otherOrderly.unplanned
    (alike_of_answered agree (exec_assign agree.orderly.roles member user)
      (exec_assign agree.otherOrderly.roles otherMember user)
      (agree.roles.assign (agree.orderly.roles.kept role member)
        (agree.roles.assignments role member isWithin) user)
      (fun next => sparesRoles_of_assign agree.orderly agree.fresh member isWithin)
      (fun next => sparesRoles_of_assign agree.otherOrderly agree.otherFresh otherMember isWithin))

theorem sparesRoles_of_revoke [Host] (orderly : system.Orderly catalog fixed) (fresh : system.FreshIds)
    {role : Role} (member : role ∈ system.roles.roles.values) (isWithin : within role.organization)
    {user : Value} {next : RoleStore × Bool}
    (revoked : system.roles.revoke user (.str role.id) = .ok next) :
    SparesRoles within system next.1 := by
  have others := RoleStore.revoke_spares (orderly.roles.kept role member)
    (RoleStore.ownsRole_of_mem orderly.roles member isWithin) revoked
  obtain ⟨sameBackend, sameRoles⟩ := RoleStore.roles_of_revoke revoked
  refine ⟨orderly.roles.revoke revoked, others, plain_of_roles sameBackend sameRoles, ?_⟩
  rw [← others.backend]
  exact fresh.roles.mono [] (List.forall_mem_nil _) fun id uses =>
    .inl (RoleStore.uses_of_revoke revoked uses)

theorem alike_revoke [Host] (agree : System.AgreesOn catalog fixed within first second) {role : Role}
    (member : role ∈ first.roles.roles.values) (isWithin : within role.organization)
    (user : Value) :
    Alike catalog fixed within first second (revoke user (.str role.id)) fun _ _ _ => True := by
  have otherMember := (agree.roles.roles role isWithin).1 member
  exact alike_performedValue agree.orderly.unplanned agree.otherOrderly.unplanned
    (alike_of_answered agree (exec_changeRoles _ first) (exec_changeRoles _ second)
      (agree.roles.revoke (agree.orderly.roles.kept role member)
        (agree.roles.assignments role member isWithin) user)
      (fun next => sparesRoles_of_revoke agree.orderly agree.fresh member isWithin)
      (fun next => sparesRoles_of_revoke agree.otherOrderly agree.otherFresh otherMember isWithin))

end Service

end Authorization
