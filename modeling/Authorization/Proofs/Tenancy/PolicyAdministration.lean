import Authorization.Administration.Policies
import Authorization.Proofs.Administration.Upkeep
import Authorization.Proofs.Tenancy.RoleAdministration

/-!
# Administration of policies and organizations

What an administrator of an organization asks for about policies and their rules comes to the same in
systems that agree on the organization, as it is given and as it is trimmed.
-/

namespace Authorization

open Service

variable {α : Type} {catalog : RuleCatalog} {fixed : Keyed String PolicyChain}
  {within : String → Prop} {first second system : System} {given : String}

namespace PolicyAdministration

theorem exec_find (unplanned : system.plans = []) (given : String) (id : Value) :
    exec (find (.str given) id) system = (system.policies.found given id, system) :=
  exec_finding (exec_policy? unplanned id) rfl fun policy =>
    exec_ofOrganization policy _ given policy.organization

/-- The policies that are listed are those of the trimmed organization. -/
theorem exec_list (unplanned : system.plans = []) (given : String) :
    exec (list (.str given)) system =
      ((Cleaning.text "organization_id" (.str given) >>= fun organization =>
        system.policies.backend.asks [.str organization]).map fun _ =>
        sortedBy (fun policy => [policy.key, policy.id])
          (system.policies.policiesIn (.str (Text.trim given))), system) := by
  unfold list
  rw [exec_bind, exec_orFail]
  rcases isText : Cleaning.text "organization_id" (.str given) with error | organization
  · rfl
  · obtain ⟨_, same, rfl⟩ := Cleaning.text_eq_ok isText
    cases same
    dsimp only
    rw [exec_bind, exec_policiesIn unplanned, Except.ok_bind]
    cases system.policies.backend.asks [.str (Text.trim given)] <;> rfl

section

variable [Host] (agree : System.AgreesOn catalog fixed within first second)

include agree

/-- What follows a policy that is found comes to the same when it does for every stored policy of the
organization. -/
theorem alike_find (covers : first.Covers within given) (otherCovers : second.Covers within given)
    (id : Value) {next : Policy → Service α} {post : α → System → System → Prop}
    (rest : ∀ policy ∈ first.policies.policies.values, within policy.organization →
      Alike catalog fixed within first second (next policy) post) :
    Alike catalog fixed within first second (find (.str given) id >>= next) post := by
  have sameFound := agree.policies.found agree.orderly.policies agree.otherOrderly.policies
    covers.policies otherCovers.policies id
  have secondRun := exec_find agree.otherOrderly.unplanned given id
  rw [← sameFound] at secondRun
  refine .reading agree (exec_find agree.orderly.unplanned given id) secondRun
    fun policy isFound => ?_
  obtain ⟨member, rfl⟩ := PolicyStore.found_eq_ok isFound
  have isWithin := covers.policies policy member rfl
  exact rest policy member isWithin

theorem alike_policyByKey? (covers : first.Covers within given)
    (otherCovers : second.Covers within given) (key : Value) {next : Option Policy → Service α}
    {post : α → System → System → Prop}
    (rest : ∀ found, Alike catalog fixed within first second (next found) post) :
    Alike catalog fixed within first second (policyByKey? key (.str given) >>= next) post := by
  have sameFound := agree.policies.policyByKey? agree.orderly.policies agree.otherOrderly.policies key
    covers.policies otherCovers.policies
  have secondRun := exec_policyByKey? agree.otherOrderly.unplanned key (.str given)
  rw [← sameFound, ← agree.policies.backend] at secondRun
  exact .reading agree (exec_policyByKey? agree.orderly.unplanned key _) secondRun
    fun found _ => rest found

theorem alike_noteChange (message : String) (organization actor : Value) :
    Alike catalog fixed within first second (noteChange message organization actor)
      fun _ _ _ => True :=
  .checking agree fun _ _ => (alike_note agree _ _ _).mono fun _ _ _ _ => trivial

/-! ## Policies -/

theorem alike_save {policy : Policy} (isWithin : within policy.organization)
    (admits : first.AdmitsPolicy within policy.id)
    (otherAdmits : second.AdmitsPolicy within policy.id) :
    Alike catalog fixed within first second (save policy) fun _ _ _ => True := by
  refine (alike_savePolicy agree isWithin admits otherAdmits).outcome.bind
    fun saved third fourth advance _ => ?_
  split
  · exact .pure advance.agree trivial
  · exact .ite (.throw advance.agree _) (.throw advance.agree _)

/-- A new policy may be saved again, or deleted. -/
theorem alike_create (covers : first.Covers within given)
    (name key description active actor : Value) :
    Alike catalog fixed within first second
      (create (.str given) name key description active actor) fun policy third fourth =>
        third.AdmitsPolicy within policy.id ∧ fourth.AdmitsPolicy within policy.id := by
  refine .checking agree fun organization isText => .checking agree fun name _ =>
    .checking agree fun key _ => .checking agree fun description _ =>
      .checking agree fun active _ => ?_
  have isWithin := covers.within_text isText
  have sameFound := agree.policies.policyByKey? agree.orderly.policies agree.otherOrderly.policies
    (.str key) (fun _ _ _ => isWithin) (fun _ _ _ => isWithin)
  have secondRun := exec_policyByKey? agree.otherOrderly.unplanned (.str key) (.str organization)
  rw [← sameFound, ← agree.policies.backend] at secondRun
  refine .reading agree (exec_policyByKey? agree.orderly.unplanned _ _) secondRun
    fun found _ => .guarded agree fun _ => ?_
  refine (alike_newId agree).bind fun id third fourth advance isNew => ?_
  obtain ⟨_, _, isNew, otherIsNew⟩ := isNew
  have agree := advance.agree
  refine Alike.bind (alike_save agree isWithin isNew.admitsPolicy otherIsNew.admitsPolicy)
    fun _ fifth sixth advance _ => ?_
  refine Alike.bind (alike_noteChange advance.agree _ _ _) fun _ _ _ noted _ => .pure noted.agree ?_
  exact ⟨isNew.admitsPolicy.of_spares (advance.trans noted).spares,
    otherIsNew.admitsPolicy.of_spares (advance.trans noted).otherSpares⟩

theorem alike_list (covers : first.Covers within given) :
    Alike catalog fixed within first second (list (.str given)) fun _ _ _ => True := by
  have samePolicies := agree.policies.policiesIn agree.orderly.policies agree.otherOrderly.policies
    covers.trimmed
  have secondRun := exec_list agree.otherOrderly.unplanned given
  rw [← samePolicies, ← agree.policies.backend] at secondRun
  exact .of_eq (exec_list agree.orderly.unplanned given) secondRun (.refl agree) fun _ _ => trivial

theorem alike_findByKey (covers : first.Covers within given)
    (otherCovers : second.Covers within given) (key : Value) :
    Alike catalog fixed within first second (findByKey (.str given) key) fun _ _ _ => True := by
  refine alike_policyByKey? agree covers otherCovers key fun found => ?_
  split
  · exact .pure agree trivial
  · exact .throw agree _

theorem alike_newKey (covers : first.Covers within given)
    (otherCovers : second.Covers within given) (policy : Policy) (changes : Bindings) :
    Alike catalog fixed within first second (newKey (.str given) policy changes)
      fun _ third fourth => third = first ∧ fourth = second := by
  unfold newKey
  split
  · exact .pure agree ⟨rfl, rfl⟩
  · refine .checking agree fun key _ => .ite ?_ (.pure agree ⟨rfl, rfl⟩)
    refine alike_policyByKey? agree covers otherCovers _ fun found => ?_
    split
    · exact .guarded agree fun _ => .pure agree ⟨rfl, rfl⟩
    · exact .pure agree ⟨rfl, rfl⟩

theorem alike_update (covers : first.Covers within given) (otherCovers : second.Covers within given)
    (id actor : Value) (changes : Bindings) :
    Alike catalog fixed within first second (update (.str given) id actor changes)
      fun _ _ _ => True := by
  refine .checking agree fun _ _ => alike_find agree covers otherCovers id
    fun policy member isWithin => .checking agree fun name _ =>
      .checking agree fun description _ => .checking agree fun active _ => ?_
  refine (alike_newKey agree covers otherCovers policy changes).bind fun key _ _ _ unchanged => ?_
  obtain ⟨rfl, rfl⟩ := unchanged
  obtain ⟨admits, otherAdmits⟩ := agree.admitsPolicy member isWithin
  exact Alike.bind (alike_save agree isWithin admits otherAdmits) fun _ _ _ advance _ =>
    (alike_noteChange advance.agree _ _ _).giving _

theorem alike_countRules {id : String} (admits : first.AdmitsPolicy within id)
    (otherAdmits : second.AdmitsPolicy within id) {next : Value → Service α}
    {post : α → System → System → Prop}
    (rest : ∀ count, Alike catalog fixed within first second (next count) post) :
    Alike catalog fixed within first second (countRules (.str id) >>= next) post := by
  have sameCount := agree.policies.countRules agree.orderly.policies agree.otherOrderly.policies
    fun known identified => ⟨admits.owns known identified,
      otherAdmits.owns known (agree.policies.backend ▸ identified)⟩
  have secondRun := exec_countRules agree.otherOrderly.unplanned (.str id)
  rw [← sameCount] at secondRun
  exact .reading agree (exec_countRules agree.orderly.unplanned _) secondRun
    fun count _ => rest count

theorem alike_delete (covers : first.Covers within given) (otherCovers : second.Covers within given)
    (id actor : Value) :
    Alike catalog fixed within first second (delete (.str given) id actor) fun _ _ _ => True := by
  refine alike_find agree covers otherCovers id fun policy member isWithin => ?_
  obtain ⟨admits, otherAdmits⟩ := agree.admitsPolicy member isWithin
  refine alike_countRules agree admits otherAdmits fun count => .checking agree fun positive _ =>
    .guarded agree fun _ => ?_
  refine (alike_deletePolicy agree admits otherAdmits).outcome.bind fun deleted _ _ advance _ => ?_
  split
  · exact alike_noteChange advance.agree _ _ _
  · exact .ite (.throw advance.agree _) (.throw advance.agree _)

end

end PolicyAdministration

end Authorization

/-!
## Rules of a policy

From listing the rules of a policy to copying them with it, this is so for each of the calls on rules.
-/

namespace Authorization

open Service

variable {α β : Type} {catalog : RuleCatalog} {fixed : Keyed String PolicyChain}
  {within : String → Prop} {first second system : System} {given : String}

/-- A service for each item of a list comes to the same when each of them does, wherever it runs, and
what holds of a result goes on to hold. -/
theorem Service.alike_mapM [Host] (agree : System.AgreesOn catalog fixed within first second)
    {make : α → Service β} {items : List α} {post : β → System → System → Prop}
    (lasting : ∀ value third fourth fifth sixth,
      System.Advance catalog fixed within third fourth fifth sixth → post value third fourth →
      post value fifth sixth)
    (each : ∀ item ∈ items, ∀ third fourth,
      System.Advance catalog fixed within first second third fourth →
      Alike catalog fixed within third fourth (make item) post) :
    Alike catalog fixed within first second (items.mapM make) fun values third fourth =>
      ∀ value ∈ values, post value third fourth := by
  induction items generalizing first second with
  | nil =>
      rw [List.mapM_nil]
      exact .pure agree (List.forall_mem_nil _)
  | cons item rest inductionHypothesis =>
      rw [List.mapM_cons]
      refine (each item List.mem_cons_self first second (.refl agree)).bind
        fun value third fourth advance isPost => ?_
      have made := inductionHypothesis advance.agree fun other member fifth sixth further =>
        each other (.tail _ member) fifth sixth (advance.trans further)
      refine made.bind fun values fifth sixth further arePost => .pure further.agree ?_
      exact List.forall_mem_cons.2 ⟨lasting value _ _ _ _ further isPost, arePost⟩

namespace PolicyAdministration

/-- A rule in an organization is found when its policy is, and it is a rule of that policy. -/
theorem exec_findRule (unplanned : system.plans = []) (given : String) (policyId id : Value) :
    exec (findRule (.str given) policyId id) system =
      (system.policies.found given policyId >>= fun policy =>
        system.policies.foundRule policy.id id, system) := by
  unfold findRule
  rw [exec_bind, exec_find unplanned]
  rcases system.policies.found given policyId with error | policy
  · rfl
  · refine exec_finding (exec_rule? unplanned id) rfl fun rule => ?_
    dsimp only
    split
    · rfl
    · rfl

section

variable [Host] (agree : System.AgreesOn catalog fixed within first second)

include agree

/-- What follows a rule that is found comes to the same when it does for every stored rule of a policy of
the organization. -/
theorem alike_findRule (covers : first.Covers within given)
    (otherCovers : second.Covers within given) (policyId id : Value)
    {next : PolicyRule → Service α} {post : α → System → System → Prop}
    (rest : ∀ rule ∈ first.policies.rules.values, rule ∈ second.policies.rules.values →
      first.policies.OwnsPolicy within rule.policyId →
      second.policies.OwnsPolicy within rule.policyId →
      Alike catalog fixed within first second (next rule) post) :
    Alike catalog fixed within first second (findRule (.str given) policyId id >>= next) post := by
  have sameFound := agree.policies.found agree.orderly.policies agree.otherOrderly.policies
    covers.policies otherCovers.policies policyId
  have owned {policy : Policy} (isFound : first.policies.found given policyId = .ok policy) :
      first.policies.OwnsPolicy within policy.id ∧ second.policies.OwnsPolicy within policy.id := by
    obtain ⟨member, isHere⟩ := PolicyStore.found_eq_ok isFound
    have isWithin : within policy.organization := isHere ▸ covers.policies policy member isHere
    exact agree.ownsPolicy member isWithin
  have sameRun : (first.policies.found given policyId >>= fun policy =>
      first.policies.foundRule policy.id id) = (second.policies.found given policyId >>= fun policy =>
        second.policies.foundRule policy.id id) := by
    rw [← sameFound]
    rcases isFound : first.policies.found given policyId with error | policy
    · rfl
    · obtain ⟨owns, otherOwns⟩ := owned isFound
      exact agree.policies.foundRule agree.orderly.policies agree.otherOrderly.policies owns
        otherOwns id
  have secondRun := exec_findRule agree.otherOrderly.unplanned given policyId id
  rw [← sameRun] at secondRun
  refine .reading agree (exec_findRule agree.orderly.unplanned given policyId id) secondRun
    fun rule isRule => ?_
  obtain ⟨policy, isFound, isRule⟩ := Except.bind_eq_ok_iff.1 isRule
  obtain ⟨owns, otherOwns⟩ := owned isFound
  obtain ⟨member, isPolicy⟩ := PolicyStore.foundRule_eq_ok isRule
  have otherMember := agree.policies.mem_rule agree.orderly.policies member (isPolicy ▸ owns)
  exact rest rule member otherMember (isPolicy ▸ owns) (isPolicy ▸ otherOwns)

theorem alike_rulesOfPolicy {id : String} (keeps : first.policies.backend.Keeps id)
    (owns : first.policies.OwnsPolicy within id) (otherOwns : second.policies.OwnsPolicy within id) :
    Alike catalog fixed within first second (rulesOfPolicy (.str id)) fun rules third fourth =>
      third = first ∧ fourth = second ∧
        ∀ rule ∈ rules, rule ∈ first.policies.rules.values ∧ rule.policyId = id := by
  have sameRules := agree.policies.rulesOf agree.orderly.policies agree.otherOrderly.policies keeps
    owns otherOwns
  have secondRun := exec_rulesOfPolicy agree.otherOrderly.unplanned (.str id)
  rw [← sameRules] at secondRun
  refine .of_eq (exec_rulesOfPolicy agree.orderly.unplanned _) secondRun (.refl agree)
    fun rules isRules => ⟨rfl, rfl, fun rule member => ?_⟩
  rw [PolicyStore.rulesOf_str keeps] at isRules
  cases isRules
  exact PolicyStore.mem_rulesWithin.1 (PolicyRule.mem_sorted.1 member)

theorem alike_rulesOfStored {policy : Policy} (member : policy ∈ first.policies.policies.values)
    (isWithin : within policy.organization) :
    Alike catalog fixed within first second (rulesOfPolicy (.str policy.id))
      fun rules third fourth => third = first ∧ fourth = second ∧
        ∀ rule ∈ rules, rule ∈ first.policies.rules.values ∧ rule.policyId = policy.id :=
  have owns := agree.ownsPolicy member isWithin
  alike_rulesOfPolicy agree (agree.orderly.policies.keptPolicies policy member) owns.1 owns.2

theorem alike_tryRule (type : String) (config : Value) :
    Alike catalog fixed within first second (tryRule type config) fun _ third fourth =>
      third = first ∧ fourth = second := by
  have run {system : System} (sameCatalog : system.registry.catalog = catalog) :
      exec (tryRule type config) system =
        ((catalog.create (.str type) config).map fun _ => (), system) := by
    rw [exec_tryRule, sameCatalog]
  exact .of_eq (run agree.orderly.sameCatalog) (run agree.otherOrderly.sameCatalog) (.refl agree)
    fun _ _ => ⟨rfl, rfl⟩

/-! ### Copies -/

theorem alike_copyRule {policyId : String} (admits : first.AdmitsPolicy within policyId)
    (otherAdmits : second.AdmitsPolicy within policyId) (rule : PolicyRule) :
    Alike catalog fixed within first second (copyRule policyId rule) fun copy third fourth =>
      third.AdmitsRule within copy ∧ fourth.AdmitsRule within copy := by
  refine (alike_newId agree).bind fun id third fourth advance isNew => .pure advance.agree ?_
  obtain ⟨_, _, isNew, otherIsNew⟩ := isNew
  exact ⟨isNew.admitsRule (admits.of_spares advance.spares).owns,
    otherIsNew.admitsRule (otherAdmits.of_spares advance.otherSpares).owns⟩

theorem alike_saveCopies {policyId : String} (admits : first.AdmitsPolicy within policyId)
    (otherAdmits : second.AdmitsPolicy within policyId) (rules : List PolicyRule) :
    Alike catalog fixed within first second (saveRules (rules.mapM (copyRule policyId)))
      fun _ _ _ => True :=
  alike_saveRules agree.orderly.unplanned agree.otherOrderly.unplanned <|
    alike_mapM agree
      (fun _ _ _ _ _ advance isPost =>
        ⟨isPost.1.of_spares advance.spares, isPost.2.of_spares advance.otherSpares⟩)
      fun rule _ _ _ advance => alike_copyRule advance.agree (admits.of_spares advance.spares)
        (otherAdmits.of_spares advance.otherSpares) rule

theorem alike_copyRules {copy : Policy} (admits : first.AdmitsPolicy within copy.id)
    (otherAdmits : second.AdmitsPolicy within copy.id) (organization : Value) (source : Policy)
    (rules : List PolicyRule) :
    Alike catalog fixed within first second (copyRules organization source copy rules)
      fun _ _ _ => True := by
  refine (alike_saveCopies agree admits otherAdmits rules).outcome.bind
    fun saved third fourth advance _ => ?_
  have agree := advance.agree
  have admits := admits.of_spares advance.spares
  have otherAdmits := otherAdmits.of_spares advance.otherSpares
  rcases saved with error | _
  · refine alike_countRules agree admits otherAdmits fun count => ?_
    have reports {fifth sixth : System} (agree : System.AgreesOn catalog fixed within fifth sixth) :
        Alike catalog fixed within fifth sixth (do
          note .error .admin ("Policy clone failed: " ++ source.id ++ " -> " ++ copy.id ++ " org=" ++
            organization.text ++ ": " ++ error.logged)
          throw error : Service Unit) fun _ _ _ => True :=
      (alike_note agree _ _ _).bind fun _ _ _ advance _ => .throw advance.agree _
    refine .ite ?_ (reports agree)
    exact (alike_deletePolicy agree admits otherAdmits).bind fun _ _ _ advance _ =>
      reports advance.agree
  · exact .pure agree trivial

theorem alike_clone (covers : first.Covers within given) (otherCovers : second.Covers within given)
    (sourceId name key description actor : Value) :
    Alike catalog fixed within first second
      (clone (.str given) sourceId name key description actor) fun _ _ _ => True := by
  refine alike_find agree covers otherCovers sourceId fun source member isWithin => ?_
  refine (alike_rulesOfStored agree member isWithin).bind fun rules third fourth _ same => ?_
  obtain ⟨rfl, rfl, _⟩ := same
  refine (alike_create agree covers name key _ _ actor).bind fun copy third fourth advance admits => ?_
  refine (alike_copyRules advance.agree admits.1 admits.2 _ source rules).bind
    fun _ _ _ advance _ => ?_
  exact (alike_noteChange advance.agree _ _ _).giving _

/-! ### Rules -/

theorem alike_listRules (covers : first.Covers within given)
    (otherCovers : second.Covers within given) (policyId : Value) :
    Alike catalog fixed within first second (listRules (.str given) policyId) fun _ _ _ => True :=
  alike_find agree covers otherCovers policyId fun _ member isWithin =>
    (alike_rulesOfStored agree member isWithin).mono fun _ _ _ _ => trivial

theorem alike_numbered {policy : Policy} (member : policy ∈ first.policies.policies.values)
    (isWithin : within policy.organization) :
    Alike catalog fixed within first second (nextOrder <$> rulesOfPolicy (.str policy.id))
      fun _ third fourth => third = first ∧ fourth = second :=
  (alike_rulesOfStored agree member isWithin).map
    fun _ _ _ ⟨sameFirst, sameSecond, _⟩ => ⟨sameFirst, sameSecond⟩

theorem alike_saveRule {rule : PolicyRule} (admits : first.AdmitsRule within rule)
    (otherAdmits : second.AdmitsRule within rule) (message : String) (organization actor : Value) :
    Alike catalog fixed within first second (do
      let _ ← saveRules (pure [rule])
      noteChange message organization actor
      return rule) fun _ _ _ => True := by
  have making : Alike catalog fixed within first second (pure [rule]) fun rules third fourth =>
      ∀ rule ∈ rules, third.AdmitsRule within rule ∧ fourth.AdmitsRule within rule :=
    .pure agree (List.forall_mem_singleton.2 ⟨admits, otherAdmits⟩)
  exact (alike_saveRules agree.orderly.unplanned agree.otherOrderly.unplanned making).bind
    fun _ _ _ advance _ => (alike_noteChange advance.agree _ _ _).giving _

theorem alike_saveNewRule {policyId : String} (admits : first.AdmitsPolicy within policyId)
    (otherAdmits : second.AdmitsPolicy within policyId) (make : String → PolicyRule)
    (message : String → String) (organization actor : Value) (isNamed : ∀ id, (make id).id = id)
    (isOwned : ∀ id, (make id).policyId = policyId) :
    Alike catalog fixed within first second (do
      let id ← newId
      let _ ← saveRules (pure [make id])
      noteChange (message id) organization actor
      return make id) fun _ _ _ => True := by
  refine (alike_newId agree).bind fun id third fourth advance isNew => ?_
  obtain ⟨_, _, isNew, otherIsNew⟩ := isNew
  refine alike_saveRule advance.agree (IsNew.admitsRule ?_ ?_) (IsNew.admitsRule ?_ ?_) _ _ _
  · exact (isNamed id).symm ▸ isNew
  · exact (isOwned id).symm ▸ (admits.of_spares advance.spares).owns
  · exact (isNamed id).symm ▸ otherIsNew
  · exact (isOwned id).symm ▸ (otherAdmits.of_spares advance.otherSpares).owns

theorem alike_addRule (covers : first.Covers within given)
    (otherCovers : second.Covers within given)
    (policyId name type config order active description actor : Value) :
    Alike catalog fixed within first second
      (addRule (.str given) policyId name type config order active description actor)
      fun _ _ _ => True := by
  refine alike_find agree covers otherCovers policyId fun policy member isWithin =>
    .checking agree fun name _ => .checking agree fun type _ => .checking agree fun config _ =>
      .checking agree fun active _ => .checking agree fun description _ => ?_
  refine (alike_tryRule agree type config).bind fun _ third fourth _ same => ?_
  obtain ⟨rfl, rfl⟩ := same
  obtain ⟨admits, otherAdmits⟩ := agree.admitsPolicy member isWithin
  dsimp only
  split
  · refine (alike_numbered agree member isWithin).bind fun number fifth sixth _ same => ?_
    obtain ⟨rfl, rfl⟩ := same
    exact alike_saveNewRule agree admits otherAdmits _ _ _ _ (fun _ => rfl) fun _ => rfl
  · exact .checking agree fun number _ =>
      alike_saveNewRule agree admits otherAdmits _ _ _ _ (fun _ => rfl) fun _ => rfl

theorem alike_updateRule (covers : first.Covers within given)
    (otherCovers : second.Covers within given) (policyId id actor : Value) (changes : Bindings) :
    Alike catalog fixed within first second
      (updateRule (.str given) policyId id actor changes) fun _ _ _ => True := by
  refine .checking agree fun _ _ => alike_findRule agree covers otherCovers policyId id
    fun rule member otherMember owns otherOwns => .checking agree fun name _ =>
      .checking agree fun type _ => .checking agree fun config _ => .checking agree fun order _ =>
        .checking agree fun active _ => .checking agree fun description _ => ?_
  have saved (changed : PolicyRule) (sameId : changed.id = rule.id)
      (samePolicy : changed.policyId = rule.policyId) (message : String) (organization : Value) :=
    alike_saveRule agree
      (System.admitsRule_of_mem agree.orderly agree.fresh member owns sameId samePolicy)
      (System.admitsRule_of_mem agree.otherOrderly agree.otherFresh otherMember otherOwns sameId
        samePolicy) message organization actor
  refine .ite ((alike_tryRule agree _ _).bind fun _ third fourth _ same => ?_) ?_
  · obtain ⟨rfl, rfl⟩ := same
    refine saved _ ?_ ?_ _ _
    · rfl
    · rfl
  · refine saved _ ?_ ?_ _ _
    · rfl
    · rfl

theorem alike_deleteRule (covers : first.Covers within given)
    (otherCovers : second.Covers within given) (policyId id actor : Value) :
    Alike catalog fixed within first second
      (PolicyAdministration.deleteRule (.str given) policyId id actor) fun _ _ _ => True := by
  refine alike_findRule agree covers otherCovers policyId id
    fun rule member otherMember owns otherOwns => ?_
  exact (Service.alike_deleteRule agree (agree.orderly.policies.keptRules rule member)
    (PolicyStore.ownsRule_of_mem agree.orderly.policies member owns)
    (PolicyStore.ownsRule_of_mem agree.otherOrderly.policies otherMember otherOwns)).bind
      fun _ _ _ advance _ => alike_noteChange advance.agree _ _ _

theorem alike_reorder (covers : first.Covers within given)
    (otherCovers : second.Covers within given) (policyId orders actor : Value) :
    Alike catalog fixed within first second
      (reorder (.str given) policyId orders actor) fun _ _ _ => True := by
  refine alike_find agree covers otherCovers policyId fun policy member isWithin => ?_
  have keeps := agree.orderly.policies.keptPolicies policy member
  obtain ⟨owns, otherOwns⟩ := agree.ownsPolicy member isWithin
  split
  · exact .throw agree _
  · refine (alike_rulesOfPolicy agree keeps owns otherOwns).bind fun rules third fourth _ same => ?_
    obtain ⟨rfl, rfl, areRules⟩ := same
    refine .checking agree fun updated isNumbered => ?_
    have admits : ∀ rule ∈ updated,
        third.AdmitsRule within rule ∧ fourth.AdmitsRule within rule := by
      intro rule ruleMember
      obtain ⟨old, oldMember, order, rfl⟩ := mem_renumbered isNumbered ruleMember
      obtain ⟨stored, isPolicy⟩ := areRules old oldMember
      have otherStored := agree.policies.mem_rule agree.orderly.policies stored (isPolicy ▸ owns)
      exact ⟨System.admitsRule_of_mem agree.orderly agree.fresh stored (isPolicy ▸ owns) rfl rfl,
        System.admitsRule_of_mem agree.otherOrderly agree.otherFresh otherStored
          (isPolicy ▸ otherOwns) rfl rfl⟩
    refine (alike_saveRules agree.orderly.unplanned agree.otherOrderly.unplanned
      (.pure agree admits)).bind fun _ _ _ saved _ => ?_
    refine (alike_noteChange saved.agree _ _ _).bind fun _ _ _ noted _ => ?_
    have advance := saved.trans noted
    exact (alike_rulesOfPolicy advance.agree (advance.spares.policies.backend ▸ keeps)
      (owns.of_agrees advance.spares.policies)
      (otherOwns.of_agrees advance.otherSpares.policies)).mono fun _ _ _ _ => trivial

/-! ### Trying a policy -/

theorem alike_test (covers : first.Covers within given) (otherCovers : second.Covers within given)
    (policyId principal instance? context : Value) :
    Alike catalog fixed within first second
      (test (.str given) policyId principal instance? context) fun _ _ _ => True := by
  refine alike_find agree covers otherCovers policyId fun policy member isWithin => ?_
  have run (system : System) : exec (chainForPolicy (.str policy.id)) system =
      (.ok (system.registry.snapshot.chainForPolicy policy.id), system) := rfl
  have sameChain := Registry.chainForPolicy_eq agree.orderly.agrees agree.otherOrderly.agrees
    agree.policies agree.orderly.policies member isWithin
  have secondRun := run second
  rw [← sameChain] at secondRun
  refine .reading agree (run first) secondRun fun found _ => ?_
  cases found with
  | none => exact .pure agree trivial
  | some chain =>
      refine .checking agree fun attributes _ => ?_
      exact (alike_judged agree (chain.blind_explain attributes)).mono fun _ _ _ _ => trivial

end

end PolicyAdministration

end Authorization
