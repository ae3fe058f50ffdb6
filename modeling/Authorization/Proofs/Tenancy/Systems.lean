import Authorization.Proofs.Decision.Chain
import Authorization.Proofs.Number
import Authorization.Proofs.System.Orderly
import Authorization.Proofs.System.Upkeep
import Authorization.Proofs.Tenancy.Policies
import Authorization.Proofs.Tenancy.Roles

/-!
# Systems and organizations

Two systems agree on some organizations when both are orderly, draw the same fresh identifiers and have
stores that agree. A system spares the other organizations when it goes on to one with the same of
theirs.
-/

namespace Authorization

/-! ## Fresh identifiers -/

/-- The identifiers that are still to be drawn name nothing in use, and no two of them name the same. -/
structure IdSource.Avoids (ids : IdSource) (backend : Backend) (used : String → Prop) : Prop where
  unused : ∀ number id, ids.drawn < number →
    backend.identifier (.str (ids.spell number)) = .ok (some id) → ¬used id
  distinct : ∀ number another id, ids.drawn < number → ids.drawn < another →
    backend.identifier (.str (ids.spell number)) = .ok (some id) →
    backend.identifier (.str (ids.spell another)) = .ok (some id) → number = another

/-- No identifier that is still to be drawn names what a text names. -/
def IdSource.IsPast (ids : IdSource) (backend : Backend) (text : String) : Prop :=
  ∀ number id, ids.drawn < number →
    backend.identifier (.str (ids.spell number)) = .ok (some id) →
    backend.identifier (.str text) ≠ .ok (some id)

namespace IdSource

variable {ids further : IdSource} {backend : Backend} {used next : String → Prop} {text : String}

/-- Later identifiers are fresh as well. -/
theorem Avoids.later (avoids : ids.Avoids backend used) (sameSpell : further.spell = ids.spell)
    (drawn : ids.drawn ≤ further.drawn) : further.Avoids backend used := by
  refine ⟨fun number id isLater => ?_, fun number another id isLater anotherIsLater => ?_⟩
  · rw [sameSpell]
    exact avoids.unused number id (drawn.trans_lt isLater)
  · rw [sameSpell]
    exact avoids.distinct number another id (drawn.trans_lt isLater) (drawn.trans_lt anotherIsLater)

theorem IsPast.later (isPast : ids.IsPast backend text) (sameSpell : further.spell = ids.spell)
    (drawn : ids.drawn ≤ further.drawn) : further.IsPast backend text := by
  intro number id isLater
  rw [sameSpell]
  exact isPast number id (drawn.trans_lt isLater)

/-- An identifier that has been drawn is not drawn again. -/
theorem Avoids.isPast_spell (avoids : ids.Avoids backend used) :
    ({ ids with drawn := ids.drawn + 1 } : IdSource).IsPast backend (ids.spell (ids.drawn + 1)) := by
  intro number id isLater isNamed isDrawn
  have drawnBefore : ids.drawn + 1 < number := isLater
  have same := avoids.distinct number (ids.drawn + 1) id (Nat.lt_of_succ_lt drawnBefore)
    (Nat.lt_succ_self ids.drawn) isNamed isDrawn
  exact absurd same drawnBefore.ne'

theorem Avoids.isPast_of_used (avoids : ids.Avoids backend used) (isUsed : used text)
    (keeps : backend.Keeps text) : ids.IsPast backend text := by
  intro number id isLater isNamed names
  exact avoids.unused number id isLater isNamed (keeps.eq names ▸ isUsed)

/-- Identifiers stay fresh when at most what some texts name comes into use. -/
theorem Avoids.mono (avoids : ids.Avoids backend used) (texts : List String)
    (arePast : ∀ text ∈ texts, ids.IsPast backend text)
    (bounded : ∀ id, next id →
      used id ∨ ∃ text ∈ texts, backend.identifier (.str text) = .ok (some id)) :
    ids.Avoids backend next := by
  refine ⟨fun number id isLater isNamed isUsed => ?_, avoids.distinct⟩
  rcases bounded id isUsed with old | ⟨text, member, names⟩
  · exact avoids.unused number id isLater isNamed old
  · exact arePast text member number id isLater isNamed names

/-- Numbered identifiers are fresh in memory where nothing in use is spelled like one of them. -/
theorem avoids_numbered (isNumbered : ids.spell = IdStyle.numbered.spell)
    (unlike : ∀ id, used id → ¬"id-".toList <+: id.toList) : ids.Avoids .memory used := by
  have spelled {number : Nat} {id : String}
      (isNamed : Backend.memory.identifier (.str (ids.spell number)) = .ok (some id)) :
      id = "id-" ++ Number.intText number := by
    rw [isNumbered] at isNamed
    cases isNamed
    rfl
  refine ⟨fun number id _ isNamed isUsed => ?_, fun number another id _ _ isNamed isOther => ?_⟩
  · refine unlike id isUsed ?_
    rw [spelled isNamed, String.toList_append]
    exact List.prefix_append _ _
  · have same := (spelled isNamed).symm.trans (spelled isOther)
    exact Number.intText_natCast_injective ((String.append_right_inj "id-").1 same)

end IdSource

/-! ## Chains

Stores that agree on some organizations build the same chains for the policies of these, and the same
policies are in charge there. Registries that agree with such stores therefore answer alike, for keys in
these organizations and for policies of theirs. -/

section Chains

variable {catalog : RuleCatalog} {fixed : Keyed String PolicyChain} {within : String → Prop}
  {store other : PolicyStore} {registry another : Registry} {policy : Policy}

namespace PolicyStore

theorem AgreesOn.chains [Host] (agrees : store.AgreesOn within other)
    (member : policy ∈ store.policies.values) (isWithin : within policy.organization)
    {chain : PolicyChain} {issue? : Option BuildIssue}
    (chains : store.Chains catalog policy chain issue?) :
    other.Chains catalog policy chain issue? := by
  obtain ⟨active, areActive, builds⟩ := chains
  exact ⟨active, areActive.congr (agrees.rules policy member isWithin), builds⟩

theorem AgreesOn.inCharge (agrees : store.AgreesOn within other)
    (isWithin : within policy.organization) (inCharge : store.InCharge policy) :
    other.InCharge policy := by
  obtain ⟨stored, active, rule, member, isPolicy, isActive⟩ := inCharge
  exact ⟨(agrees.policies policy isWithin).1 stored, active, rule,
    (agrees.rules policy stored isWithin rule isPolicy).1 member, isPolicy, isActive⟩

/-- The chain that governs a key in one of the organizations, or in none, is the same. -/
theorem AgreesOn.governs [Host] (agrees : store.AgreesOn within other) {key : String}
    {organization : Option String} (covered : ∀ name, organization = some name → within name)
    {found : Option PolicyChain} (governs : store.Governs catalog fixed key organization found) :
    other.Governs catalog fixed key organization found := by
  cases governs with
  | stored inCharge isKey chains =>
      have isWithin := covered _ rfl
      exact .stored (agrees.inCharge isWithin inCharge) isKey
        (agrees.chains inCharge.stored isWithin chains)
  | fixed noOther =>
      refine .fixed fun policy inCharge isKey same => ?_
      exact noOther policy (agrees.symm.inCharge (covered _ same) inCharge) isKey same

/-- The chain of a policy of one of the organizations is the same. -/
theorem AgreesOn.chainsOf [Host] (agrees : store.AgreesOn within other) (sound : store.Sound)
    (member : policy ∈ store.policies.values) (isWithin : within policy.organization)
    {found : Option PolicyChain} (chainsOf : store.ChainsOf catalog policy.id found) :
    other.ChainsOf catalog policy.id found := by
  generalize same : policy.id = id at chainsOf
  cases chainsOf with
  | stored storedMember isId chains =>
      cases sound.policies.eq_of_key_eq storedMember member (isId.trans same.symm)
      exact .stored ((agrees.policies policy isWithin).1 member) isId
        (agrees.chains member isWithin chains)
  | missing absent => exact absurd same (absent policy member)

end PolicyStore

namespace Registry

theorem chainFor_eq [Host] (isRight : registry.Agrees catalog fixed store)
    (otherIsRight : another.Agrees catalog fixed other) (agrees : store.AgreesOn within other)
    (key : String) {organization : Option String}
    (covered : ∀ name, organization = some name → within name) :
    registry.snapshot.chainFor key organization = another.snapshot.chainFor key organization := by
  have governs := (isRight.chainFor key organization _).1 rfl
  exact ((otherIsRight.chainFor key organization _).2 (agrees.governs covered governs)).symm

theorem chainForPolicy_eq [Host] (isRight : registry.Agrees catalog fixed store)
    (otherIsRight : another.Agrees catalog fixed other) (agrees : store.AgreesOn within other)
    (sound : store.Sound) (member : policy ∈ store.policies.values)
    (isWithin : within policy.organization) :
    registry.snapshot.chainForPolicy policy.id = another.snapshot.chainForPolicy policy.id := by
  have chainsOf := (isRight.chainForPolicy policy.id _).1 rfl
  exact ((otherIsRight.chainForPolicy policy.id _).2
    (agrees.chainsOf sound member isWithin chainsOf)).symm

end Registry

end Chains

/-! ## Systems that agree -/

/-- New identifiers of a system name nothing that its stores hold. -/
structure System.FreshIds (system : System) : Prop where
  policies : system.ids.Avoids system.policies.backend system.policies.Uses
  roles : system.ids.Avoids system.roles.backend system.roles.Uses

namespace System

variable {catalog : RuleCatalog} {fixed : Keyed String PolicyChain} {within : String → Prop}
  {first second third fourth fifth sixth : System}

/-- Two orderly systems with the same fresh identifiers agree on some organizations: on their policies
and the rules of these, on their roles and who holds these, and on the catalog of permissions. -/
structure AgreesOn [Host] (catalog : RuleCatalog) (fixed : Keyed String PolicyChain)
    (within : String → Prop) (first second : System) : Prop where
  orderly : first.Orderly catalog fixed
  otherOrderly : second.Orderly catalog fixed
  fresh : first.FreshIds
  otherFresh : second.FreshIds
  ids : first.ids = second.ids
  cursors : first.journal.cursors = second.journal.cursors
  roles : first.roles.AgreesOn within second.roles
  policies : first.policies.AgreesOn within second.policies

/-- Another system has the same stores. -/
structure SameStores (first second : System) : Prop where
  policies : second.policies = first.policies
  roles : second.roles = first.roles

/-- A system goes on to another one with the same of all other organizations. -/
structure Spares (within : String → Prop) (first second : System) : Prop where
  policies : first.policies.AgreesOn (fun organization => ¬within organization) second.policies
  roles : first.roles.AgreesOn (fun organization => ¬within organization) second.roles
  plain : ∀ among, first.roles.Plain among → second.roles.Plain among
  settings : second.settings = first.settings
  spell : second.ids.spell = first.ids.spell
  drawn : first.ids.drawn ≤ second.ids.drawn

theorem Spares.refl (system : System) : system.Spares within system :=
  ⟨.refl _, .refl _, fun _ => id, rfl, rfl, le_rfl⟩

theorem Spares.trans (one : first.Spares within second) (another : second.Spares within third) :
    first.Spares within third :=
  ⟨one.policies.trans another.policies, one.roles.trans another.roles,
    fun among => another.plain among ∘ one.plain among, another.settings.trans one.settings,
    another.spell.trans one.spell, one.drawn.trans another.drawn⟩

/-- Two systems that agree go on to two that agree again, and both spare the other organizations. -/
structure Advance [Host] (catalog : RuleCatalog) (fixed : Keyed String PolicyChain)
    (within : String → Prop) (first second third fourth : System) : Prop where
  agree : AgreesOn catalog fixed within third fourth
  spares : first.Spares within third
  otherSpares : second.Spares within fourth

theorem Advance.refl [Host] (agree : AgreesOn catalog fixed within first second) :
    Advance catalog fixed within first second first second :=
  ⟨agree, .refl first, .refl second⟩

theorem Advance.trans [Host] (one : Advance catalog fixed within first second third fourth)
    (another : Advance catalog fixed within third fourth fifth sixth) :
    Advance catalog fixed within first second fifth sixth :=
  ⟨another.agree, one.spares.trans another.spares, one.otherSpares.trans another.otherSpares⟩

end System

end Authorization

/-!
## Services that come to the same

A service comes to the same in two systems that agree on some organizations when its results are equal
and the systems after it agree again, without a change for any other organization. Services put together
of such services are such services.
-/

namespace Authorization.Service

variable {α β : Type} {catalog : RuleCatalog} {fixed : Keyed String PolicyChain}
  {within : String → Prop} {first second : System}

/-- A service comes to the same in two systems; on success its value and the systems after it satisfy a
condition. -/
structure Alike [Host] (catalog : RuleCatalog) (fixed : Keyed String PolicyChain)
    (within : String → Prop) (first second : System) (action : Service α)
    (post : α → System → System → Prop) : Prop where
  same : (exec action first).1 = (exec action second).1
  advance : System.Advance catalog fixed within first second (exec action first).2
    (exec action second).2
  post : ∀ value, (exec action first).1 = .ok value →
    post value (exec action first).2 (exec action second).2

namespace Alike

variable {action : Service α} {next : α → Service β} {post : α → System → System → Prop}
  {final : β → System → System → Prop}

theorem of_eq [Host] {result : Except Error α} {third fourth : System}
    (firstRun : exec action first = (result, third))
    (secondRun : exec action second = (result, fourth))
    (advance : System.Advance catalog fixed within first second third fourth)
    (isPost : ∀ value, result = .ok value → post value third fourth) :
    Alike catalog fixed within first second action post := by
  refine ⟨?_, ?_, ?_⟩
  · rw [firstRun, secondRun]
  · rw [firstRun, secondRun]
    exact advance
  · rw [firstRun, secondRun]
    exact isPost

theorem mono [Host] (alike : Alike catalog fixed within first second action post)
    {weaker : α → System → System → Prop}
    (implies : ∀ value third fourth, post value third fourth → weaker value third fourth) :
    Alike catalog fixed within first second action weaker :=
  ⟨alike.same, alike.advance, fun value succeeds => implies value _ _ (alike.post value succeeds)⟩

theorem pure [Host] (agree : System.AgreesOn catalog fixed within first second) {value : α}
    (isPost : post value first second) :
    Alike catalog fixed within first second (Pure.pure value) post := by
  refine of_eq (exec_pure value first) (exec_pure value second) (.refl agree) fun other same => ?_
  cases same
  exact isPost

theorem throw [Host] (agree : System.AgreesOn catalog fixed within first second) (error : Error) :
    Alike catalog fixed within first second (MonadExcept.throw error : Service α) post :=
  of_eq (exec_throw error first) (exec_throw error second) (.refl agree) nofun

theorem orFail [Host] (agree : System.AgreesOn catalog fixed within first second)
    {result : Except Error α} (isPost : ∀ value, result = .ok value → post value first second) :
    Alike catalog fixed within first second (Service.orFail result) post :=
  of_eq (exec_orFail result first) (exec_orFail result second) (.refl agree) isPost

theorem bind [Host] (alike : Alike catalog fixed within first second action post)
    (rest : ∀ value third fourth, System.Advance catalog fixed within first second third fourth →
      post value third fourth → Alike catalog fixed within third fourth (next value) final) :
    Alike catalog fixed within first second (action >>= next) final := by
  obtain ⟨same, advance, isPost⟩ := alike
  revert same advance isPost
  rcases firstRun : exec action first with ⟨firstResult, third⟩
  rcases secondRun : exec action second with ⟨secondResult, fourth⟩
  rintro same advance isPost
  cases same
  cases firstResult with
  | error error =>
      exact of_eq (exec_bind_of_error firstRun) (exec_bind_of_error secondRun) advance nofun
  | ok value =>
      have after := rest value third fourth advance (isPost value rfl)
      refine ⟨?_, ?_, ?_⟩
      · rw [exec_bind_of_ok firstRun, exec_bind_of_ok secondRun]
        exact after.same
      · rw [exec_bind_of_ok firstRun, exec_bind_of_ok secondRun]
        exact advance.trans after.advance
      · rw [exec_bind_of_ok firstRun, exec_bind_of_ok secondRun]
        exact after.post

/-- What only reads, and reads the same in both systems. -/
theorem reading [Host] {result : Except Error α} (agree : System.AgreesOn catalog fixed within first second)
    (firstRun : exec action first = (result, first))
    (secondRun : exec action second = (result, second))
    (rest : ∀ value, result = .ok value →
      Alike catalog fixed within first second (next value) final) :
    Alike catalog fixed within first second (action >>= next) final :=
  have read : Alike catalog fixed within first second action fun value third fourth =>
      result = .ok value ∧ third = first ∧ fourth = second :=
    of_eq firstRun secondRun (.refl agree) fun _ succeeds => ⟨succeeds, rfl, rfl⟩
  read.bind fun value third fourth _ ⟨succeeds, sameFirst, sameSecond⟩ => by
    rw [sameFirst, sameSecond]
    exact rest value succeeds

/-- What only reads, where it makes no difference that it reads different values. -/
theorem asking [Host] {value other : α}
    (firstRun : exec action first = (.ok value, first))
    (secondRun : exec action second = (.ok other, second)) (same : next value = next other)
    (rest : Alike catalog fixed within first second (next value) final) :
    Alike catalog fixed within first second (action >>= next) final := by
  have firstRest : exec (action >>= next) first = exec (next value) first :=
    exec_bind_of_ok firstRun
  have secondRest : exec (action >>= next) second = exec (next value) second := by
    rw [same]
    exact exec_bind_of_ok secondRun
  refine ⟨?_, ?_, ?_⟩
  · rw [firstRest, secondRest]
    exact rest.same
  · rw [firstRest, secondRest]
    exact rest.advance
  · rw [firstRest, secondRest]
    exact rest.post

/-- A question that may be refused in both systems, where it makes no difference that the answers
differ. -/
theorem inquiring [Host] {check : Except Error Unit} {value other : α}
    (agree : System.AgreesOn catalog fixed within first second)
    (firstRun : exec action first = (check.map fun _ => value, first))
    (secondRun : exec action second = (check.map fun _ => other, second))
    (same : next value = next other)
    (rest : Alike catalog fixed within first second (next value) final) :
    Alike catalog fixed within first second (action >>= next) final := by
  cases check with
  | error error =>
      exact .of_eq (exec_bind_of_error firstRun) (exec_bind_of_error secondRun) (.refl agree) nofun
  | ok done => exact asking firstRun secondRun same rest

/-- A check of what is given, which is the same in both systems. -/
theorem checking [Host] {result : Except Error α}
    (agree : System.AgreesOn catalog fixed within first second)
    (rest : ∀ value, result = .ok value →
      Alike catalog fixed within first second (next value) final) :
    Alike catalog fixed within first second (Service.orFail result >>= next) final :=
  reading agree (exec_orFail result first) (exec_orFail result second) rest

theorem map [Host] (alike : Alike catalog fixed within first second action post) {write : α → β}
    (implies : ∀ value third fourth, post value third fourth → final (write value) third fourth) :
    Alike catalog fixed within first second (write <$> action) final := by
  refine ⟨?_, ?_, ?_⟩
  · rw [exec_map, exec_map, alike.same]
  · rw [exec_map, exec_map]
    exact alike.advance
  · rw [exec_map, exec_map]
    intro result succeeds
    obtain ⟨value, isValue, rfl⟩ := Except.map_eq_ok_iff.1 succeeds
    exact implies value _ _ (alike.post value isValue)

/-- The last word of a change: something is done, and a value is given back. -/
theorem giving [Host] (alike : Alike catalog fixed within first second action post) (value : β) :
    Alike catalog fixed within first second (do
      let _ ← action
      return value) fun _ _ _ => True :=
  alike.bind fun _ _ _ advance _ => .pure advance.agree trivial

theorem outcome [Host] (alike : Alike catalog fixed within first second action post) :
    Alike catalog fixed within first second (Service.outcome action)
      fun result third fourth => ∀ value, result = .ok value → post value third fourth := by
  refine ⟨?_, ?_, ?_⟩
  · rw [exec_outcome, exec_outcome, alike.same]
  · rw [exec_outcome, exec_outcome]
    exact alike.advance
  · rw [exec_outcome, exec_outcome]
    intro result succeeds
    obtain rfl := Except.ok.inj succeeds
    exact alike.post

theorem ite [Host] {condition : Prop} [Decidable condition] {other : Service α}
    (isTrue : Alike catalog fixed within first second action post)
    (isFalse : Alike catalog fixed within first second other post) :
    Alike catalog fixed within first second (if condition then action else other) post := by
  split
  · exact isTrue
  · exact isFalse

theorem guarded [Host] {condition : Prop} [Decidable condition] {error : Error} {next : PUnit → Service β}
    (agree : System.AgreesOn catalog fixed within first second)
    (rest : ¬condition → Alike catalog fixed within first second (next ⟨⟩) final) :
    Alike catalog fixed within first second
      (if condition then MonadExcept.throw error >>= next else next ⟨⟩) final := by
  split
  · exact .of_eq (exec_bind_of_error (exec_throw error first))
      (exec_bind_of_error (exec_throw error second)) (.refl agree) nofun
  · rename_i isFalse
    exact rest isFalse

end Alike

/-! ### The log and new identifiers -/

/-- Two systems still agree after their journals have changed, with the same items taken. -/
theorem advance_journal [Host] (agree : System.AgreesOn catalog fixed within first second)
    {journal otherJournal : Journal} (sameCursors : journal.cursors = otherJournal.cursors) :
    System.Advance catalog fixed within first second { first with journal }
      { second with journal := otherJournal } := by
  refine ⟨⟨?_, ?_, ⟨agree.fresh.policies, agree.fresh.roles⟩,
    ⟨agree.otherFresh.policies, agree.otherFresh.roles⟩, agree.ids, sameCursors, agree.roles,
    agree.policies⟩, ⟨.refl _, .refl _, fun _ => id, rfl, rfl, le_rfl⟩,
    ⟨.refl _, .refl _, fun _ => id, rfl, rfl, le_rfl⟩⟩
  · exact System.ofStores_orderly.others first _ _ _ _ _ _ agree.orderly
  · exact System.ofStores_orderly.others second _ _ _ _ _ _ agree.otherOrderly

/-- What writes to the journal without reading its log comes to the same where the same items have been
taken before. -/
theorem alike_journaled [Host] (agree : System.AgreesOn catalog fixed within first second)
    {action : Journaled α} (blind : Journaled.Blind action) :
    Alike catalog fixed within first second (journaled action) fun _ third fourth =>
      first.SameStores third ∧ second.SameStores fourth := by
  obtain ⟨sameValue, sameCursors⟩ := blind first.journal second.journal agree.cursors
  have secondRun := exec_journaled action second
  rw [← sameValue] at secondRun
  exact .of_eq (exec_journaled action first) secondRun (advance_journal agree sameCursors)
    fun _ _ => ⟨⟨rfl, rfl⟩, ⟨rfl, rfl⟩⟩

theorem alike_judged [Host] (agree : System.AgreesOn catalog fixed within first second)
    {action : Judged α} (blind : Judged.Blind action) :
    Alike catalog fixed within first second (judged action) fun _ third fourth =>
      first.SameStores third ∧ second.SameStores fourth :=
  (alike_journaled agree blind.journaled).bind fun _ _ _ advance same =>
    .orFail advance.agree fun _ _ => same

theorem alike_note [Host] (agree : System.AgreesOn catalog fixed within first second) (level : LogLevel)
    (source : LogSource) (message : String) :
    Alike catalog fixed within first second (note level source message) fun _ third fourth =>
      first.SameStores third ∧ second.SameStores fourth :=
  alike_journaled agree (Journaled.blind_note level source message)

theorem alike_ofDraw [Host] (agree : System.AgreesOn catalog fixed within first second) (draw : Draw α) :
    Alike catalog fixed within first second (ofDraw draw) fun _ third fourth =>
      first.SameStores third ∧ second.SameStores fourth :=
  (alike_journaled agree (Journaled.blind_ofDraw draw)).bind fun _ _ _ advance same =>
    .orFail advance.agree fun _ _ => same

/-- A new identifier is the same in both systems, and nothing in use. -/
structure IsNew (system : System) (id : String) : Prop where
  notPolicy : ∀ known, system.policies.backend.identifier (.str id) = .ok (some known) →
    ¬system.policies.Uses known
  notRole : ∀ known, system.roles.backend.identifier (.str id) = .ok (some known) →
    ¬system.roles.Uses known
  pastPolicies : system.ids.IsPast system.policies.backend id
  pastRoles : system.ids.IsPast system.roles.backend id

theorem freshIds_draw (fresh : first.FreshIds) :
    System.FreshIds { first with ids := { first.ids with drawn := first.ids.drawn + 1 } } ∧
      IsNew { first with ids := { first.ids with drawn := first.ids.drawn + 1 } }
        (first.ids.spell (first.ids.drawn + 1)) := by
  have isLater : first.ids.drawn ≤ first.ids.drawn + 1 := Nat.le_succ _
  refine ⟨⟨fresh.policies.later rfl isLater, fresh.roles.later rfl isLater⟩, ?_, ?_, ?_, ?_⟩
  · exact fun known => fresh.policies.unused _ known (Nat.lt_succ_self _)
  · exact fun known => fresh.roles.unused _ known (Nat.lt_succ_self _)
  · exact fresh.policies.isPast_spell
  · exact fresh.roles.isPast_spell

theorem alike_newId [Host] (agree : System.AgreesOn catalog fixed within first second) :
    Alike catalog fixed within first second newId fun id third fourth =>
      first.SameStores third ∧ second.SameStores fourth ∧ IsNew third id ∧ IsNew fourth id := by
  have secondRun := exec_newId second
  rw [← agree.ids] at secondRun
  have drawn := freshIds_draw agree.fresh
  have otherDrawn := freshIds_draw agree.otherFresh
  rw [← agree.ids] at otherDrawn
  refine .of_eq (exec_newId first) secondRun ⟨⟨?_, ?_, drawn.1, otherDrawn.1, rfl, agree.cursors,
    agree.roles, agree.policies⟩, ?_, ?_⟩ fun id same => ?_
  · exact System.ofStores_orderly.others first _ _ _ _ _ _ agree.orderly
  · exact System.ofStores_orderly.others second _ _ _ _ _ _ agree.otherOrderly
  · exact ⟨.refl _, .refl _, fun _ => id, rfl, rfl, Nat.le_succ _⟩
  · have sameSpell : first.ids.spell = second.ids.spell := congrArg IdSource.spell agree.ids
    have sameDrawn : second.ids.drawn = first.ids.drawn := congrArg IdSource.drawn agree.ids.symm
    exact ⟨.refl _, .refl _, fun _ => id, rfl, sameSpell,
      sameDrawn.le.trans (Nat.le_succ _)⟩
  · cases same
    exact ⟨⟨rfl, rfl⟩, ⟨rfl, rfl⟩, drawn.2, otherDrawn.2⟩

end Authorization.Service
